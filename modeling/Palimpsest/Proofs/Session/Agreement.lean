import Palimpsest.Proofs.Session.Extent
import Palimpsest.Proofs.Thread.Agreement

/-!
# Sessions with different options

Two sessions are alike when they show the same run: the same grid, threads,
status and remarks. Their options may differ in when the view is brought up to
date and in whether a trace is kept. Every call has the same outcome on alike
sessions and leaves alike sessions, as long as all grids are moderate; and what
their observers have in common and do not lose by being told the same, they keep.
-/

namespace Palimpsest.Session

/-- The same run of the same source. Views, recorders, journals and stamps may
differ. -/
structure Alike (session other : Session) : Prop where
  source : session.source = other.source
  path : session.path = other.path
  maxSteps : session.options.maxSteps = other.options.maxSteps
  machine : Option.Rel Machine.Alike session.machine other.machine
  status : session.status = other.status
  error : session.error = other.error
  clicks : session.clicks = other.clicks
  remarks : session.remarks = other.remarks

variable {session other : Session}

theorem Alike.freshMachine (alike : session.Alike other) :
    session.freshMachine.Alike other.freshMachine := by
  unfold Session.freshMachine
  rw [alike.source]
  exact ⟨⟨rfl, rfl⟩, rfl, rfl, rfl, rfl⟩

/-- Both sessions have been started, or neither has. -/
theorem Alike.machine_cases (alike : session.Alike other) :
    session.machine = none ∧ other.machine = none ∨
      ∃ machine otherMachine, session.machine = some machine ∧
        other.machine = some otherMachine ∧ machine.Alike otherMachine := by
  have machines := alike.machine
  generalize session.machine = machine at machines ⊢
  generalize other.machine = otherMachine at machines ⊢
  cases machines with
  | none => exact .inl ⟨rfl, rfl⟩
  | some machineAlike => exact .inr ⟨_, _, rfl, rfl, machineAlike⟩

theorem Alike.grid (alike : session.Alike other) : session.grid = other.grid := by
  unfold Session.grid currentProgram
  rcases alike.machine_cases with
    ⟨unstarted, otherUnstarted⟩ | ⟨machine, otherMachine, started, otherStarted, machineAlike⟩
  · rw [unstarted, otherUnstarted]
    exact alike.freshMachine.program.grid
  · rw [started, otherStarted]
    exact machineAlike.program.grid

theorem Alike.hasThreads (alike : session.Alike other) :
    session.hasThreads = other.hasThreads := by
  unfold Session.hasThreads
  rcases alike.machine_cases with
    ⟨unstarted, otherUnstarted⟩ | ⟨machine, otherMachine, started, otherStarted, machineAlike⟩
  · rw [unstarted, otherUnstarted]
  · rw [started, otherStarted]
    exact machineAlike.isRunning

/-- Alike sessions show alike receipts: at most the stamp and the trace differ. -/
theorem Alike.receipt (alike : session.Alike other) :
    session.receipt =
      { other.receipt with stamp := session.stamp, steps := session.recorder.trace } := by
  unfold Session.receipt
  rw [alike.source, alike.path, alike.status, alike.error, alike.clicks, alike.remarks]
  rcases alike.machine_cases with
    ⟨unstarted, otherUnstarted⟩ | ⟨machine, otherMachine, started, otherStarted, machineAlike⟩
  · rw [unstarted, otherUnstarted]
    rfl
  · rw [started, otherStarted]
    simp only [machineAlike.program.entry, machineAlike.program.clickHandlers,
      machineAlike.stepCount, machineAlike.threads, Program.lineCount, Program.text,
      machineAlike.program.grid]
    rfl

/-! ## Observers that have something in common -/

/-- The same run of the same source, with observers that have something in
common. -/
structure AlikeHeard (heard : List Observer → List Observer → Prop) (session other : Session) :
    Prop extends Alike session other where
  observers : heard session.monitor.observers other.monitor.observers

variable {heard : List Observer → List Observer → Prop}

theorem Alike.withObservers (alike : session.Alike other)
    (observers : heard session.monitor.observers other.monitor.observers) :
    session.AlikeHeard heard other :=
  ⟨alike, observers⟩

/-! ## Keeping the books -/

theorem sameOutcome_get (alike : session.AlikeHeard heard other) :
    SameOutcome (AlikeHeard heard) (AlikeHeard heard) ((get : Action Session) session)
      ((get : Action Session) other) :=
  .ok alike alike

theorem sameOutcome_write (alike : session.AlikeHeard heard other)
    (entry otherEntry : JournalEntry) :
    SameOutcome Eq (AlikeHeard heard) (write entry session) (write otherEntry other) :=
  .ok rfl { alike with }

theorem sameOutcome_remark (alike : session.AlikeHeard heard other) (severity : Severity)
    (event message : String) :
    SameOutcome Eq (AlikeHeard heard) (remark severity event message session)
      (remark severity event message other) := by
  apply (sameOutcome_write alike _ _).bind
  rintro _ _ middle otherMiddle rfl middleAlike _
  exact .ok rfl { middleAlike with
    remarks := congrArg (· ++ [⟨severity, event, message⟩]) middleAlike.remarks }

theorem AlikeHeard.withStatus (alike : session.AlikeHeard heard other) (status : Option Status) :
    AlikeHeard heard { session with status := status } { other with status := status } :=
  { alike with status := rfl }

theorem sameOutcome_setStatus (alike : session.AlikeHeard heard other) (status : Option Status) :
    SameOutcome Eq (AlikeHeard heard)
      ((modify fun session => { session with status := status } : Action Unit) session)
      ((modify fun session => { session with status := status } : Action Unit) other) :=
  .ok rfl (alike.withStatus status)

theorem sameOutcome_noteClick (alike : session.AlikeHeard heard other) (record : ClickRecord) :
    SameOutcome Eq (AlikeHeard heard)
      ((modify fun session => { session with clicks := session.clicks ++ [record] } :
        Action Unit) session)
      ((modify fun session => { session with clicks := session.clicks ++ [record] } :
        Action Unit) other) :=
  .ok rfl { alike with clicks := congrArg (· ++ [record]) alike.clicks }

/-- Bringing the view up to date leaves a session that shows the same run. -/
theorem syncView_of_started {machine : Machine} (started : session.machine = some machine) :
    ∃ program monitor, program.Alike machine.program ∧ syncView session = .ok ()
      { session with
        machine := some { machine with program := program }
        monitor := monitor } := by
  by_cases immediate : session.options.immediate = true
  · refine ⟨machine.program, session.monitor, .refl _, ?_⟩
    rw [syncView_of_immediate immediate, ← started]
  · obtain ⟨monitor, sync_eq⟩ := syncView_of_deferred started (by simpa using immediate)
    exact ⟨machine.program.updateView.1, monitor, ⟨rfl, rfl⟩, sync_eq⟩

theorem keepsObservers_syncView : Keeps (fun session => session.monitor.observers) syncView := by
  intro session
  unfold syncView
  split
  · rfl
  · split <;> rfl

theorem sameOutcome_syncView (alike : session.AlikeHeard heard other) :
    SameOutcome Eq (AlikeHeard heard) (syncView session) (syncView other) := by
  rcases alike.machine_cases with
    ⟨unstarted, otherUnstarted⟩ | ⟨machine, otherMachine, started, otherStarted, machineAlike⟩
  · rw [syncView_of_unstarted unstarted, syncView_of_unstarted otherUnstarted]
    exact .ok rfl alike
  · obtain ⟨program, monitor, shown, sync_eq⟩ := syncView_of_started started
    obtain ⟨otherProgram, otherMonitor, otherShown, otherSync_eq⟩ :=
      syncView_of_started otherStarted
    have programAlike : program.Alike otherProgram := by
      constructor
      · rw [shown.grid, machineAlike.program.grid, otherShown.grid]
      · rw [shown.entry, machineAlike.program.entry, otherShown.entry]
    have kept := keepsObservers_syncView session
    have otherKept := keepsObservers_syncView other
    rw [sync_eq] at kept
    rw [otherSync_eq] at otherKept
    have common : heard monitor.observers otherMonitor.observers := by
      rw [show monitor.observers = session.monitor.observers from kept,
        show otherMonitor.observers = other.monitor.observers from otherKept]
      exact alike.observers
    rw [sync_eq, otherSync_eq]
    exact .ok rfl { alike with
      machine := .some { machineAlike with program := programAlike }
      observers := common }

theorem AlikeHeard.noting (alike : session.AlikeHeard heard other) (fault : Fault) :
    (session.noting fault).AlikeHeard heard (other.noting fault) :=
  { alike with
    status := rfl
    error := rfl
    remarks := by simp only [Session.noting, alike.remarks] }

theorem restingStatus_eq {machine otherMachine : Machine}
    (machineAlike : machine.Alike otherMachine) :
    restingStatus machine = restingStatus otherMachine := by
  rw [restingStatus, restingStatus, machineAlike.isFinished]

theorem sameOutcome_settle (alike : session.AlikeHeard heard other) {machine otherMachine : Machine}
    (machineAlike : machine.Alike otherMachine) :
    SameOutcome Eq (AlikeHeard heard) (settle machine session) (settle otherMachine other) := by
  unfold settle
  rw [restingStatus_eq machineAlike]
  exact .ok rfl (alike.withStatus _)

theorem sameOutcome_settleIfIdle (alike : session.AlikeHeard heard other) :
    SameOutcome Eq (AlikeHeard heard) (settleIfIdle session) (settleIfIdle other) := by
  apply (sameOutcome_get alike).bind
  intro seen otherSeen left otherLeft seenAlike leftAlike _
  rcases seenAlike.machine_cases with
    ⟨unstarted, otherUnstarted⟩ | ⟨machine, otherMachine, started, otherStarted, machineAlike⟩
  · rw [unstarted, otherUnstarted]
    exact .ok rfl leftAlike
  · rw [started, otherStarted]
    simp only [machineAlike.isRunning]
    split
    · exact .ok rfl leftAlike
    · exact sameOutcome_settle leftAlike machineAlike

theorem sameOutcome_restedStatus (alike : session.AlikeHeard heard other)
    {machine otherMachine : Machine} (machineAlike : machine.Alike otherMachine) :
    SameOutcome Eq (AlikeHeard heard) (restedStatus machine session)
      (restedStatus otherMachine other) := by
  apply (sameOutcome_get alike).bind
  intro seen otherSeen left otherLeft seenAlike leftAlike _
  rw [← seenAlike.status, ← restingStatus_eq machineAlike]
  cases seen.status with
  | some status => exact .ok rfl leftAlike
  | none =>
      apply (sameOutcome_settle leftAlike machineAlike).bind
      rintro _ _ settled otherSettled rfl settledAlike _
      exact .ok rfl settledAlike

/-! ## Letting the machine act -/

theorem sameOutcome_onMachine (alike : session.AlikeHeard heard other) {α : Type}
    {machine otherMachine : Machine} {action : Machine.Action α}
    (same : SameOutcome Eq (Machine.AlikeHeard heard) (action (machine, session.monitor))
      (action (otherMachine, other.monitor))) :
    SameOutcome Eq (AlikeHeard heard) (onMachine machine action session)
      (onMachine otherMachine action other) := by
  unfold onMachine
  generalize action (machine, session.monitor) = result at same ⊢
  generalize action (otherMachine, other.monitor) = otherResult at same ⊢
  cases same with
  | ok agreed leftAlike =>
      exact .ok agreed { alike with machine := .some leftAlike.1, observers := leftAlike.2 }
  | error failure leftAlike =>
      exact .error failure { alike with machine := .some leftAlike.1, observers := leftAlike.2 }

/-- The entry point of a moderate source can be written down. -/
theorem entry_freshMachine_fits (moderate : session.freshMachine.program.grid.Moderate)
    {entry : Location} (entered : session.freshMachine.program.entry = some entry) :
    entry.fits = true := by
  have found : Grid.entry session.freshMachine.program.grid = some entry := entered
  exact moderate.fits_of_isValid (Grid.hasInk_of_entry_eq_some found).isValid

theorem sameOutcome_startMain (hearing : Hearing heard) {machine otherMachine : Machine}
    {monitor otherMonitor : Monitor}
    (machineAlike : Machine.AlikeHeard heard (machine, monitor) (otherMachine, otherMonitor))
    (fits : ∀ entry, machine.program.entry = some entry → entry.fits = true) :
    SameOutcome Eq (Machine.AlikeHeard heard) (Machine.startMain (machine, monitor))
      (Machine.startMain (otherMachine, otherMonitor)) := by
  change SameOutcome Eq (Machine.AlikeHeard heard)
    (Machine.start Machine.mainName machine.program.entry [] (machine, monitor))
    (Machine.start Machine.mainName otherMachine.program.entry [] (otherMachine, otherMonitor))
  rw [← machineAlike.1.program.entry]
  cases entered : machine.program.entry with
  | none => exact .ok rfl machineAlike
  | some entry =>
      apply (Machine.sameOutcome_startThread hearing machineAlike Machine.mainName
        (fits entry entered) []).bind
      rintro _ _ state otherState rfl stateAlike _
      exact .ok rfl stateAlike

theorem AlikeHeard.reset (hearing : Hearing heard) (alike : session.AlikeHeard heard other) :
    session.reset.AlikeHeard heard other.reset :=
  { alike with
    machine := .some alike.freshMachine
    observers := hearing.restarted _ _ alike.observers
    status := rfl
    error := rfl
    clicks := rfl
    remarks := rfl }

theorem sameOutcome_start (hearing : Hearing heard) (alike : session.AlikeHeard heard other)
    (moderate : session.freshMachine.program.grid.Moderate) :
    SameOutcome Eq (AlikeHeard heard) (start session) (start other) := by
  rw [start_eq, start_eq, ← alike.freshMachine.program.entry]
  have remarked : SameOutcome Eq (AlikeHeard heard)
      (remarkEntry session.freshMachine.program.entry session.reset)
      (remarkEntry session.freshMachine.program.entry other.reset) := by
    cases session.freshMachine.program.entry with
    | none => exact sameOutcome_remark (alike.reset hearing) _ _ _
    | some entry => exact sameOutcome_remark (alike.reset hearing) _ _ _
  apply remarked.bind
  rintro _ _ middle otherMiddle rfl middleAlike _
  apply (sameOutcome_onMachine middleAlike (sameOutcome_startMain hearing
    ⟨alike.freshMachine, middleAlike.observers⟩ fun _ => entry_freshMachine_fits moderate)).bind
  rintro _ _ started otherStarted rfl startedAlike _
  exact sameOutcome_settleIfIdle startedAlike

theorem sameOutcome_ensureMachine (hearing : Hearing heard) (alike : session.AlikeHeard heard other)
    (moderate : session.grid.Moderate) :
    SameOutcome Machine.Alike (AlikeHeard heard) (ensureMachine session) (ensureMachine other) := by
  rcases alike.machine_cases with
    ⟨unstarted, otherUnstarted⟩ | ⟨machine, otherMachine, started, otherStarted, machineAlike⟩
  · rw [grid, currentProgram, unstarted] at moderate
    rw [ensureMachine_of_unstarted unstarted, ensureMachine_of_unstarted otherUnstarted]
    apply (sameOutcome_start hearing alike moderate).bind
    rintro _ _ left otherLeft rfl leftAlike _
    refine .ok ?_ leftAlike
    rcases leftAlike.machine_cases with
      ⟨unstarted, otherUnstarted⟩ | ⟨machine, otherMachine, started, otherStarted, machineAlike⟩
    · rw [unstarted, otherUnstarted]
      exact leftAlike.freshMachine
    · rw [started, otherStarted]
      exact machineAlike
  · rw [ensureMachine_of_started started, ensureMachine_of_started otherStarted]
    exact .ok machineAlike alike

/-! ## Steps and runs -/

theorem sameOutcome_stepMachine (hearing : Hearing heard)
    (alike : session.AlikeHeard heard other) {machine otherMachine : Machine}
    (machineAlike : machine.Alike otherMachine)
    (moderate : (leftBy (Machine.step (machine, session.monitor))).1.program.grid.Moderate) :
    SameOutcome Eq (AlikeHeard heard) (stepMachine machine session)
      (stepMachine otherMachine other) := by
  have same := Machine.sameOutcome_step hearing ⟨machineAlike, alike.observers⟩ moderate
  generalize stepped : Machine.step (machine, session.monitor) = result at same
  generalize otherStepped : Machine.step (otherMachine, other.monitor) = otherResult at same
  cases same with
  | ok agreed leftAlike =>
      rw [stepMachine_of_ok stepped, stepMachine_of_ok otherStepped]
      exact .ok rfl { alike with machine := .some leftAlike.1, observers := leftAlike.2 }
  | error failure leftAlike =>
      by_cases faulty : ∃ fault, failure = .fault fault
      · rcases faulty with ⟨fault, rfl⟩
        rw [stepMachine_of_fault stepped, stepMachine_of_fault otherStepped]
        refine .ok rfl (sameOutcome_syncView (AlikeHeard.noting ?_ fault)).leftBy
        exact { alike with machine := .some leftAlike.1, observers := leftAlike.2 }
      · have faultless : ∀ fault, failure ≠ .fault fault := fun fault same => faulty ⟨fault, same⟩
        rw [stepMachine_of_error stepped faultless, stepMachine_of_error otherStepped faultless]
        exact .error failure { alike with machine := .some leftAlike.1, observers := leftAlike.2 }

theorem sameOutcome_step (hearing : Hearing heard) (alike : session.AlikeHeard heard other)
    (moderate : session.grid.Moderate)
    (moderateAfter : (leftBy (step session)).grid.Moderate) :
    SameOutcome Eq (AlikeHeard heard) (step session) (step other) := by
  apply (sameOutcome_ensureMachine hearing alike moderate).bind
  intro machine otherMachine ready otherReady machineAlike readyAlike ensured
  apply (sameOutcome_get readyAlike).bind
  rintro _ otherSeen _ otherReady seenAlike readyAlike ⟨⟩
  rw [← seenAlike.status, ← machineAlike.isRunning]
  by_cases harmed : ready.status = some .error
  · rw [if_pos harmed, if_pos harmed]
    exact .ok rfl readyAlike
  · rw [if_neg harmed, if_neg harmed]
    by_cases running : machine.isRunning = true
    · rw [grid_leftBy_step_of_running ensured harmed running] at moderateAfter
      rw [if_pos running, if_pos running]
      apply (sameOutcome_stepMachine hearing readyAlike machineAlike moderateAfter).bind
      rintro stepped _ middle otherMiddle rfl middleAlike _
      cases stepped with
      | false => exact .ok rfl middleAlike
      | true =>
          apply (sameOutcome_settleIfIdle middleAlike).bind
          rintro _ _ settled otherSettled rfl settledAlike _
          exact .ok rfl settledAlike
    · rw [if_neg running, if_neg running]
      apply (sameOutcome_settle readyAlike machineAlike).bind
      rintro _ _ settled otherSettled rfl settledAlike _
      exact .ok rfl settledAlike

/-- A run agrees with another as long as every part of it leaves a moderate
grid. -/
theorem sameOutcome_runSteps (hearing : Hearing heard) (alike : session.AlikeHeard heard other)
    (total budget : Nat)
    (moderate : ∀ count, count ≤ budget →
      (leftBy (runSteps total count session)).grid.Moderate) :
    SameOutcome Eq (AlikeHeard heard) (runSteps total budget session)
      (runSteps total budget other) := by
  induction budget generalizing session other with
  | zero =>
      rw [runSteps]
      apply (sameOutcome_get alike).bind
      intro seen otherSeen left otherLeft seenAlike leftAlike _
      rw [← seenAlike.hasThreads]
      split
      · apply (sameOutcome_setStatus leftAlike _).bind
        rintro _ _ stopped otherStopped rfl stoppedAlike _
        exact sameOutcome_remark stoppedAlike _ _ _
      · exact .ok rfl leftAlike
  | succ budget inductionHypothesis =>
      cases live : session.hasThreads with
      | false =>
          rw [runSteps_succ_of_idle live, runSteps_succ_of_idle (alike.hasThreads ▸ live)]
          exact .ok rfl alike
      | true =>
          obtain ⟨moderateBefore, moderateAfter, moderateNext⟩ :=
            moderate_of_runSteps_succ live moderate
          rw [runSteps_succ live, runSteps_succ (alike.hasThreads ▸ live)]
          apply (sameOutcome_step hearing alike moderateBefore moderateAfter).bind
          rintro executed _ next otherNext rfl nextAlike stepped
          cases executed with
          | false => exact .ok rfl nextAlike
          | true =>
              simp only [if_true]
              exact inductionHypothesis nextAlike (moderateNext next stepped)

theorem sameOutcome_rest (hearing : Hearing heard) (alike : session.AlikeHeard heard other)
    (moderate : session.grid.Moderate) :
    SameOutcome Eq (AlikeHeard heard) (rest session) (rest other) := by
  apply (sameOutcome_ensureMachine hearing alike moderate).bind
  intro machine otherMachine ready otherReady machineAlike readyAlike _
  apply (sameOutcome_restedStatus readyAlike machineAlike).bind
  rintro status _ noted otherNoted rfl notedAlike _
  apply (sameOutcome_syncView notedAlike).bind
  rintro _ _ synced otherSynced rfl syncedAlike _
  exact .ok rfl syncedAlike

theorem sameOutcome_run (hearing : Hearing heard) (alike : session.AlikeHeard heard other)
    (limit : Option Int) (moderate : session.grid.Moderate)
    (passes : session.PassesModerate (.run limit)) :
    SameOutcome Eq (AlikeHeard heard) (run limit session) (run limit other) := by
  apply (sameOutcome_ensureMachine hearing alike moderate).bind
  intro machine otherMachine ready otherReady machineAlike readyAlike ensured
  apply (sameOutcome_get readyAlike).bind
  rintro _ otherSeen _ otherReady seenAlike readyAlike ⟨⟩
  rw [← seenAlike.status]
  by_cases harmed : ready.status = some .error
  · rw [if_pos harmed]
    exact .ok rfl readyAlike
  · have moderateRun := passes.moderate_leftBy_runSteps ensured harmed
      (limit.getD ready.options.maxSteps).toNat
    rw [if_neg harmed]
    apply (sameOutcome_get readyAlike).bind
    rintro _ otherSeen _ otherReady seenAlike readyAlike ⟨⟩
    rw [← seenAlike.maxSteps]
    apply (sameOutcome_setStatus readyAlike none).bind
    rintro _ _ _ otherCleared rfl clearedAlike ⟨⟩
    apply (sameOutcome_runSteps hearing clearedAlike _ _ moderateRun).bind
    rintro _ _ rested otherRested rfl restedAlike stepped
    have moderateRested := moderateRun _ (Nat.le_refl _)
    rw [stepped] at moderateRested
    exact sameOutcome_rest hearing restedAlike moderateRested

/-! ## Stops and clicks -/

theorem sameOutcome_stop (alike : session.AlikeHeard heard other) :
    SameOutcome Eq (AlikeHeard heard) (stop session) (stop other) := by
  apply (sameOutcome_get alike).bind
  intro seen otherSeen left otherLeft seenAlike leftAlike _
  rw [← seenAlike.status]
  split
  · exact .ok rfl leftAlike
  · apply (sameOutcome_setStatus leftAlike (some .stopped)).bind
    rintro _ _ stopped otherStopped rfl stoppedAlike _
    apply (sameOutcome_remark stoppedAlike _ _ _).bind
    rintro _ _ remarked otherRemarked rfl remarkedAlike _
    exact sameOutcome_syncView remarkedAlike

theorem sameOutcome_startAll (hearing : Hearing heard) (alike : session.AlikeHeard heard other)
    (moderate : session.grid.Moderate) (name : String) (memory : List Text)
    {handlers : List Location} (fits : ∀ handler ∈ handlers, handler.fits = true) :
    SameOutcome Eq (AlikeHeard heard) (startAll name memory handlers session)
      (startAll name memory handlers other) := by
  induction handlers generalizing session other with
  | nil => exact .ok rfl alike
  | cons handler rest inductionHypothesis =>
      apply (sameOutcome_ensureMachine hearing alike moderate).bind
      intro machine otherMachine ready otherReady machineAlike readyAlike ensured
      have same := sameOutcome_onMachine readyAlike (Machine.sameOutcome_startThread hearing
        ⟨machineAlike, readyAlike.observers⟩ name (fits handler List.mem_cons_self) memory)
      apply same.bind
      rintro _ _ joined otherJoined rfl joinedAlike started
      have kept := grid_leftBy_onMachine machine (Machine.startThread name handler memory) ready
      rw [started, program_leftBy_startThread, (grid_of_ensured ensured).2] at kept
      have moderateJoined : joined.grid.Moderate := kept ▸ moderate
      exact inductionHypothesis joinedAlike moderateJoined fun later member =>
        fits later (List.mem_cons_of_mem handler member)

theorem sameOutcome_click (hearing : Hearing heard) (alike : session.AlikeHeard heard other)
    (moderate : session.grid.Moderate) (location : Location) :
    SameOutcome Eq (AlikeHeard heard) (click location session) (click location other) := by
  apply (sameOutcome_ensureMachine hearing alike moderate).bind
  intro machine otherMachine ready otherReady machineAlike readyAlike ensured
  apply (sameOutcome_get readyAlike).bind
  rintro seen otherSeen _ otherReady seenAlike readyAlike ⟨⟩
  rw [← seenAlike.status, ← machineAlike.program.clickHandlers]
  split
  · exact .ok rfl readyAlike
  · cases location.encode with
    | error failure => exact .error failure readyAlike
    | ok shown =>
        obtain ⟨readyGrid, machineGrid⟩ := grid_of_ensured ensured
        have fits : ∀ handler ∈ machine.program.clickHandlers, handler.fits = true := by
          intro handler member
          have ink := Grid.hasInk_of_mem_clickHandlersFrom member
          rw [machineGrid] at ink
          exact moderate.fits_of_isValid ink.isValid
        apply (sameOutcome_startAll hearing readyAlike (readyGrid ▸ moderate) _ _ fits).bind
        rintro _ _ joined otherJoined rfl joinedAlike _
        apply (sameOutcome_noteClick joinedAlike _).bind
        rintro _ _ noted otherNoted rfl notedAlike _
        apply (sameOutcome_remark notedAlike _ _ _).bind
        rintro _ _ remarked otherRemarked rfl remarkedAlike _
        split
        · exact .ok rfl remarkedAlike
        · apply (sameOutcome_setStatus remarkedAlike none).bind
          rintro _ _ cleared otherCleared rfl clearedAlike _
          exact .ok rfl clearedAlike

/-! ## Calls -/

/-- Every call has the same outcome on alike sessions. -/
theorem AlikeHeard.sameOutcome_perform (alike : session.AlikeHeard heard other)
    (hearing : Hearing heard) (moderate : session.grid.Moderate) {call : Call}
    (passes : session.PassesModerate call) :
    SameOutcome Eq (AlikeHeard heard) (perform call session) (perform call other) := by
  cases call with
  | start =>
      apply (sameOutcome_start hearing alike passes.moderate_source).bind
      rintro _ _ started otherStarted rfl startedAlike _
      exact .ok rfl startedAlike
  | step =>
      apply (sameOutcome_step hearing alike moderate passes.moderate_leftBy_step).bind
      rintro executed _ stepped otherStepped rfl steppedAlike _
      exact .ok rfl steppedAlike
  | run limit =>
      apply (sameOutcome_run hearing alike limit moderate passes).bind
      rintro status _ rested otherRested rfl restedAlike _
      exact .ok rfl restedAlike
  | stop =>
      apply (sameOutcome_stop alike).bind
      rintro _ _ stopped otherStopped rfl stoppedAlike _
      exact .ok rfl stoppedAlike
  | click location =>
      apply (sameOutcome_click hearing alike moderate location).bind
      rintro names _ clicked otherClicked rfl clickedAlike _
      exact .ok rfl clickedAlike

/-- Alike sessions stay alike through calls whose grids are all moderate, and their
observers keep what they have in common. -/
theorem AlikeHeard.afterAll (alike : session.AlikeHeard heard other) (hearing : Hearing heard)
    {calls : List Call} (stays : session.StaysModerate calls) :
    (session.afterAll calls).AlikeHeard heard (other.afterAll calls) := by
  induction calls generalizing session other with
  | nil => exact alike
  | cons call rest inductionHypothesis =>
      rcases stays with ⟨moderate, passes, stays⟩
      have left := (alike.sameOutcome_perform hearing moderate passes).leftBy
      rw [← after_eq_leftBy, ← after_eq_leftBy] at left
      exact inductionHypothesis left stays

theorem sameOutcome_perform (alike : session.Alike other) (moderate : session.grid.Moderate)
    {call : Call} (passes : session.PassesModerate call) :
    SameOutcome Eq Alike (perform call session) (perform call other) :=
  ((alike.withObservers trivial).sameOutcome_perform .trivial moderate passes).mono
    fun same => same.toAlike

theorem Alike.afterAll (alike : session.Alike other) {calls : List Call}
    (stays : session.StaysModerate calls) :
    (session.afterAll calls).Alike (other.afterAll calls) :=
  ((alike.withObservers trivial).afterAll .trivial stays).toAlike

end Palimpsest.Session
