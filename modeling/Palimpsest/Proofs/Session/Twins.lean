import Palimpsest.Proofs.Machine.Twins
import Palimpsest.Proofs.Session.Agreement

/-!
# Sessions that cannot be told apart

Two sessions are twins when they have the same source and options and show the same
run: their machines are twins, their own recorders are the same, and so are the
remarks, as far as they count. Paths, stamps, journals and what further observers
have been told before may differ. Every operation has the same outcome on twins,
failures included, and leaves twins; nothing is asked of the extent of their grids.
-/

namespace Palimpsest.Session

/-! ## What a receipt takes from its session -/

theorem path_receipt (session : Session) :
    session.receipt.path = session.path.filter fun name => !name.isEmpty := by
  unfold receipt
  split <;> rfl

theorem stamp_receipt (session : Session) : session.receipt.stamp = session.stamp := by
  unfold receipt
  split <;> rfl

theorem status_receipt (session : Session) : session.receipt.status = session.status := by
  unfold receipt
  split <;> rfl

theorem remarks_receipt (session : Session) : session.receipt.remarks = session.remarks := by
  unfold receipt
  split <;> rfl

/-! ## Twins -/

/-- Two sessions that show the same run, where `same` is what their programs have in
common and `counts` picks the remarks that matter. -/
structure Twin (same : Program → Program → Prop) (counts : Remark → Bool)
    (session other : Session) : Prop where
  source : session.source = other.source
  options : session.options = other.options
  machine : Option.Rel (Machine.Twin same) session.machine other.machine
  observers : Kindred session.monitor.observers other.monitor.observers
  status : session.status = other.status
  error : session.error = other.error
  clicks : session.clicks = other.clicks
  remarks : session.remarks.filter counts = other.remarks.filter counts

variable {same : Program → Program → Prop} {counts : Remark → Bool} {session other : Session}

namespace Twin

theorem freshMachine (twin : session.Twin same counts other) :
    session.freshMachine = other.freshMachine := by
  rw [Session.freshMachine, Session.freshMachine, twin.source, twin.options]

/-- Both sessions have been started, or neither has. -/
theorem machine_cases (twin : session.Twin same counts other) :
    session.machine = none ∧ other.machine = none ∨
      ∃ machine otherMachine, session.machine = some machine ∧
        other.machine = some otherMachine ∧ machine.Twin same otherMachine := by
  have machines := twin.machine
  generalize session.machine = machine at machines ⊢
  generalize other.machine = otherMachine at machines ⊢
  cases machines with
  | none => exact .inl ⟨rfl, rfl⟩
  | some machines => exact .inr ⟨_, _, rfl, rfl, machines⟩

theorem recorder (twin : session.Twin same counts other) : session.recorder = other.recorder :=
  Monitor.recorder_eq_of_kindred twin.observers

theorem hasThreads (twin : session.Twin same counts other) :
    session.hasThreads = other.hasThreads := by
  unfold Session.hasThreads
  rcases twin.machine_cases with
    ⟨unstarted, otherUnstarted⟩ | ⟨machine, otherMachine, started, otherStarted, machines⟩
  · rw [unstarted, otherUnstarted]
  · rw [started, otherStarted, Option.any_some, Option.any_some, Machine.isRunning,
      Machine.isRunning, machines.threads]

/-- Twins show the same receipt, but for the path, the stamp and remarks that do not
count. -/
theorem receipt (bond : Program.Bond same) (twin : session.Twin same counts other) :
    session.receipt =
      { other.receipt with
        path := session.path.filter fun name => !name.isEmpty
        stamp := session.stamp
        remarks := session.remarks } := by
  unfold Session.receipt
  rw [twin.source, twin.recorder, twin.status, twin.error, twin.clicks]
  rcases twin.machine_cases with
    ⟨unstarted, otherUnstarted⟩ | ⟨machine, otherMachine, started, otherStarted, machines⟩
  · rw [unstarted, otherUnstarted]
    rfl
  · have programs := bond.alike machines.program
    rw [started, otherStarted]
    simp only [programs.entry, programs.clickHandlers, machines.stepCount, machines.threads,
      Program.lineCount, Program.text, programs.grid]
    rfl

theorem withStatus (twin : session.Twin same counts other) (status : Option Status) :
    Twin same counts { session with status := status } { other with status := status } :=
  { twin with status := rfl }

theorem withMachine (twin : session.Twin same counts other) {state otherState : Machine × Monitor}
    (states : Machine.TwinHeard same state otherState) :
    Twin same counts { session with machine := some state.1, monitor := state.2 }
      { other with machine := some otherState.1, monitor := otherState.2 } :=
  { twin with machine := .some states.1, observers := states.2 }

/-- Remarks that count on both sides, or on neither, leave twins. -/
theorem withRemarks (twin : session.Twin same counts other) {remarks otherRemarks : List Remark}
    (sameRemarks : remarks.filter counts = otherRemarks.filter counts) :
    Twin same counts { session with remarks := session.remarks ++ remarks }
      { other with remarks := other.remarks ++ otherRemarks } :=
  { twin with remarks := by rw [List.filter_append, List.filter_append, twin.remarks, sameRemarks] }

/-! ## Keeping the books -/

theorem sameOutcome_get (twin : session.Twin same counts other) :
    SameOutcome (Twin same counts) (Twin same counts) ((get : Action Session) session)
      ((get : Action Session) other) :=
  .ok twin twin

theorem sameOutcome_remark (twin : session.Twin same counts other) (severity : Severity)
    (event : String) {message otherMessage : String}
    (sameMessage : [Remark.mk severity event message].filter counts =
      [Remark.mk severity event otherMessage].filter counts) :
    SameOutcome Eq (Twin same counts) (remark severity event message session)
      (remark severity event otherMessage other) :=
  .ok rfl { twin.withRemarks sameMessage with }

theorem sameOutcome_setStatus (twin : session.Twin same counts other) (status : Option Status) :
    SameOutcome Eq (Twin same counts)
      ((modify fun session => { session with status := status } : Action Unit) session)
      ((modify fun session => { session with status := status } : Action Unit) other) :=
  .ok rfl (twin.withStatus status)

theorem sameOutcome_syncView (bond : Program.Bond same) (twin : session.Twin same counts other) :
    SameOutcome Eq (Twin same counts) (syncView session) (syncView other) := by
  rcases twin.machine_cases with
    ⟨unstarted, otherUnstarted⟩ | ⟨machine, otherMachine, started, otherStarted, machines⟩
  · rw [syncView_of_unstarted unstarted, syncView_of_unstarted otherUnstarted]
    exact .ok rfl twin
  · by_cases immediate : session.options.immediate = true
    · rw [syncView_of_immediate immediate, syncView_of_immediate (twin.options ▸ immediate)]
      exact .ok rfl twin
    · have otherDeferred : ¬ other.options.immediate = true := twin.options ▸ immediate
      simp only [syncView, started, otherStarted, if_neg immediate, if_neg otherDeferred]
      exact .ok rfl { twin with
        machine := .some { machines with program := bond.redrawn machines.program } }

theorem noting (twin : session.Twin same counts other) (fault : Fault) :
    (session.noting fault).Twin same counts (other.noting fault) :=
  { twin.withRemarks (Eq.refl ([Remark.mk .error "fatal" fault.report].filter counts)) with
    status := rfl
    error := rfl }

theorem sameOutcome_settle (bond : Program.Bond same) (twin : session.Twin same counts other)
    {machine otherMachine : Machine} (machines : machine.Twin same otherMachine) :
    SameOutcome Eq (Twin same counts) (settle machine session) (settle otherMachine other) := by
  unfold settle
  rw [restingStatus_eq (machines.alike bond)]
  exact .ok rfl (twin.withStatus _)

theorem sameOutcome_settleIfIdle (bond : Program.Bond same)
    (twin : session.Twin same counts other) :
    SameOutcome Eq (Twin same counts) (settleIfIdle session) (settleIfIdle other) := by
  apply twin.sameOutcome_get.bind
  intro seen otherSeen left otherLeft seenTwin leftTwin _
  rcases seenTwin.machine_cases with
    ⟨unstarted, otherUnstarted⟩ | ⟨machine, otherMachine, started, otherStarted, machines⟩
  · rw [unstarted, otherUnstarted]
    exact .ok rfl leftTwin
  · rw [started, otherStarted]
    simp only [(machines.alike bond).isRunning]
    split
    · exact .ok rfl leftTwin
    · exact leftTwin.sameOutcome_settle bond machines

theorem sameOutcome_restedStatus (bond : Program.Bond same)
    (twin : session.Twin same counts other) {machine otherMachine : Machine}
    (machines : machine.Twin same otherMachine) :
    SameOutcome Eq (Twin same counts) (restedStatus machine session)
      (restedStatus otherMachine other) := by
  apply twin.sameOutcome_get.bind
  intro seen otherSeen left otherLeft seenTwin leftTwin _
  rw [← seenTwin.status, ← restingStatus_eq (machines.alike bond)]
  cases seen.status with
  | some status => exact .ok rfl leftTwin
  | none =>
      apply (leftTwin.sameOutcome_settle bond machines).bind
      rintro _ _ settled otherSettled rfl settledTwin _
      exact .ok rfl settledTwin

/-! ## Letting the machine act -/

theorem sameOutcome_onMachine (twin : session.Twin same counts other) {α : Type}
    {machine otherMachine : Machine} {action : Machine.Action α}
    (sameAction : SameOutcome Eq (Machine.TwinHeard same) (action (machine, session.monitor))
      (action (otherMachine, other.monitor))) :
    SameOutcome Eq (Twin same counts) (onMachine machine action session)
      (onMachine otherMachine action other) := by
  unfold onMachine
  generalize action (machine, session.monitor) = result at sameAction ⊢
  generalize action (otherMachine, other.monitor) = otherResult at sameAction ⊢
  cases sameAction with
  | ok agreed states => exact .ok agreed (twin.withMachine states)
  | error failure states => exact .error failure (twin.withMachine states)

end Twin

/-- Sessions with the same source, the same options and observers of the same kinds are
twins as soon as they start over, whatever has happened to them before. -/
theorem twin_reset (bond : Program.Bond same) (source : session.source = other.source)
    (options : session.options = other.options)
    (kinds : (session.monitor.observers.drop 1).map Observer.kind =
      (other.monitor.observers.drop 1).map Observer.kind) :
    session.reset.Twin same counts other.reset where
  source := source
  options := options
  machine := by
    have fresh : session.freshMachine = other.freshMachine := by
      rw [freshMachine, freshMachine, source, options]
    rw [reset, reset, fresh]
    exact .some (.refl bond _)
  observers := by
    rw [reset, reset, options]
    exact .intro _ kinds
  status := rfl
  error := rfl
  clicks := rfl
  remarks := rfl

/-- A start has the same outcome on such sessions, and leaves twins. -/
theorem sameOutcome_start_of_kinds (bond : Program.Bond same)
    (source : session.source = other.source) (options : session.options = other.options)
    (kinds : (session.monitor.observers.drop 1).map Observer.kind =
      (other.monitor.observers.drop 1).map Observer.kind) :
    SameOutcome Eq (Twin same counts) (start session) (start other) := by
  have fresh : session.freshMachine = other.freshMachine := by
    rw [freshMachine, freshMachine, source, options]
  have resetTwin : session.reset.Twin same counts other.reset :=
    twin_reset bond source options kinds
  rw [start_eq, start_eq, ← fresh]
  have remarked : SameOutcome Eq (Twin same counts)
      (remarkEntry session.freshMachine.program.entry session.reset)
      (remarkEntry session.freshMachine.program.entry other.reset) := by
    cases session.freshMachine.program.entry with
    | none => exact resetTwin.sameOutcome_remark _ _ rfl
    | some entry => exact resetTwin.sameOutcome_remark _ _ rfl
  apply remarked.bind
  rintro _ _ middle otherMiddle rfl middleTwin _
  have machines : Machine.TwinHeard same (session.freshMachine, middle.monitor)
      (session.freshMachine, otherMiddle.monitor) :=
    ⟨.refl bond _, middleTwin.observers⟩
  apply (middleTwin.sameOutcome_onMachine (machines.sameOutcome_startMain bond)).bind
  rintro _ _ started otherStarted rfl startedTwin _
  exact startedTwin.sameOutcome_settleIfIdle bond

namespace Twin

/-- Behind their own recorders twins have observers of the same kinds. -/
theorem kinds (twin : session.Twin same counts other) :
    (session.monitor.observers.drop 1).map Observer.kind =
      (other.monitor.observers.drop 1).map Observer.kind := by
  have kindred := twin.observers
  generalize session.monitor.observers = observers at kindred ⊢
  generalize other.monitor.observers = others at kindred ⊢
  cases kindred with
  | intro recorder kinds => exact kinds

theorem sameOutcome_start (bond : Program.Bond same) (twin : session.Twin same counts other) :
    SameOutcome Eq (Twin same counts) (start session) (start other) :=
  sameOutcome_start_of_kinds bond twin.source twin.options twin.kinds

theorem sameOutcome_ensureMachine (bond : Program.Bond same)
    (twin : session.Twin same counts other) :
    SameOutcome (Machine.Twin same) (Twin same counts) (ensureMachine session)
      (ensureMachine other) := by
  rcases twin.machine_cases with
    ⟨unstarted, otherUnstarted⟩ | ⟨machine, otherMachine, started, otherStarted, machines⟩
  · rw [ensureMachine_of_unstarted unstarted, ensureMachine_of_unstarted otherUnstarted]
    apply (twin.sameOutcome_start bond).bind
    rintro _ _ left otherLeft rfl leftTwin _
    refine .ok ?_ leftTwin
    rcases leftTwin.machine_cases with
      ⟨unstarted, otherUnstarted⟩ | ⟨machine, otherMachine, started, otherStarted, machines⟩
    · rw [unstarted, otherUnstarted, leftTwin.freshMachine]
      exact .refl bond _
    · rw [started, otherStarted]
      exact machines
  · rw [ensureMachine_of_started started, ensureMachine_of_started otherStarted]
    exact .ok machines twin

/-! ## Steps and runs -/

theorem sameOutcome_stepMachine (bond : Program.Bond same) (twin : session.Twin same counts other)
    {machine otherMachine : Machine} (machines : machine.Twin same otherMachine) :
    SameOutcome Eq (Twin same counts) (stepMachine machine session)
      (stepMachine otherMachine other) := by
  have states : Machine.TwinHeard same (machine, session.monitor) (otherMachine, other.monitor) :=
    ⟨machines, twin.observers⟩
  have sameStep := states.sameOutcome_step bond
  generalize stepped : Machine.step (machine, session.monitor) = result at sameStep
  generalize otherStepped : Machine.step (otherMachine, other.monitor) = otherResult at sameStep
  cases sameStep with
  | ok agreed left =>
      rw [stepMachine_of_ok stepped, stepMachine_of_ok otherStepped]
      exact .ok rfl (twin.withMachine left)
  | error failure left =>
      by_cases faulty : ∃ fault, failure = .fault fault
      · rcases faulty with ⟨fault, rfl⟩
        rw [stepMachine_of_fault stepped, stepMachine_of_fault otherStepped]
        exact .ok rfl (((twin.withMachine left).noting fault).sameOutcome_syncView bond).leftBy
      · have faultless : ∀ fault, failure ≠ .fault fault := fun fault same => faulty ⟨fault, same⟩
        rw [stepMachine_of_error stepped faultless, stepMachine_of_error otherStepped faultless]
        exact .error failure (twin.withMachine left)

theorem sameOutcome_step (bond : Program.Bond same) (twin : session.Twin same counts other) :
    SameOutcome Eq (Twin same counts) (step session) (step other) := by
  apply (twin.sameOutcome_ensureMachine bond).bind
  intro machine otherMachine ready otherReady machines readyTwin _
  apply readyTwin.sameOutcome_get.bind
  rintro seen otherSeen _ otherReady seenTwin readyTwin ⟨⟩
  rw [← seenTwin.status, ← (machines.alike bond).isRunning]
  split
  · exact .ok rfl readyTwin
  · split
    · apply (readyTwin.sameOutcome_stepMachine bond machines).bind
      rintro stepped _ middle otherMiddle rfl middleTwin _
      cases stepped with
      | false => exact .ok rfl middleTwin
      | true =>
          apply (middleTwin.sameOutcome_settleIfIdle bond).bind
          rintro _ _ settled otherSettled rfl settledTwin _
          exact .ok rfl settledTwin
    · apply (readyTwin.sameOutcome_settle bond machines).bind
      rintro _ _ settled otherSettled rfl settledTwin _
      exact .ok rfl settledTwin

/-- What a run calls its budget only matters where remarks on timeouts count. -/
theorem sameOutcome_runSteps (bond : Program.Bond same) (twin : session.Twin same counts other)
    {total otherTotal : Nat} (budget : Nat)
    (calls : total = otherTotal ∨ ∀ message, counts ⟨.warning, "timeout", message⟩ = false) :
    SameOutcome Eq (Twin same counts) (runSteps total budget session)
      (runSteps otherTotal budget other) := by
  induction budget generalizing session other with
  | zero =>
      rw [runSteps, runSteps]
      apply twin.sameOutcome_get.bind
      intro seen otherSeen left otherLeft seenTwin leftTwin _
      rw [← seenTwin.hasThreads]
      split
      · apply (leftTwin.sameOutcome_setStatus _).bind
        rintro _ _ stopped otherStopped rfl stoppedTwin _
        apply stoppedTwin.sameOutcome_remark
        rcases calls with rfl | ignored
        · rfl
        · simp [ignored]
      · exact .ok rfl leftTwin
  | succ budget inductionHypothesis =>
      cases live : session.hasThreads with
      | false =>
          rw [runSteps_succ_of_idle live, runSteps_succ_of_idle (twin.hasThreads ▸ live)]
          exact .ok rfl twin
      | true =>
          rw [runSteps_succ live, runSteps_succ (twin.hasThreads ▸ live)]
          apply (twin.sameOutcome_step bond).bind
          rintro executed _ next otherNext rfl nextTwin _
          cases executed with
          | false => exact .ok rfl nextTwin
          | true =>
              simp only [if_true]
              exact inductionHypothesis nextTwin

theorem sameOutcome_rest (bond : Program.Bond same) (twin : session.Twin same counts other) :
    SameOutcome Eq (Twin same counts) (rest session) (rest other) := by
  apply (twin.sameOutcome_ensureMachine bond).bind
  intro machine otherMachine ready otherReady machines readyTwin _
  apply (readyTwin.sameOutcome_restedStatus bond machines).bind
  rintro status _ noted otherNoted rfl notedTwin _
  apply (notedTwin.sameOutcome_syncView bond).bind
  rintro _ _ synced otherSynced rfl syncedTwin _
  exact .ok rfl syncedTwin

theorem sameOutcome_run (bond : Program.Bond same) (twin : session.Twin same counts other)
    (limit : Option Int) :
    SameOutcome Eq (Twin same counts) (run limit session) (run limit other) := by
  apply (twin.sameOutcome_ensureMachine bond).bind
  intro machine otherMachine ready otherReady machines readyTwin _
  apply readyTwin.sameOutcome_get.bind
  rintro seen otherSeen _ otherReady seenTwin readyTwin ⟨⟩
  rw [← seenTwin.status]
  split
  · exact .ok rfl readyTwin
  · apply readyTwin.sameOutcome_get.bind
    rintro _ otherSeen _ otherReady seenTwin readyTwin ⟨⟩
    rw [← seenTwin.options]
    apply (readyTwin.sameOutcome_setStatus none).bind
    rintro _ _ _ otherCleared rfl clearedTwin ⟨⟩
    apply (clearedTwin.sameOutcome_runSteps bond _ (.inl rfl)).bind
    rintro _ _ stepped otherStepped rfl steppedTwin _
    exact steppedTwin.sameOutcome_rest bond

/-! ## Stops and clicks -/

theorem sameOutcome_stop (bond : Program.Bond same) (twin : session.Twin same counts other) :
    SameOutcome Eq (Twin same counts) (stop session) (stop other) := by
  apply twin.sameOutcome_get.bind
  intro seen otherSeen left otherLeft seenTwin leftTwin _
  rw [← seenTwin.status]
  split
  · exact .ok rfl leftTwin
  · apply (leftTwin.sameOutcome_setStatus (some .stopped)).bind
    rintro _ _ stopped otherStopped rfl stoppedTwin _
    apply (stoppedTwin.sameOutcome_remark _ _ rfl).bind
    rintro _ _ remarked otherRemarked rfl remarkedTwin _
    exact remarkedTwin.sameOutcome_syncView bond

theorem sameOutcome_startAll (bond : Program.Bond same) (twin : session.Twin same counts other)
    (name : String) (memory : List Text) (handlers : List Location) :
    SameOutcome Eq (Twin same counts) (startAll name memory handlers session)
      (startAll name memory handlers other) := by
  induction handlers generalizing session other with
  | nil => exact .ok rfl twin
  | cons handler rest inductionHypothesis =>
      apply (twin.sameOutcome_ensureMachine bond).bind
      intro machine otherMachine ready otherReady machines readyTwin _
      have states : Machine.TwinHeard same (machine, ready.monitor)
          (otherMachine, otherReady.monitor) :=
        ⟨machines, readyTwin.observers⟩
      apply (readyTwin.sameOutcome_onMachine
        (states.sameOutcome_startThread bond name handler memory)).bind
      rintro _ _ joined otherJoined rfl joinedTwin _
      exact inductionHypothesis joinedTwin

theorem sameOutcome_click (bond : Program.Bond same) (twin : session.Twin same counts other)
    (location : Location) :
    SameOutcome Eq (Twin same counts) (click location session) (click location other) := by
  apply (twin.sameOutcome_ensureMachine bond).bind
  intro machine otherMachine ready otherReady machines readyTwin _
  apply readyTwin.sameOutcome_get.bind
  rintro seen otherSeen _ otherReady seenTwin readyTwin ⟨⟩
  rw [← seenTwin.status, ← (bond.alike machines.program).clickHandlers]
  split
  · exact .ok rfl readyTwin
  · cases location.encode with
    | error failure => exact .error failure readyTwin
    | ok shown =>
        apply (readyTwin.sameOutcome_startAll bond _ _ _).bind
        rintro _ _ joined otherJoined rfl joinedTwin _
        have noted (record : ClickRecord) : SameOutcome Eq (Twin same counts)
            ((modify fun session => { session with clicks := session.clicks ++ [record] } :
              Action Unit) joined)
            ((modify fun session => { session with clicks := session.clicks ++ [record] } :
              Action Unit) otherJoined) :=
          .ok rfl { joinedTwin with clicks := congrArg (· ++ [record]) joinedTwin.clicks }
        apply (noted _).bind
        rintro _ _ noted otherNoted rfl notedTwin _
        apply (notedTwin.sameOutcome_remark _ _ rfl).bind
        rintro _ _ remarked otherRemarked rfl remarkedTwin _
        split
        · exact .ok rfl remarkedTwin
        · apply (remarkedTwin.sameOutcome_setStatus none).bind
          rintro _ _ cleared otherCleared rfl clearedTwin _
          exact .ok rfl clearedTwin

/-! ## Calls and whole runs -/

/-- Every call has the same outcome on twins. -/
theorem sameOutcome_perform (bond : Program.Bond same) (twin : session.Twin same counts other)
    (call : Call) :
    SameOutcome Eq (Twin same counts) (perform call session) (perform call other) := by
  cases call with
  | start =>
      apply (twin.sameOutcome_start bond).bind
      rintro _ _ started otherStarted rfl startedTwin _
      exact .ok rfl startedTwin
  | step =>
      apply (twin.sameOutcome_step bond).bind
      rintro executed _ stepped otherStepped rfl steppedTwin _
      exact .ok rfl steppedTwin
  | run limit =>
      apply (twin.sameOutcome_run bond limit).bind
      rintro status _ rested otherRested rfl restedTwin _
      exact .ok rfl restedTwin
  | stop =>
      apply (twin.sameOutcome_stop bond).bind
      rintro _ _ stopped otherStopped rfl stoppedTwin _
      exact .ok rfl stoppedTwin
  | click location =>
      apply (twin.sameOutcome_click bond location).bind
      rintro names _ clicked otherClicked rfl clickedTwin _
      exact .ok rfl clickedTwin

/-- Twins stay twins whatever they are called to do. -/
theorem afterAll (bond : Program.Bond same) (twin : session.Twin same counts other)
    (calls : List Call) : (session.afterAll calls).Twin same counts (other.afterAll calls) := by
  induction calls generalizing session other with
  | nil => exact twin
  | cons call rest inductionHypothesis =>
      have left := (twin.sameOutcome_perform bond call).leftBy
      rw [← after_eq_leftBy, ← after_eq_leftBy] at left
      exact inductionHypothesis left

theorem sameOutcome_replayFrom (bond : Program.Bond same) (twin : session.Twin same counts other)
    (status : Status) (clicks : List Location) :
    SameOutcome Eq (Twin same counts) (replayFrom status clicks session)
      (replayFrom status clicks other) := by
  induction clicks generalizing status session other with
  | nil => exact .ok rfl twin
  | cons location rest inductionHypothesis =>
      rw [replayFrom]
      split
      · apply (twin.sameOutcome_click bond location).bind
        rintro _ _ clicked otherClicked rfl clickedTwin _
        apply (clickedTwin.sameOutcome_run bond none).bind
        rintro rested _ next otherNext rfl nextTwin _
        exact inductionHypothesis nextTwin rested
      · exact .ok rfl twin

theorem sameOutcome_play (bond : Program.Bond same) (twin : session.Twin same counts other)
    (clicks : List Location) :
    SameOutcome Eq (Twin same counts) (play clicks session) (play clicks other) := by
  apply (twin.sameOutcome_start bond).bind
  rintro _ _ started otherStarted rfl startedTwin _
  apply (startedTwin.sameOutcome_run bond none).bind
  rintro status _ rested otherRested rfl restedTwin _
  exact restedTwin.sameOutcome_replayFrom bond status clicks

end Twin

end Palimpsest.Session
