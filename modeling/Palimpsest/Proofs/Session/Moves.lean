import Mathlib.Logic.Relation
import Palimpsest.Proofs.Session.Agreement

/-!
# What calls are made of

Every call on a session is a chain of moves of a few kinds: the source is loaded
afresh, a thread joins, a machine makes a step or fails, the status changes with
a remark, a click is noted, the view is brought up to date. The moves are cut so
that the status never lags behind the machine, and a thread that joins clears
it. What every move keeps is then kept by every list of calls, as long as all
grids are moderate.
-/

namespace Palimpsest.Session

/-! ## Moves -/

/-- The session with one more remark. -/
def remarked (session : Session) (severity : Severity) (event message : String) : Session :=
  { session with
    monitor := session.monitor.write (.remarked severity message)
    remarks := session.remarks ++ [⟨severity, event, message⟩] }

/-- The session at the beginning of a start, with the remark on its entry
point. -/
def opened (session : Session) : Session :=
  leftBy (remarkEntry session.freshMachine.program.entry session.reset)

/-- What a start opens is the reset session with another entry in the journal
and a remark. -/
theorem opened_eq (session : Session) : ∃ entry remarks,
    session.opened =
      { session.reset with
        monitor := session.reset.monitor.write entry
        remarks := remarks } := by
  unfold opened
  cases session.freshMachine.program.entry with
  | none => exact ⟨_, _, rfl⟩
  | some entry => exact ⟨_, _, rfl⟩

@[simp]
theorem opened_machine (session : Session) :
    session.opened.machine = some session.freshMachine := by
  obtain ⟨entry, remarks, opened⟩ := session.opened_eq
  rw [opened]
  rfl

@[simp]
theorem opened_status (session : Session) : session.opened.status = none := by
  obtain ⟨entry, remarks, opened⟩ := session.opened_eq
  rw [opened]
  rfl

@[simp]
theorem opened_error (session : Session) : session.opened.error = none := by
  obtain ⟨entry, remarks, opened⟩ := session.opened_eq
  rw [opened]
  rfl

/-- The source has been loaded afresh, and nothing is live. -/
def restarted (session : Session) : Session :=
  { session.opened with status := some (restingStatus session.freshMachine) }

/-- One of the changes that calls are made of, on moderate grids. -/
inductive Move : Session → Session → Prop
  /-- The source is loaded afresh. -/
  | restart (session : Session) : Move session session.restarted
  /-- A thread joins at a letter of a word, and the run goes on. -/
  | join {session : Session} {machine next : Machine} {monitor : Monitor} {name : String}
      {location : Location} {memory : List Text} (started : session.machine = some machine)
      (calm : session.status ≠ some .error) (ink : machine.program.grid.HasInk location)
      (fits : location.fits = true)
      (joined : Machine.startThread name location memory (machine, session.monitor) =
        .ok () (next, monitor)) :
      Move session { session with machine := some next, monitor := monitor, status := none }
  /-- The machine makes a step, and the session comes to rest with its last
  thread. -/
  | step {session : Session} {machine next : Machine} {monitor : Monitor}
      (started : session.machine = some machine) (calm : session.status ≠ some .error)
      (live : machine.isRunning = true) (moderate : machine.program.grid.Moderate)
      (moderateAfter : next.program.grid.Moderate)
      (stepped : Machine.step (machine, session.monitor) = .ok () (next, monitor)) :
      Move session
        { session with
          machine := some next
          monitor := monitor
          status := if next.isRunning then session.status else some (restingStatus next) }
  /-- A step fails, and nobody is at fault. -/
  | stumble {session : Session} {machine next : Machine} {monitor : Monitor} {failure : Failure}
      (started : session.machine = some machine) (calm : session.status ≠ some .error)
      (live : machine.isRunning = true) (moderate : machine.program.grid.Moderate)
      (moderateAfter : next.program.grid.Moderate)
      (failed : Machine.step (machine, session.monitor) = .error failure (next, monitor))
      (faultless : ∀ fault, failure ≠ .fault fault) :
      Move session { session with machine := some next, monitor := monitor }
  /-- A step fails and freezes the session. -/
  | freeze {session : Session} {machine next : Machine} {monitor : Monitor} {fault : Fault}
      (started : session.machine = some machine) (calm : session.status ≠ some .error)
      (live : machine.isRunning = true) (moderate : machine.program.grid.Moderate)
      (moderateAfter : next.program.grid.Moderate)
      (failed : Machine.step (machine, session.monitor) = .error (.fault fault) (next, monitor)) :
      Move session (noting { session with machine := some next, monitor := monitor } fault)
  /-- A session without live threads comes to rest. -/
  | settle {session : Session} {machine : Machine} (started : session.machine = some machine)
      (calm : session.status ≠ some .error) (idle : machine.isRunning = false) :
      Move session { session with status := some (restingStatus machine) }
  /-- A session with live threads goes on. -/
  | resume {session : Session} {machine : Machine} (started : session.machine = some machine)
      (calm : session.status ≠ some .error) (live : machine.isRunning = true) :
      Move session { session with status := none }
  /-- The budget is used up while some thread is live. -/
  | timeout {session : Session} {machine : Machine} (started : session.machine = some machine)
      (calm : session.status ≠ some .error) (live : machine.isRunning = true)
      (message : String) :
      Move session
        (remarked { session with status := some .timeout } .warning "timeout" message)
  /-- The run is stopped from outside. -/
  | stop {session : Session} (calm : session.status ≠ some .error) (message : String) :
      Move session (remarked { session with status := some .stopped } .info "stop" message)
  /-- A click is noted, at a place that can be written. -/
  | noteClick {session : Session} (calm : session.status ≠ some .error) {location : Location}
      (fits : location.fits = true) (threads : List String) (message : String) :
      Move session
        (remarked { session with clicks := session.clicks ++ [⟨location, threads⟩] } .info "click"
          message)
  /-- The view is brought up to date. -/
  | sync (session : Session) : Move session (leftBy (syncView session))

/-- One session comes from another by a chain of moves. -/
abbrev Moves : Session → Session → Prop :=
  Relation.ReflTransGen Move

/-- What every move keeps is kept by every chain of moves. -/
theorem Moves.keep {good : Session → Prop}
    (keeps : ∀ {session next : Session}, Move session next → good session → good next)
    {session next : Session} (moves : Moves session next) (holds : good session) : good next := by
  induction moves with
  | refl => exact holds
  | tail _ move inductionHypothesis => exact keeps move inductionHypothesis

/-! ## Starts -/

/-- Nobody is at fault in a session that has come to rest. -/
theorem calm_restingStatus (machine : Machine) : some (restingStatus machine) ≠ some .error := by
  unfold restingStatus
  split <;> simp

theorem startMain_of_no_entry {machine : Machine} (monitor : Monitor)
    (unentered : machine.program.entry = none) :
    Machine.startMain (machine, monitor) = .ok false (machine, monitor) := by
  change Machine.start Machine.mainName machine.program.entry [] _ = _
  rw [unentered]
  rfl

theorem startMain_of_entry {machine : Machine} {monitor : Monitor} {entry : Location}
    {state : Machine × Monitor} (entered : machine.program.entry = some entry)
    (joined : Machine.startThread Machine.mainName entry [] (machine, monitor) = .ok () state) :
    Machine.startMain (machine, monitor) = .ok true state := by
  change Machine.start Machine.mainName machine.program.entry [] _ = _
  rw [entered]
  exact bind_eq_ok_iff.mpr ⟨(), state, joined, rfl⟩

theorem onMachine_of_ok {α : Type} {machine next : Machine} {action : Machine.Action α}
    {session : Session} {value : α} {monitor : Monitor}
    (acted : action (machine, session.monitor) = .ok value (next, monitor)) :
    onMachine machine action session =
      .ok value { session with machine := some next, monitor := monitor } := by
  simp only [onMachine, acted]

theorem settleIfIdle_of_started {session : Session} {machine : Machine}
    (started : session.machine = some machine) :
    settleIfIdle session = .ok ()
      { session with
        status := if machine.isRunning then session.status else some (restingStatus machine) } := by
  rcases session with ⟨_, _, _, _, _, running, _, _, _, _⟩
  cases started
  rw [settleIfIdle, get_bind_apply]
  dsimp only
  split
  · rfl
  · rfl

theorem remarkEntry_eq (session : Session) :
    remarkEntry session.freshMachine.program.entry session.reset = .ok () session.opened := by
  unfold opened
  cases session.freshMachine.program.entry with
  | none => rfl
  | some entry => rfl

/-- Without an entry point a start leaves nothing to run. -/
theorem start_of_no_entry {session : Session}
    (unentered : session.freshMachine.program.entry = none) :
    start session = .ok () session.restarted := by
  rw [start_eq, unentered]
  refine bind_eq_ok_iff.mpr ⟨(), _, unentered ▸ session.remarkEntry_eq, ?_⟩
  refine bind_eq_ok_iff.mpr ⟨false, _, onMachine_of_ok (startMain_of_no_entry _ unentered), ?_⟩
  rw [settleIfIdle_of_started rfl, restarted, ← session.opened_machine]
  rfl

/-- With an entry point a start has the main thread join. -/
theorem start_of_entry {session : Session} {machine : Machine} {monitor : Monitor}
    {entry : Location} (entered : session.freshMachine.program.entry = some entry)
    (joined : Machine.startThread Machine.mainName entry []
      (session.freshMachine, session.opened.monitor) = .ok () (machine, monitor)) :
    start session = .ok ()
      { session.opened with machine := some machine, monitor := monitor, status := none } := by
  have live : machine.isRunning = true := by
    rw [(Machine.startThread_eq_ok joined).1]
    simp [Machine.isRunning]
  rw [start_eq, entered]
  refine bind_eq_ok_iff.mpr ⟨(), _, entered ▸ session.remarkEntry_eq, ?_⟩
  refine bind_eq_ok_iff.mpr ⟨true, _, onMachine_of_ok (startMain_of_entry entered joined), ?_⟩
  rw [settleIfIdle_of_started rfl, if_pos live, opened_status]

/-- A started session has a machine, also when its main thread could not join it. -/
theorem isSome_machine_leftBy_start (session : Session) :
    (leftBy (start session)).machine.isSome = true := by
  have apart : ApartFromBooks fun session => session.machine.isSome := fun _ _ _ _ => rfl
  rw [start_eq, bind_of_ok (remarkEntry_eq session),
    leftBy_bind_of_keeps (fun session => session.machine.isSome) fun _ =>
      apart.keeps_settleIfIdle, onMachine]
  split
  · rfl
  · rfl

/-- The machine that a session is ensured to have is its own. -/
theorem started_of_ensured {session ready : Session} {machine : Machine}
    (ensured : ensureMachine session = .ok machine ready) : ready.machine = some machine := by
  have isSome : ready.machine.isSome = true := by
    cases started : session.machine with
    | some running =>
        rw [ensureMachine_of_started started] at ensured
        cases ensured
        rw [started]
        rfl
    | none =>
        rw [ensureMachine_of_unstarted started] at ensured
        rcases bind_eq_ok_iff.mp ensured with ⟨_, left, start_eq, ⟨⟩⟩
        have left := isSome_machine_leftBy_start session
        rwa [start_eq] at left
  obtain ⟨running, started⟩ := Option.isSome_iff_exists.mp isSome
  rw [machine_of_ensured ensured, started, Option.getD_some]

/-- A start of a moderate source succeeds. -/
theorem exists_started {session : Session}
    (moderate : session.freshMachine.program.grid.Moderate) :
    ∃ machine next, start session = .ok () next ∧ next.machine = some machine ∧
      Moves session next := by
  have restart : Moves session session.restarted := .single (.restart session)
  have restartedMachine : session.restarted.machine = some session.freshMachine :=
    session.opened_machine
  cases entered : session.freshMachine.program.entry with
  | none =>
      exact ⟨session.freshMachine, session.restarted, start_of_no_entry entered,
        restartedMachine, restart⟩
  | some place =>
      have ink : session.freshMachine.program.grid.HasInk place :=
        Grid.hasInk_of_entry_eq_some entered
      have fits := moderate.fits_of_isValid ink.isValid
      obtain ⟨told, joined⟩ := Machine.startThread_of_fits fits session.freshMachine
        session.opened.monitor Machine.mainName []
      exact ⟨_, _, start_of_entry entered joined, rfl,
        restart.tail (.join restartedMachine (calm_restingStatus _) ink fits joined)⟩

/-- A session on a moderate grid can be given a machine. -/
theorem exists_ensured {session : Session} (moderate : session.grid.Moderate) :
    ∃ machine ready, ensureMachine session = .ok machine ready ∧
      ready.machine = some machine ∧ Moves session ready := by
  cases started : session.machine with
  | some machine =>
      exact ⟨machine, session, ensureMachine_of_started started, started, .refl⟩
  | none =>
      rw [grid, currentProgram, started] at moderate
      obtain ⟨machine, ready, start_eq, readyMachine, moves⟩ := exists_started moderate
      refine ⟨machine, ready, ?_, readyMachine, moves⟩
      rw [ensureMachine_of_unstarted started]
      refine bind_eq_ok_iff.mpr ⟨(), ready, start_eq, ?_⟩
      rw [get_bind_apply, readyMachine]
      rfl

/-! ## Steps -/

/-- What a step comes to on a session that is ready with its machine. -/
inductive StepOutcome (ready : Session) (machine : Machine) :
    EStateM.Result Failure Session Bool → Prop
  /-- A frozen session stays as it is. -/
  | frozen (harmed : ready.status = some .error) : StepOutcome ready machine (.ok false ready)
  /-- Without live threads the session comes to rest. -/
  | settled (calm : ready.status ≠ some .error) (idle : machine.isRunning = false) :
      StepOutcome ready machine (.ok false { ready with status := some (restingStatus machine) })
  /-- An instruction is carried out. -/
  | executed {next : Machine} {monitor : Monitor} (calm : ready.status ≠ some .error)
      (live : machine.isRunning = true)
      (stepped : Machine.step (machine, ready.monitor) = .ok () (next, monitor)) :
      StepOutcome ready machine (.ok true
        { ready with
          machine := some next
          monitor := monitor
          status := if next.isRunning then ready.status else some (restingStatus next) })
  /-- A fault freezes the session. -/
  | faulted {next : Machine} {monitor : Monitor} {fault : Fault}
      (calm : ready.status ≠ some .error) (live : machine.isRunning = true)
      (failed : Machine.step (machine, ready.monitor) = .error (.fault fault) (next, monitor)) :
      StepOutcome ready machine (.ok false (leftBy (syncView
        (noting { ready with machine := some next, monitor := monitor } fault))))
  /-- Any other failure is handed on. -/
  | failed {next : Machine} {monitor : Monitor} {failure : Failure}
      (calm : ready.status ≠ some .error) (live : machine.isRunning = true)
      (failed : Machine.step (machine, ready.monitor) = .error failure (next, monitor))
      (faultless : ∀ fault, failure ≠ .fault fault) :
      StepOutcome ready machine
        (.error failure { ready with machine := some next, monitor := monitor })

theorem stepOutcome {session ready : Session} {machine : Machine}
    (ensured : ensureMachine session = .ok machine ready) :
    StepOutcome ready machine (step session) := by
  rw [step_of_ensured ensured]
  by_cases harmed : ready.status = some .error
  · rw [if_pos harmed]
    exact .frozen harmed
  · rw [if_neg harmed]
    cases live : machine.isRunning with
    | false => exact .settled harmed live
    | true =>
        rw [if_pos rfl]
        cases stepped : Machine.step (machine, ready.monitor) with
        | ok value state =>
            rw [bind_of_ok (stepMachine_of_ok stepped), if_pos rfl,
              bind_of_ok (settleIfIdle_of_started rfl)]
            exact .executed harmed live stepped
        | error failure state =>
            by_cases faulty : ∃ fault, failure = .fault fault
            · rcases faulty with ⟨fault, rfl⟩
              rw [bind_of_ok (stepMachine_of_fault stepped)]
              exact .faulted harmed live stepped
            · have faultless : ∀ fault, failure ≠ .fault fault := fun fault same =>
                faulty ⟨fault, same⟩
              rw [bind_of_error (stepMachine_of_error stepped faultless)]
              exact .failed harmed live stepped faultless

theorem moves_leftBy_step {session : Session} (moderate : session.grid.Moderate)
    (moderateAfter : (leftBy (step session)).grid.Moderate) :
    Moves session (leftBy (step session)) := by
  obtain ⟨machine, ready, ensured, started, moves⟩ := exists_ensured moderate
  have machineModerate : machine.program.grid.Moderate := by
    rw [(grid_of_ensured ensured).2]
    exact moderate
  have outcome := stepOutcome ensured
  generalize step session = result at outcome moderateAfter ⊢
  cases outcome with
  | frozen harmed => exact moves
  | settled calm idle => exact moves.tail (.settle started calm idle)
  | executed calm live stepped =>
      exact moves.tail (.step started calm live machineModerate moderateAfter stepped)
  | faulted calm live failed =>
      have nextModerate := moderateAfter
      rw [leftBy, keepsGrid_syncView] at nextModerate
      have frozen := moves.tail (.freeze started calm live machineModerate nextModerate failed)
      exact frozen.tail (.sync _)
  | failed calm live failed faultless =>
      exact moves.tail (.stumble started calm live machineModerate moderateAfter failed faultless)

theorem keepsStatus_syncView : Keeps status syncView := by
  intro session
  unfold syncView
  split
  · rfl
  · split <;> rfl

/-- A step that has carried out an instruction leaves nobody at fault. -/
theorem calm_of_step_eq_true {session next : Session}
    (stepped : step session = .ok true next) : next.status ≠ some .error := by
  rcases bind_eq_ok_iff.mp stepped with ⟨machine, ready, ensured, _⟩
  have outcome := stepOutcome ensured
  rw [stepped] at outcome
  cases outcome with
  | executed calm live stepped =>
      dsimp only
      split
      · exact calm
      · exact calm_restingStatus _

/-- A step that has carried out nothing leaves a status. -/
theorem status_ne_none_of_step_eq_false {session next : Session}
    (stepped : step session = .ok false next) : next.status ≠ none := by
  rcases bind_eq_ok_iff.mp stepped with ⟨machine, ready, ensured, _⟩
  have outcome := stepOutcome ensured
  rw [stepped] at outcome
  cases outcome with
  | frozen harmed => simp [harmed]
  | settled calm idle => simp
  | faulted calm live failed =>
      rw [keepsStatus_syncView]
      simp [noting]

/-! ## Runs -/

theorem hasThreads_iff {session : Session} :
    session.hasThreads = true ↔
      ∃ machine, session.machine = some machine ∧ machine.isRunning = true := by
  unfold hasThreads
  cases session.machine with
  | none => simp
  | some machine => simp

theorem runSteps_zero_of_live {session : Session} (live : session.hasThreads = true)
    (total : Nat) :
    runSteps total 0 session = .ok ()
      (remarked { session with status := some .timeout } .warning "timeout"
        ("stopped after " ++ toString total ++ " steps")) := by
  rw [runSteps, get_bind_apply, if_pos live]
  rfl

theorem runSteps_of_idle {session : Session} (idle : session.hasThreads = false)
    (total budget : Nat) : runSteps total budget session = .ok () session := by
  cases budget with
  | zero =>
      rw [runSteps, get_bind_apply, idle]
      rfl
  | succ budget => exact runSteps_succ_of_idle idle total budget

theorem moves_leftBy_runSteps {session : Session} (calm : session.status ≠ some .error)
    {total budget : Nat} (moderate : ∀ count, count ≤ budget →
      (leftBy (runSteps total count session)).grid.Moderate) :
    Moves session (leftBy (runSteps total budget session)) := by
  induction budget generalizing session with
  | zero =>
      cases live : session.hasThreads with
      | false =>
          rw [runSteps_of_idle live]
          exact .refl
      | true =>
          obtain ⟨machine, started, running⟩ := hasThreads_iff.mp live
          rw [runSteps_zero_of_live live]
          exact .single (.timeout started calm running _)
  | succ budget inductionHypothesis =>
      cases live : session.hasThreads with
      | false =>
          rw [runSteps_of_idle live]
          exact .refl
      | true =>
          obtain ⟨moderateBefore, moderateAfter, moderateNext⟩ :=
            moderate_of_runSteps_succ live moderate
          rw [runSteps_succ live]
          apply holds_leftBy_bind (moves_leftBy_step moderateBefore moderateAfter)
          intro executed next stepped moves
          cases executed with
          | false => exact moves
          | true =>
              rw [if_pos rfl]
              exact moves.trans (inductionHypothesis (calm_of_step_eq_true stepped)
                (moderateNext next stepped))

/-- Steps that are over and have left no status have left no live thread. -/
theorem idle_of_runSteps_eq_ok {session next : Session} {total budget : Nat}
    (ran : runSteps total budget session = .ok () next) (unsettled : next.status = none) :
    next.hasThreads = false := by
  induction budget generalizing session with
  | zero =>
      cases live : session.hasThreads with
      | false =>
          rw [runSteps_of_idle live] at ran
          cases ran
          exact live
      | true =>
          rw [runSteps_zero_of_live live] at ran
          cases ran
          cases unsettled
  | succ budget inductionHypothesis =>
      cases live : session.hasThreads with
      | false =>
          rw [runSteps_of_idle live] at ran
          cases ran
          exact live
      | true =>
          rw [runSteps_succ live] at ran
          rcases bind_eq_ok_iff.mp ran with ⟨executed, middle, stepped, ran⟩
          cases executed with
          | false =>
              cases ran
              exact absurd unsettled (status_ne_none_of_step_eq_false stepped)
          | true => exact inductionHypothesis ran

/-- A started session that comes to rest gets a status if it has none, and its
view is brought up to date. -/
theorem rest_of_started {session : Session} {machine : Machine}
    (started : session.machine = some machine) :
    rest session = .ok (session.status.getD (restingStatus machine)) (leftBy (syncView
      { session with status := some (session.status.getD (restingStatus machine)) })) := by
  rw [rest, bind_of_ok (ensureMachine_of_started started)]
  have rested : restedStatus machine session =
      .ok (session.status.getD (restingStatus machine))
        { session with status := some (session.status.getD (restingStatus machine)) } := by
    rcases session with ⟨_, _, _, _, _, _, status, _, _, _⟩
    cases status with
    | none => rfl
    | some status => rfl
  rw [bind_of_ok rested, bind_of_ok (syncView_succeeds _)]
  rfl

theorem leftBy_rest_of_started {session : Session} {machine : Machine}
    (started : session.machine = some machine) :
    leftBy (rest session) = leftBy (syncView
      { session with status := some (session.status.getD (restingStatus machine)) }) := by
  rw [rest_of_started started]
  rfl

/-- A session that has been started stays started. -/
theorem Move.isStarted {session next : Session} (move : Move session next)
    (started : session.isStarted = true) : next.isStarted = true := by
  cases move with
  | restart =>
      simp [Session.isStarted, restarted]
  | sync =>
      obtain ⟨machine, machine_eq⟩ := Option.isSome_iff_exists.mp started
      obtain ⟨program, monitor, _, sync_eq⟩ := syncView_of_started machine_eq
      rw [sync_eq]
      rfl
  | join => rfl
  | step => rfl
  | stumble => rfl
  | freeze => rfl
  | settle => exact started
  | resume => exact started
  | timeout => exact started
  | stop => exact started
  | noteClick => exact started

theorem Moves.exists_machine {session next : Session} {machine : Machine}
    (moves : Moves session next) (started : session.machine = some machine) :
    ∃ last, next.machine = some last :=
  Option.isSome_iff_exists.mp (Moves.keep Move.isStarted moves (by simp [isStarted, started]))

theorem moves_leftBy_rest {session : Session} {machine : Machine}
    (started : session.machine = some machine)
    (idle : session.status = none → machine.isRunning = false) :
    Moves session (leftBy (rest session)) := by
  rw [leftBy_rest_of_started started]
  cases unsettled : session.status with
  | none =>
      have settled : Moves session { session with status := some (restingStatus machine) } :=
        .single (.settle started (by simp [unsettled]) (idle unsettled))
      exact settled.tail (.sync _)
  | some status =>
      have same : { session with status := some status } = session := by rw [← unsettled]
      rw [Option.getD_some, same]
      exact .single (.sync session)

theorem moves_leftBy_run {session : Session} {limit : Option Int}
    (moderate : session.grid.Moderate) (passes : session.PassesModerate (.run limit)) :
    Moves session (leftBy (run limit session)) := by
  obtain ⟨machine, ready, ensured, started, moves⟩ := exists_ensured moderate
  rw [run_of_ensured limit ensured]
  by_cases harmed : ready.status = some .error
  · rw [if_pos harmed]
    exact moves
  · rw [if_neg harmed]
    have moderateRun := passes.moderate_leftBy_runSteps ensured harmed
      (limit.getD ready.options.maxSteps).toNat
    cases live : machine.isRunning with
    | false =>
        -- There is nothing to run, so clearing the status first makes no difference.
        have idle : ({ ready with status := none } : Session).hasThreads = false := by
          simp [hasThreads, started, live]
        have cleared : ({ ready with status := none } : Session).machine = some machine := started
        rw [leftBy_bind_of_ok (runSteps_of_idle idle _ _), leftBy_rest_of_started cleared]
        exact (moves.tail (.settle started harmed live)).tail (.sync _)
    | true =>
        have resumed : Moves ready { ready with status := none } :=
          .single (.resume started harmed live)
        apply moves.trans
        apply holds_leftBy_bind (resumed.trans (moves_leftBy_runSteps (by simp) moderateRun))
        intro _ finished stepped ran
        obtain ⟨last, last_eq⟩ := Moves.exists_machine ran started
        apply ran.trans (moves_leftBy_rest last_eq _)
        intro unsettled
        have idle := idle_of_runSteps_eq_ok stepped unsettled
        simpa [hasThreads, last_eq] using idle

/-! ## Stops and clicks -/

theorem moves_leftBy_stop (session : Session) : Moves session (leftBy (stop session)) := by
  rw [stop, get_bind_apply]
  split
  · exact .refl
  · rename_i calm
    have stopped : Moves session _ := .single (.stop calm "stopped by driver")
    exact stopped.tail (.sync _)

/-- Threads join one after the other. The status does not matter for that, so it
may as well be cleared with the first of them. -/
theorem exists_startedAll {session : Session} {machine : Machine} {status : Option Status}
    (started : session.machine = some machine) (calm : status ≠ some .error)
    (moderate : machine.program.grid.Moderate) (name : String) (memory : List Text)
    {handlers : List Location} (inks : ∀ handler ∈ handlers, machine.program.grid.HasInk handler) :
    ∃ next monitor, startAll name memory handlers session =
        .ok () { session with machine := some next, monitor := monitor } ∧
      Moves { session with status := status }
        { session with
          machine := some next
          monitor := monitor
          status := if handlers.isEmpty then status else none } := by
  induction handlers generalizing session machine status with
  | nil =>
      refine ⟨machine, session.monitor, ?_, ?_⟩
      · rw [← started]
        rfl
      · rw [← started]
        exact .refl
  | cons handler rest inductionHypothesis =>
      have ink := inks handler List.mem_cons_self
      have fits := moderate.fits_of_isValid ink.isValid
      obtain ⟨grown, told, joined, program_eq⟩ : ∃ grown told,
          Machine.startThread name handler memory (machine, session.monitor) =
            .ok () (grown, told) ∧ grown.program = machine.program := by
        obtain ⟨told, joined⟩ :=
          Machine.startThread_of_fits fits machine session.monitor name memory
        exact ⟨_, told, joined, rfl⟩
      have grownStarted : ({ session with machine := some grown, monitor := told } :
        Session).machine = some grown := rfl
      have clearedCalm : (none : Option Status) ≠ some .error := by simp
      rw [← program_eq] at moderate
      have restInks : ∀ later ∈ rest, grown.program.grid.HasInk later := by
        intro later member
        rw [program_eq]
        exact inks later (List.mem_cons_of_mem handler member)
      obtain ⟨next, monitor, allStarted, moves⟩ :=
        inductionHypothesis grownStarted clearedCalm moderate restInks
      refine ⟨next, monitor, ?_, ?_⟩
      · rw [startAll, bind_of_ok (ensureMachine_of_started started),
          bind_of_ok (onMachine_of_ok joined), allStarted]
      · rw [ite_self] at moves
        exact .head (.join started calm ink fits joined) moves

theorem moves_leftBy_click {session : Session} (moderate : session.grid.Moderate)
    (location : Location) : Moves session (leftBy (click location session)) := by
  obtain ⟨machine, ready, ensured, started, moves⟩ := exists_ensured moderate
  have machineModerate : machine.program.grid.Moderate := by
    rw [(grid_of_ensured ensured).2]
    exact moderate
  rw [click, leftBy_bind_of_ok ensured, get_bind_apply]
  by_cases harmed : ready.status = some .error
  · rw [if_pos harmed]
    exact moves
  · rw [if_neg harmed, Location.encode]
    cases fits : location.fits with
    | false => exact moves
    | true =>
        have inks : ∀ handler ∈ machine.program.clickHandlers,
            machine.program.grid.HasInk handler := fun _ => Grid.hasInk_of_mem_clickHandlersFrom
        obtain ⟨next, monitor, allStarted, joins⟩ := exists_startedAll started harmed
          machineModerate ("mouse:" ++ String.ofList location.text) [location.text] inks
        have calm : (if machine.program.clickHandlers.isEmpty then ready.status else none) ≠
            some .error := by
          split
          · exact harmed
          · simp
        have noted := (moves.trans joins).tail (.noteClick calm fits
          (machine.program.clickHandlers.map fun _ => "mouse:" ++ String.ofList location.text)
          ("click at " ++ String.ofList location.text ++ " started " ++
            toString (machine.program.clickHandlers.map fun _ =>
              "mouse:" ++ String.ofList location.text).length ++ " thread(s)"))
        rw [if_pos rfl]
        dsimp only
        rw [leftBy_bind_of_ok allStarted]
        cases noneHandles : machine.program.clickHandlers with
        | nil =>
            rw [noneHandles] at noted
            exact noted
        | cons handler rest =>
            rw [noneHandles] at noted
            exact noted

/-! ## Calls -/

/-- Giving an answer at the end leaves the session as it is. -/
theorem leftBy_bind_pure {α β : Type} (first : Action α) (answer : α → β) (session : Session) :
    leftBy ((first >>= fun value => pure (answer value)) session) = leftBy (first session) :=
  leftBy_bind_of_keeps id (fun _ => .pure _) session

/-- On moderate grids every call is a chain of moves. -/
theorem moves_after {session : Session} {call : Call} (moderate : session.grid.Moderate)
    (passes : session.PassesModerate call) : Moves session (session.after call) := by
  rw [after_eq_leftBy]
  cases call with
  | start =>
      obtain ⟨machine, next, start_eq, _, moves⟩ := exists_started passes.moderate_source
      rw [perform, leftBy_bind_of_ok start_eq]
      exact moves
  | step =>
      rw [perform, leftBy_bind_pure]
      exact moves_leftBy_step moderate passes.moderate_leftBy_step
  | run limit =>
      rw [perform, leftBy_bind_pure]
      exact moves_leftBy_run moderate passes
  | stop =>
      rw [perform, leftBy_bind_pure]
      exact moves_leftBy_stop session
  | click location =>
      rw [perform, leftBy_bind_pure]
      exact moves_leftBy_click moderate location

/-- On moderate grids every list of calls is a chain of moves. -/
theorem moves_afterAll {session : Session} {calls : List Call}
    (stays : session.StaysModerate calls) : Moves session (session.afterAll calls) := by
  induction calls generalizing session with
  | nil => exact .refl
  | cons call rest inductionHypothesis =>
      rcases stays with ⟨moderate, passes, stays⟩
      exact (moves_after moderate passes).trans (inductionHypothesis stays)

end Palimpsest.Session
