import Palimpsest.Proofs.Thread.Telling
import Palimpsest.Session.Call

/-!
# The grid and the setup of a session

Only starts and steps change the grid of a session; everything else keeps the
books around it, and nothing changes what the session was set up with. This is
where it is said what it means that all grids of a series of calls are moderate:
the grid between two calls is, and so is the grid after every step of a run.
-/

namespace Palimpsest.Session

/-! ## Bringing the view up to date -/

theorem syncView_of_unstarted {session : Session} (unstarted : session.machine = none) :
    syncView session = .ok () session := by
  simp only [syncView, unstarted]

theorem syncView_of_immediate {session : Session} (immediate : session.options.immediate = true) :
    syncView session = .ok () session := by
  unfold syncView
  split
  · rfl
  · rw [if_pos immediate]

theorem syncView_of_deferred {session : Session} {machine : Machine}
    (started : session.machine = some machine) (deferred : session.options.immediate = false) :
    ∃ monitor, syncView session = .ok ()
      { session with
        machine := some { machine with program := machine.program.updateView.1 }
        monitor := monitor } := by
  simp only [syncView, started, deferred]
  exact ⟨_, rfl⟩

theorem syncView_succeeds (session : Session) :
    syncView session = .ok () (leftBy (syncView session)) := by
  unfold syncView
  split
  · rfl
  · split <;> rfl

/-- The session in which a fault has been noted, before the view is brought up to
date. -/
def noting (session : Session) (fault : Fault) : Session :=
  { session with
    monitor := session.monitor.write (.stopped fault.report)
    status := some .error
    error := some fault
    remarks := session.remarks ++ [⟨.error, "fatal", fault.report⟩] }

theorem fail_eq (fault : Fault) (session : Session) :
    fail fault session = .ok () (leftBy (syncView (session.noting fault))) :=
  syncView_succeeds (session.noting fault)

/-! ## What operations keep -/

/-- The operation keeps a part of the session, whether it succeeds or fails. -/
def Keeps {α β : Type} (part : Session → β) (action : Action α) : Prop :=
  ∀ session, part (leftBy (action session)) = part session

/-- What keeps a part does not matter for it at the end of a sequence. -/
theorem leftBy_bind_of_keeps {α β γ : Type} (part : Session → γ) {first : Action α}
    {next : α → Action β} (keeps : ∀ value, Keeps part (next value)) (session : Session) :
    part (leftBy ((first >>= next) session)) = part (leftBy (first session)) := by
  cases result : first session with
  | ok value middle =>
      rw [leftBy_bind_of_ok result]
      exact keeps value middle
  | error failure left =>
      rw [leftBy_bind_of_error result]
      rfl

namespace Keeps

variable {α β γ : Type} {part : Session → γ}

theorem pure (value : α) : Keeps part (pure value : Action α) :=
  fun _ => rfl

theorem get : Keeps part (get : Action Session) :=
  fun _ => rfl

theorem bind {first : Action α} {next : α → Action β} (keeps : Keeps part first)
    (keepsNext : ∀ value, Keeps part (next value)) : Keeps part (first >>= next) := by
  intro session
  rw [leftBy_bind_of_keeps part keepsNext, keeps]

end Keeps

/-! ## Keeping the books -/

/-- Neither the status nor the journal nor the remarks belong to the part. -/
def ApartFromBooks {γ : Type} (part : Session → γ) : Prop :=
  ∀ session status journal remarks,
    part { session with
      status := status
      monitor := { session.monitor with journal := journal }
      remarks := remarks } = part session

/-- What a start remarks on the entry point. -/
def remarkEntry : Option Location → Action Unit
  | none => remark .warning "start" "no volute header found; nothing to run"
  | some entry => remark .info "start" ("entry point " ++ entry.toString)

namespace ApartFromBooks

variable {γ : Type} {part : Session → γ}

theorem keeps_write (apart : ApartFromBooks part) (entry : JournalEntry) :
    Keeps part (write entry) :=
  fun session => apart session session.status (session.monitor.journal.write entry) session.remarks

theorem keeps_remark (apart : ApartFromBooks part) (severity : Severity)
    (event message : String) : Keeps part (remark severity event message) := by
  apply Keeps.bind (apart.keeps_write _)
  intro _ session
  exact apart session session.status session.monitor.journal _

theorem keeps_setStatus (apart : ApartFromBooks part) (status : Option Status) :
    Keeps part (modify fun session => { session with status := status } : Action Unit) :=
  fun session => apart session status session.monitor.journal session.remarks

theorem keeps_settle (apart : ApartFromBooks part) (machine : Machine) :
    Keeps part (settle machine) :=
  apart.keeps_setStatus _

theorem keeps_settleIfIdle (apart : ApartFromBooks part) : Keeps part settleIfIdle := by
  apply Keeps.bind .get
  intro session
  split
  · exact .pure ()
  · split
    · exact .pure ()
    · exact apart.keeps_settle _

theorem keeps_restedStatus (apart : ApartFromBooks part) (machine : Machine) :
    Keeps part (restedStatus machine) := by
  apply Keeps.bind .get
  intro session
  split
  · exact .pure _
  · exact .bind (apart.keeps_settle machine) fun _ => .pure _

theorem keeps_remarkEntry (apart : ApartFromBooks part) (entry : Option Location) :
    Keeps part (remarkEntry entry) := by
  cases entry with
  | none => exact apart.keeps_remark _ _ _
  | some location => exact apart.keeps_remark _ _ _

end ApartFromBooks

/-! ## What a session is set up with -/

/-- What a session is created with: its source and options, the path and the stamp of
its receipts, and the kinds of the observers behind its own recorder. -/
structure Setup where
  source : Text
  options : Options
  path : Option String
  stamp : Stamp
  kinds : List Observer

def setup (session : Session) : Setup :=
  ⟨session.source, session.options, session.path, session.stamp,
    (session.monitor.observers.drop 1).map Observer.kind⟩

theorem setup_apartFromBooks : ApartFromBooks setup :=
  fun _ _ _ _ => rfl

theorem keepsSetup_syncView : Keeps setup syncView := by
  intro session
  unfold syncView
  split
  · rfl
  · split <;> rfl

theorem keepsSetup_onMachine {α : Type} (machine : Machine) {action : Machine.Action α}
    (keeps : Machine.KeepsKinds action) : Keeps setup (onMachine machine action) := by
  intro session
  have kinds := congrArg (List.drop 1) (keeps (machine, session.monitor))
  unfold onMachine
  cases result : action (machine, session.monitor) with
  | ok value state =>
      rw [result, ← List.map_drop, ← List.map_drop] at kinds
      exact congrArg (Setup.mk _ _ _ _) kinds
  | error failure state =>
      rw [result, ← List.map_drop, ← List.map_drop] at kinds
      exact congrArg (Setup.mk _ _ _ _) kinds

theorem keepsSetup_stop : Keeps setup stop := by
  apply Keeps.bind .get
  intro session
  split
  · exact .pure ()
  · exact .bind (fun _ => rfl) fun _ => .bind (setup_apartFromBooks.keeps_remark _ _ _) fun _ =>
      keepsSetup_syncView

/-! ## Threads that are started -/

/-- Starting a thread changes no program. -/
theorem program_leftBy_startThread (name : String) (location : Location) (memory : List Text)
    (state : Machine × Monitor) :
    (leftBy (Machine.startThread name location memory state)).1.program = state.1.program := by
  rcases state with ⟨machine, monitor⟩
  simp only [Machine.startThread]
  split
  · rfl
  · split <;> rfl

theorem program_leftBy_startMain (state : Machine × Monitor) :
    (leftBy (Machine.startMain state)).1.program = state.1.program := by
  change (leftBy (Machine.start Machine.mainName state.1.program.entry [] state)).1.program = _
  cases state.1.program.entry with
  | none => rfl
  | some location =>
      have kept := program_leftBy_startThread Machine.mainName location [] state
      unfold Machine.start
      cases result : Machine.startThread Machine.mainName location [] state with
      | ok value left =>
          rw [result] at kept
          rw [leftBy_bind_of_ok result]
          exact kept
      | error failure left =>
          rw [result] at kept
          rw [leftBy_bind_of_error result]
          exact kept

/-! ## The grid of a session -/

variable [Cluster.Splitter]

/-- The program of a session: the one it works on, or the one it would start
with. -/
def currentProgram (session : Session) : Program :=
  (session.machine.getD session.freshMachine).program

/-- The grid of the program. -/
def grid (session : Session) : Grid :=
  session.currentProgram.grid

theorem grid_apartFromBooks : ApartFromBooks grid :=
  fun _ _ _ _ => rfl

/-- A run that may make no more steps only keeps the books. -/
theorem ApartFromBooks.keeps_runSteps_zero {γ : Type} {part : Session → γ}
    (apart : ApartFromBooks part) (total : Nat) : Keeps part (runSteps total 0) := by
  rw [runSteps]
  apply Keeps.bind .get
  intro session
  split
  · exact .bind (apart.keeps_setStatus _) fun _ => apart.keeps_remark _ _ _
  · exact .pure ()

theorem keepsGrid_syncView : Keeps grid syncView := by
  intro session
  cases started : session.machine with
  | none =>
      rw [syncView_of_unstarted started]
      rfl
  | some machine =>
      by_cases immediate : session.options.immediate = true
      · rw [syncView_of_immediate immediate]
        rfl
      · obtain ⟨monitor, sync_eq⟩ := syncView_of_deferred started (by simpa using immediate)
        rw [sync_eq, grid, grid, currentProgram, currentProgram, started]
        rfl

/-! ## Machines of a session -/

theorem grid_leftBy_onMachine {α : Type} (machine : Machine) (action : Machine.Action α)
    (session : Session) :
    (leftBy (onMachine machine action session)).grid =
      (leftBy (action (machine, session.monitor))).1.program.grid := by
  unfold onMachine
  cases action (machine, session.monitor) with
  | ok value state => rfl
  | error failure state => rfl

theorem start_eq (session : Session) :
    start session = (do
      remarkEntry session.freshMachine.program.entry
      let _ ← onMachine session.freshMachine Machine.startMain
      settleIfIdle : Action Unit) session.reset := by
  change (match session.freshMachine.program.entry with
    | none => _
    | some entry => _ : Action Unit) session.reset = _
  cases session.freshMachine.program.entry with
  | none => rfl
  | some entry => rfl

/-- A start goes back to the grid of the source. -/
theorem grid_leftBy_start (session : Session) :
    (leftBy (start session)).grid = session.freshMachine.program.grid := by
  rw [start_eq]
  cases remarked : remarkEntry session.freshMachine.program.entry session.reset with
  | ok value middle =>
      rw [leftBy_bind_of_ok remarked,
        leftBy_bind_of_keeps grid (fun _ => grid_apartFromBooks.keeps_settleIfIdle),
        grid_leftBy_onMachine, program_leftBy_startMain]
  | error failure left =>
      have kept := grid_apartFromBooks.keeps_remarkEntry session.freshMachine.program.entry
        session.reset
      rw [remarked] at kept
      rw [leftBy_bind_of_error remarked]
      exact kept

theorem ensureMachine_of_started {session : Session} {machine : Machine}
    (started : session.machine = some machine) : ensureMachine session = .ok machine session := by
  rw [ensureMachine, get_bind_apply, started]
  rfl

theorem ensureMachine_of_unstarted {session : Session} (unstarted : session.machine = none) :
    ensureMachine session = (do
      start
      let started ← get
      return started.machine.getD started.freshMachine : Action Machine) session := by
  rw [ensureMachine, get_bind_apply, unstarted]

theorem keepsGrid_ensureMachine : Keeps grid ensureMachine := by
  intro session
  cases started : session.machine with
  | some machine =>
      rw [ensureMachine_of_started started]
      rfl
  | none =>
      rw [ensureMachine_of_unstarted started,
        leftBy_bind_of_keeps grid (fun _ => .bind .get fun _ => .pure _), grid_leftBy_start,
        grid, currentProgram, started]
      rfl

/-- The machine that a session is ensured to have is its own, or the one it would
start with. -/
theorem machine_of_ensured {session ready : Session} {machine : Machine}
    (ensured : ensureMachine session = .ok machine ready) :
    machine = ready.machine.getD ready.freshMachine := by
  cases started : session.machine with
  | some running =>
      rw [ensureMachine_of_started started] at ensured
      cases ensured
      rw [started]
      rfl
  | none =>
      rw [ensureMachine_of_unstarted started] at ensured
      rcases bind_eq_ok_iff.mp ensured with ⟨_, left, _, returned⟩
      cases returned
      rfl

/-- A session that is ensured to have a machine has the grid that it had. -/
theorem grid_of_ensured {session ready : Session} {machine : Machine}
    (ensured : ensureMachine session = .ok machine ready) :
    ready.grid = session.grid ∧ machine.program.grid = session.grid := by
  have kept := keepsGrid_ensureMachine session
  rw [ensured] at kept
  refine ⟨kept, ?_⟩
  rw [machine_of_ensured ensured]
  exact kept

/-! ## Steps and runs -/

section StepMachine

variable {machine next : Machine} {session : Session} {monitor : Monitor}

theorem stepMachine_of_ok
    (stepped : Machine.step (machine, session.monitor) = .ok () (next, monitor)) :
    stepMachine machine session =
      .ok true { session with machine := some next, monitor := monitor } := by
  simp only [stepMachine, onMachine, stepped]

/-- A fault is noted and not handed on. -/
theorem stepMachine_of_fault {fault : Fault}
    (failed : Machine.step (machine, session.monitor) = .error (.fault fault) (next, monitor)) :
    stepMachine machine session = .ok false (leftBy (syncView
      (noting { session with machine := some next, monitor := monitor } fault))) := by
  simp only [stepMachine, onMachine, failed, fail_eq]

theorem stepMachine_of_error {failure : Failure}
    (failed : Machine.step (machine, session.monitor) = .error failure (next, monitor))
    (faultless : ∀ fault, failure ≠ .fault fault) :
    stepMachine machine session =
      .error failure { session with machine := some next, monitor := monitor } := by
  cases failure with
  | fault raised => exact absurd rfl (faultless raised)
  | _ => simp only [stepMachine, onMachine, failed]

end StepMachine

theorem grid_leftBy_stepMachine (machine : Machine) (session : Session) :
    (leftBy (stepMachine machine session)).grid =
      (leftBy (Machine.step (machine, session.monitor))).1.program.grid := by
  cases stepped : Machine.step (machine, session.monitor) with
  | ok value state =>
      rw [stepMachine_of_ok stepped]
      rfl
  | error failure state =>
      by_cases faulty : ∃ fault, failure = .fault fault
      · rcases faulty with ⟨fault, rfl⟩
        rw [stepMachine_of_fault stepped]
        exact keepsGrid_syncView _
      · rw [stepMachine_of_error stepped fun fault same => faulty ⟨fault, same⟩]
        rfl

/-- What a step comes to once the session has a machine. -/
theorem step_of_ensured {session ready : Session} {machine : Machine}
    (ensured : ensureMachine session = .ok machine ready) :
    step session =
      if ready.status = some .error then .ok false ready
      else if machine.isRunning = true then
        (do
          if (← stepMachine machine) then
            settleIfIdle
            return true
          else return false : Action Bool) ready
      else .ok false { ready with status := some (restingStatus machine) } := by
  change EStateM.bind ensureMachine _ session = _
  rw [EStateM.bind, ensured]
  simp only [get_bind_apply]
  split
  · rfl
  · split <;> rfl

/-- The grid that a step of a running session leaves is that of its machine. -/
theorem grid_leftBy_step_of_running {session ready : Session} {machine : Machine}
    (ensured : ensureMachine session = .ok machine ready)
    (unharmed : ready.status ≠ some .error) (running : machine.isRunning = true) :
    (leftBy (step session)).grid =
      (leftBy (Machine.step (machine, ready.monitor))).1.program.grid := by
  rw [step_of_ensured ensured, if_neg unharmed, if_pos running, leftBy_bind_of_keeps grid,
    grid_leftBy_stepMachine]
  intro stepped
  split
  · exact .bind grid_apartFromBooks.keeps_settleIfIdle fun _ => .pure true
  · exact .pure false

/-- A run makes a step as long as some thread is live. -/
theorem runSteps_succ {session : Session} (live : session.hasThreads = true)
    (total budget : Nat) :
    runSteps total (budget + 1) session = (do
      if (← step) then runSteps total budget : Action Unit) session := by
  rw [runSteps, get_bind_apply, if_pos live]

theorem runSteps_succ_of_idle {session : Session} (idle : session.hasThreads = false)
    (total budget : Nat) : runSteps total (budget + 1) session = .ok () session := by
  rw [runSteps, get_bind_apply, idle]
  rfl

/-- The grid that a run leaves does not depend on what it calls its budget. -/
theorem grid_leftBy_runSteps (total other budget : Nat) (session : Session) :
    (leftBy (runSteps total budget session)).grid =
      (leftBy (runSteps other budget session)).grid := by
  induction budget generalizing session with
  | zero =>
      rw [grid_apartFromBooks.keeps_runSteps_zero, grid_apartFromBooks.keeps_runSteps_zero]
  | succ budget inductionHypothesis =>
      cases live : session.hasThreads with
      | false => rw [runSteps_succ_of_idle live, runSteps_succ_of_idle live]
      | true =>
          rw [runSteps_succ live, runSteps_succ live]
          cases stepped : step session with
          | error failure left =>
              rw [leftBy_bind_of_error stepped, leftBy_bind_of_error stepped]
          | ok executed next =>
              rw [leftBy_bind_of_ok stepped, leftBy_bind_of_ok stepped]
              cases executed with
              | false => simp only [Bool.false_eq_true, if_false]
              | true =>
                  simp only [if_true]
                  exact inductionHypothesis next

/-- When every part of a run leaves a moderate grid, so do its first step and
every part of what follows it. -/
theorem moderate_of_runSteps_succ {session : Session} (live : session.hasThreads = true)
    {total budget : Nat} (moderate : ∀ count, count ≤ budget + 1 →
      (leftBy (runSteps total count session)).grid.Moderate) :
    session.grid.Moderate ∧ (leftBy (step session)).grid.Moderate ∧
      ∀ next, step session = .ok true next → ∀ count, count ≤ budget →
        (leftBy (runSteps total count next)).grid.Moderate := by
  refine ⟨?_, ?_, ?_⟩
  · have left := moderate 0 (Nat.zero_le _)
    rwa [grid_apartFromBooks.keeps_runSteps_zero] at left
  · have left := moderate 1 (by omega)
    rw [runSteps_succ live, leftBy_bind_of_keeps grid] at left
    · exact left
    · intro executed
      split
      · exact grid_apartFromBooks.keeps_runSteps_zero total
      · exact .pure ()
  · intro next stepped count count_le
    have left := moderate (count + 1) (by omega)
    rw [runSteps_succ live, leftBy_bind_of_ok stepped] at left
    simpa only [if_true] using left

/-- How a run comes to rest when its steps are over. -/
def rest : Action Status := do
  let status ← restedStatus (← ensureMachine)
  syncView
  return status

theorem Keeps.rest {γ : Type} {part : Session → γ} (apart : ApartFromBooks part)
    (ensures : Keeps part ensureMachine) (syncs : Keeps part syncView) : Keeps part rest := by
  apply Keeps.bind ensures
  intro machine
  apply Keeps.bind (apart.keeps_restedStatus machine)
  intro status
  exact .bind syncs fun _ => .pure status

theorem keepsGrid_rest : Keeps grid rest :=
  .rest grid_apartFromBooks keepsGrid_ensureMachine keepsGrid_syncView

/-- What a run comes to once the session has a machine. -/
theorem run_of_ensured {session ready : Session} {machine : Machine} (limit : Option Int)
    (ensured : ensureMachine session = .ok machine ready) :
    run limit session =
      if ready.status = some .error then .ok .error ready
      else
        (do
          runSteps (limit.getD ready.options.maxSteps).toNat
            (limit.getD ready.options.maxSteps).toNat
          rest : Action Status) { ready with status := none } := by
  change EStateM.bind ensureMachine _ session = _
  rw [EStateM.bind, ensured]
  simp only [get_bind_apply]
  split
  · rfl
  · rfl

/-- The grid that a run leaves is the one its steps leave. -/
theorem grid_leftBy_run {session ready : Session} {machine : Machine} (limit : Option Int)
    (ensured : ensureMachine session = .ok machine ready)
    (unharmed : ready.status ≠ some .error) (total : Nat) :
    (leftBy (run limit session)).grid =
      (leftBy (runSteps total (limit.getD ready.options.maxSteps).toNat
        { ready with status := none })).grid := by
  rw [run_of_ensured limit ensured, if_neg unharmed,
    leftBy_bind_of_keeps grid fun _ => keepsGrid_rest]
  exact grid_leftBy_runSteps _ _ _ _

/-! ## Calls keep the setup -/

theorem keepsSetup_start : Keeps setup start := by
  intro session
  rw [start_eq]
  have keeps : Keeps setup (do
      remarkEntry session.freshMachine.program.entry
      let _ ← onMachine session.freshMachine Machine.startMain
      settleIfIdle : Action Unit) :=
    .bind (setup_apartFromBooks.keeps_remarkEntry _) fun _ =>
      .bind (keepsSetup_onMachine _ .startMain) fun _ => setup_apartFromBooks.keeps_settleIfIdle
  exact keeps session.reset

theorem keepsSetup_ensureMachine : Keeps setup ensureMachine := by
  intro session
  cases started : session.machine with
  | some machine =>
      rw [ensureMachine_of_started started]
      rfl
  | none =>
      rw [ensureMachine_of_unstarted started]
      exact Keeps.bind keepsSetup_start (fun _ => .bind .get fun _ => .pure _) session

theorem keepsSetup_stepMachine (machine : Machine) : Keeps setup (stepMachine machine) := by
  intro session
  have kept := keepsSetup_onMachine machine .step session
  unfold stepMachine
  cases stepped : onMachine machine Machine.step session with
  | ok value after =>
      rw [stepped] at kept
      exact kept
  | error failure after =>
      rw [stepped] at kept
      cases failure with
      | fault fault =>
          dsimp only
          rw [fail_eq]
          exact (keepsSetup_syncView _).trans kept
      | _ => exact kept

theorem keepsSetup_step : Keeps setup step := by
  apply Keeps.bind keepsSetup_ensureMachine
  intro machine
  apply Keeps.bind .get
  intro session
  split
  · exact .pure false
  · split
    · apply Keeps.bind (keepsSetup_stepMachine machine)
      intro stepped
      split
      · exact .bind setup_apartFromBooks.keeps_settleIfIdle fun _ => .pure true
      · exact .pure false
    · exact .bind (setup_apartFromBooks.keeps_settle machine) fun _ => .pure false

theorem keepsSetup_runSteps (total budget : Nat) : Keeps setup (runSteps total budget) := by
  induction budget with
  | zero => exact setup_apartFromBooks.keeps_runSteps_zero total
  | succ budget inductionHypothesis =>
      rw [runSteps]
      apply Keeps.bind .get
      intro session
      split
      · apply Keeps.bind keepsSetup_step
        intro executed
        split
        · exact inductionHypothesis
        · exact .pure ()
      · exact .pure ()

theorem keepsSetup_rest : Keeps setup rest :=
  .rest setup_apartFromBooks keepsSetup_ensureMachine keepsSetup_syncView

theorem keepsSetup_run (limit : Option Int) : Keeps setup (run limit) := by
  apply Keeps.bind keepsSetup_ensureMachine
  intro machine
  apply Keeps.bind .get
  intro session
  split
  · exact .pure _
  · exact .bind .get fun session => .bind (fun _ => rfl) fun _ =>
      .bind (keepsSetup_runSteps _ _) fun _ => keepsSetup_rest

theorem keepsSetup_startAll (name : String) (memory : List Text) (handlers : List Location) :
    Keeps setup (startAll name memory handlers) := by
  induction handlers with
  | nil => exact .pure ()
  | cons handler rest inductionHypothesis =>
      exact .bind keepsSetup_ensureMachine fun machine =>
        .bind (keepsSetup_onMachine machine (.startThread name handler memory)) fun _ =>
          inductionHypothesis

theorem keepsSetup_click (location : Location) : Keeps setup (click location) := by
  apply Keeps.bind keepsSetup_ensureMachine
  intro machine
  apply Keeps.bind .get
  intro session
  split
  · exact .pure _
  · split
    · exact fun _ => rfl
    · refine .bind (keepsSetup_startAll _ _ _) fun _ => .bind (fun _ => rfl) fun _ =>
        .bind (setup_apartFromBooks.keeps_remark _ _ _) fun _ => ?_
      split
      · exact .pure _
      · exact .bind (fun _ => rfl) fun _ => .pure _

/-- No call changes what a session was set up with. -/
theorem keepsSetup_perform (call : Call) : Keeps setup (perform call) := by
  cases call with
  | start => exact .bind keepsSetup_start fun _ => .pure _
  | step => exact .bind keepsSetup_step fun _ => .pure _
  | run limit => exact .bind (keepsSetup_run limit) fun _ => .pure _
  | stop => exact .bind keepsSetup_stop fun _ => .pure _
  | click location => exact .bind (keepsSetup_click location) fun _ => .pure _

/-! ## Moderate calls -/

theorem after_eq_leftBy (session : Session) (call : Call) :
    session.after call = leftBy (perform call session) := by
  unfold after
  split
  · rename_i performed
    rw [performed]
    rfl
  · rename_i performed
    rw [performed]
    rfl

theorem setup_after (session : Session) (call : Call) :
    (session.after call).setup = session.setup := by
  rw [after_eq_leftBy]
  exact keepsSetup_perform call session

/-- No list of calls changes what a session was set up with. -/
theorem setup_afterAll (session : Session) (calls : List Call) :
    (session.afterAll calls).setup = session.setup := by
  induction calls generalizing session with
  | nil => rfl
  | cons call rest inductionHypothesis =>
      exact (inductionHypothesis (session.after call)).trans (setup_after session call)

theorem options_after (session : Session) (call : Call) :
    (session.after call).options = session.options :=
  congrArg Setup.options (setup_after session call)

theorem options_afterAll (session : Session) (calls : List Call) :
    (session.afterAll calls).options = session.options :=
  congrArg Setup.options (setup_afterAll session calls)

/-- A call leaves a moderate grid, and so does a run after every step: that is,
whatever part of its budget it is given. -/
def PassesModerate (session : Session) : Call → Prop
  | .run limit => ∀ count : Nat, count ≤ (limit.getD session.options.maxSteps).toNat →
      (session.after (.run (some count))).grid.Moderate
  | call => (session.after call).grid.Moderate

/-- All grids that calls lead to, one after the other, are moderate. -/
def StaysModerate (session : Session) : List Call → Prop
  | [] => session.grid.Moderate
  | call :: rest =>
    session.grid.Moderate ∧ session.PassesModerate call ∧ (session.after call).StaysModerate rest

instance decidablePassesModerate (session : Session) :
    (call : Call) → Decidable (session.PassesModerate call)
  | .run _ => Nat.decidableBallLE _ _
  | .start => inferInstanceAs (Decidable (Grid.Moderate _))
  | .step => inferInstanceAs (Decidable (Grid.Moderate _))
  | .stop => inferInstanceAs (Decidable (Grid.Moderate _))
  | .click _ => inferInstanceAs (Decidable (Grid.Moderate _))

instance decidableStaysModerate :
    (calls : List Call) → (session : Session) → Decidable (session.StaysModerate calls)
  | [], _ => inferInstanceAs (Decidable (Grid.Moderate _))
  | call :: rest, session =>
    have := decidableStaysModerate rest (session.after call)
    inferInstanceAs (Decidable (_ ∧ _ ∧ _))

/-- A start with a moderate outcome has a moderate source. -/
theorem PassesModerate.moderate_source {session : Session}
    (passes : session.PassesModerate .start) :
    session.freshMachine.program.grid.Moderate := by
  have left : (session.after .start).grid.Moderate := passes
  rwa [after_eq_leftBy, perform, leftBy_bind_of_keeps grid fun _ => .pure _,
    grid_leftBy_start] at left

theorem PassesModerate.moderate_leftBy_step {session : Session}
    (passes : session.PassesModerate .step) : (leftBy (step session)).grid.Moderate := by
  have left : (session.after .step).grid.Moderate := passes
  rwa [after_eq_leftBy, perform, leftBy_bind_of_keeps grid fun _ => .pure _] at left

/-- A run that passes moderate grids only leaves one after every part of its
steps. -/
theorem PassesModerate.moderate_leftBy_runSteps {session ready : Session} {machine : Machine}
    {limit : Option Int} (passes : session.PassesModerate (.run limit))
    (ensured : ensureMachine session = .ok machine ready)
    (unharmed : ready.status ≠ some .error) (total : Nat) :
    ∀ count, count ≤ (limit.getD ready.options.maxSteps).toNat →
      (leftBy (runSteps total count { ready with status := none })).grid.Moderate := by
  intro count count_le
  have options_eq : ready.options = session.options := by
    have kept := keepsSetup_ensureMachine session
    rw [ensured] at kept
    exact congrArg Setup.options kept
  rw [options_eq] at count_le
  have left := passes count count_le
  rwa [after_eq_leftBy, perform, leftBy_bind_of_keeps grid fun _ => .pure _,
    grid_leftBy_run (some (count : Int)) ensured unharmed total] at left

theorem StaysModerate.moderate {session : Session} {calls : List Call}
    (stays : session.StaysModerate calls) : session.grid.Moderate := by
  cases calls with
  | nil => exact stays
  | cons call rest => exact stays.1

/-- Calls whose grids are all moderate can be cut in two. -/
theorem StaysModerate.of_append {session : Session} {calls later : List Call}
    (stays : session.StaysModerate (calls ++ later)) :
    session.StaysModerate calls ∧ (session.afterAll calls).StaysModerate later := by
  induction calls generalizing session with
  | nil => exact ⟨stays.moderate, stays⟩
  | cons call rest inductionHypothesis =>
      rcases stays with ⟨moderate, passes, stays⟩
      obtain ⟨before, after⟩ := inductionHypothesis stays
      exact ⟨⟨moderate, passes, before⟩, after⟩

end Palimpsest.Session
