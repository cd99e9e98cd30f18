import Palimpsest.Proofs.Program.Mirror
import Palimpsest.Proofs.Session.Extent

/-!
# The view of a session

With immediate updates the view shows the grid at every moment. Otherwise it is
redrawn at a few points only: when a run or a stop is over, and when a fault
freezes the session. The invariant below joins both: immediate updates keep the
program mirrored, and a frozen session shows its grid in either mode.
-/

namespace Palimpsest.Session

/-- The view shows the grid. -/
def Shown (session : Session) : Prop :=
  session.currentProgram.view.cells = session.currentProgram.grid.marks

/-- The view is as far up to date as the options and the status promise. -/
structure Faithful (session : Session) : Prop where
  mirrored : session.options.immediate = true → session.currentProgram.Mirrored
  frozen : session.status = some .error → session.Shown

theorem Faithful.shown_of_immediate {session : Session} (faithful : session.Faithful)
    (immediate : session.options.immediate = true) : session.Shown :=
  (faithful.mirrored immediate).cells

/-- Changes that touch neither the program nor the options and do not freeze the
session keep it faithful. -/
theorem Faithful.of_eq {session next : Session} (faithful : session.Faithful)
    (options_eq : next.options = session.options)
    (program_eq : next.currentProgram = session.currentProgram)
    (frozen : next.status = some .error → session.status = some .error) : next.Faithful where
  mirrored := by
    rw [options_eq, program_eq]
    exact faithful.mirrored
  frozen := by
    intro harmed
    have shown := faithful.frozen (frozen harmed)
    unfold Shown at shown ⊢
    rwa [program_eq]

/-- What follows may use that the first part has succeeded. -/
theorem Faithful.bind {α β : Type} {first : Action α} {next : α → Action β} {session : Session}
    (left : (leftBy (first session)).Faithful)
    (keepsNext : ∀ value middle, first session = .ok value middle → middle.Faithful →
      (leftBy (next value middle)).Faithful) :
    (leftBy ((first >>= next) session)).Faithful :=
  holds_leftBy_bind left keepsNext

/-- A program that has just been loaded is shown in either mode. -/
theorem shown_of_fresh {session : Session}
    (fresh : session.currentProgram = session.freshMachine.program) : session.Shown := by
  unfold Shown
  rw [fresh]
  exact (Grid.marks_rowsOf (Buffer.load session.source).cells).symm

theorem faithful_of_fresh {session : Session}
    (fresh : session.currentProgram = session.freshMachine.program) : session.Faithful where
  mirrored := by
    intro immediate
    rw [fresh, freshMachine, immediate]
    exact Program.mirrored_ofBuffer (.load session.source)
  frozen := fun _ => shown_of_fresh fresh

/-! ## What keeps sessions faithful -/

/-- The operation keeps sessions faithful, whether it succeeds or fails. -/
def KeepsFaithful {α : Type} (action : Action α) : Prop :=
  ∀ session, session.Faithful → (leftBy (action session)).Faithful

namespace KeepsFaithful

variable {α β : Type}

theorem pure (value : α) : KeepsFaithful (pure value : Action α) :=
  fun _ faithful => faithful

theorem throw (failure : Failure) : KeepsFaithful (throw failure : Action α) :=
  fun _ faithful => faithful

theorem get : KeepsFaithful (get : Action Session) :=
  fun _ faithful => faithful

theorem bind {first : Action α} {next : α → Action β} (keeps : KeepsFaithful first)
    (keepsNext : ∀ value, KeepsFaithful (next value)) : KeepsFaithful (first >>= next) :=
  fun session faithful => (keeps session faithful).bind fun value middle _ =>
    keepsNext value middle

/-- A success leaves a faithful session. -/
theorem of_ok {action : Action α} (keeps : KeepsFaithful action) {session next : Session}
    {value : α} (faithful : session.Faithful) (succeeded : action session = .ok value next) :
    next.Faithful := by
  have left := keeps session faithful
  rwa [succeeded] at left

theorem write (entry : JournalEntry) : KeepsFaithful (write entry) :=
  fun _ faithful => faithful.of_eq rfl rfl id

theorem remark (severity : Severity) (event message : String) :
    KeepsFaithful (remark severity event message) :=
  bind (write _) fun _ _ faithful => faithful.of_eq rfl rfl id

/-- A status other than that of a fault may be set at any time. -/
theorem setStatus {status : Option Status} (calm : status ≠ some .error) :
    KeepsFaithful (modify fun session => { session with status := status } : Action Unit) :=
  fun _ faithful => faithful.of_eq rfl rfl fun harmed => absurd harmed calm

theorem settle (machine : Machine) : KeepsFaithful (settle machine) := by
  apply setStatus
  unfold restingStatus
  split <;> simp

theorem settleIfIdle : KeepsFaithful settleIfIdle := by
  apply bind get
  intro session
  split
  · exact pure ()
  · split
    · exact pure ()
    · exact settle _

theorem restedStatus (machine : Machine) : KeepsFaithful (restedStatus machine) := by
  apply bind get
  intro session
  split
  · exact pure _
  · exact bind (settle machine) fun _ => pure _

end KeepsFaithful

/-- Bringing the view up to date makes it show the grid, provided that immediate
updates have been mirrored. -/
theorem faithful_leftBy_syncView {session : Session}
    (mirrored : session.options.immediate = true → session.currentProgram.Mirrored) :
    (leftBy (syncView session)).Faithful ∧ (leftBy (syncView session)).Shown := by
  by_cases immediate : session.options.immediate = true
  · have shown : session.Shown := (mirrored immediate).cells
    rw [syncView_of_immediate immediate]
    exact ⟨⟨mirrored, fun _ => shown⟩, shown⟩
  · cases started : session.machine with
    | none =>
        have fresh : session.currentProgram = session.freshMachine.program := by
          rw [currentProgram, started]
          rfl
        rw [syncView_of_unstarted started]
        exact ⟨faithful_of_fresh fresh, shown_of_fresh fresh⟩
    | some machine =>
        obtain ⟨monitor, sync_eq⟩ := syncView_of_deferred started (by simpa using immediate)
        have shown := Program.cells_updateView machine.program
        rw [sync_eq]
        exact ⟨⟨fun now => absurd now immediate, fun _ => shown⟩, shown⟩

theorem KeepsFaithful.syncView : KeepsFaithful syncView :=
  fun _ faithful => (faithful_leftBy_syncView faithful.mirrored).1

/-! ## Machines -/

/-- A machine that keeps its program keeps the session faithful. -/
theorem faithful_leftBy_onMachine {session : Session} (faithful : session.Faithful) {α : Type}
    {machine : Machine} {action : Machine.Action α}
    (program_eq : (leftBy (action (machine, session.monitor))).1.program =
      session.currentProgram) : (leftBy (onMachine machine action session)).Faithful := by
  unfold onMachine
  cases result : action (machine, session.monitor) with
  | ok value state =>
      rw [result] at program_eq
      exact faithful.of_eq rfl program_eq id
  | error failure state =>
      rw [result] at program_eq
      exact faithful.of_eq rfl program_eq id

/-- A start leaves a faithful session, whatever the session was. -/
theorem faithful_leftBy_start (session : Session) : (leftBy (start session)).Faithful := by
  obtain ⟨remarked, remark_eq, options_eq, source_eq, program_eq⟩ : ∃ remarked,
      remarkEntry session.freshMachine.program.entry session.reset = .ok () remarked ∧
        remarked.options = session.options ∧ remarked.source = session.source ∧
        remarked.currentProgram = session.freshMachine.program := by
    cases session.freshMachine.program.entry with
    | none => exact ⟨_, rfl, rfl, rfl, rfl⟩
    | some entry => exact ⟨_, rfl, rfl, rfl, rfl⟩
  have fresh : remarked.currentProgram = remarked.freshMachine.program := by
    rw [program_eq, freshMachine, freshMachine, options_eq, source_eq]
  rw [start_eq, leftBy_bind_of_ok remark_eq]
  apply Faithful.bind
  · apply faithful_leftBy_onMachine (faithful_of_fresh fresh)
    rw [program_leftBy_startMain, program_eq]
  · intro _ middle _ faithful
    exact KeepsFaithful.settleIfIdle middle faithful

theorem KeepsFaithful.ensureMachine : KeepsFaithful ensureMachine := by
  intro session faithful
  cases started : session.machine with
  | some machine =>
      rw [ensureMachine_of_started started]
      exact faithful
  | none =>
      rw [ensureMachine_of_unstarted started]
      apply (faithful_leftBy_start session).bind
      intro _ middle _ faithful
      exact faithful

/-! ## Steps and runs -/

theorem faithful_leftBy_stepMachine {session : Session} (faithful : session.Faithful)
    (calm : session.status ≠ some .error) {machine : Machine}
    (program_eq : machine.program = session.currentProgram) :
    (leftBy (stepMachine machine session)).Faithful := by
  obtain ⟨requests, left⟩ := Machine.exists_requests_step machine session.monitor
  have mirrored : session.options.immediate = true →
      (leftBy (Machine.step (machine, session.monitor))).1.program.Mirrored := by
    intro immediate
    rw [left, program_eq]
    exact (faithful.mirrored immediate).afterAll requests
  cases stepped : Machine.step (machine, session.monitor) with
  | ok value state =>
      rw [stepped] at mirrored
      rw [stepMachine_of_ok stepped]
      exact ⟨mirrored, fun harmed => absurd harmed calm⟩
  | error failure state =>
      rw [stepped] at mirrored
      by_cases faulty : ∃ fault, failure = .fault fault
      · rcases faulty with ⟨fault, rfl⟩
        rw [stepMachine_of_fault stepped]
        exact (faithful_leftBy_syncView mirrored).1
      · rw [stepMachine_of_error stepped fun fault same => faulty ⟨fault, same⟩]
        exact ⟨mirrored, fun harmed => absurd harmed calm⟩

/-- The machine that a session is ensured to have works on its program. -/
theorem program_of_ensured {session ready : Session} {machine : Machine}
    (ensured : ensureMachine session = .ok machine ready) :
    machine.program = ready.currentProgram := by
  rw [machine_of_ensured ensured]
  rfl

theorem KeepsFaithful.step : KeepsFaithful step := by
  intro session faithful
  apply (ensureMachine session faithful).bind
  intro machine ready ensured readyFaithful
  apply (get ready readyFaithful).bind
  rintro _ _ ⟨⟩ _
  split
  · exact readyFaithful
  · rename_i calm
    split
    · apply (faithful_leftBy_stepMachine readyFaithful calm (program_of_ensured ensured)).bind
      intro stepped middle _ middleFaithful
      split
      · exact bind settleIfIdle (fun _ => pure true) middle middleFaithful
      · exact middleFaithful
    · exact bind (settle machine) (fun _ => pure false) ready readyFaithful

theorem KeepsFaithful.runSteps (total budget : Nat) : KeepsFaithful (runSteps total budget) := by
  induction budget with
  | zero =>
      rw [Session.runSteps]
      apply bind get
      intro session
      split
      · exact bind (setStatus (by simp)) fun _ => remark _ _ _
      · exact pure ()
  | succ budget inductionHypothesis =>
      rw [Session.runSteps]
      apply bind get
      intro session
      split
      · apply bind step
        intro executed
        split
        · exact inductionHypothesis
        · exact pure ()
      · exact pure ()

theorem KeepsFaithful.rest : KeepsFaithful rest :=
  bind ensureMachine fun machine => bind (restedStatus machine) fun _ => bind syncView fun _ =>
    pure _

/-- A run that comes to rest shows the grid. -/
theorem shown_of_rest_eq_ok {session next : Session} {status : Status}
    (faithful : session.Faithful) (rested : rest session = .ok status next) : next.Shown := by
  rcases bind_eq_ok_iff.mp rested with ⟨machine, ready, ensured, rested⟩
  have readyFaithful := KeepsFaithful.ensureMachine.of_ok faithful ensured
  rcases bind_eq_ok_iff.mp rested with ⟨status, noted, settled, rested⟩
  have notedFaithful := (KeepsFaithful.restedStatus machine).of_ok readyFaithful settled
  rcases bind_eq_ok_iff.mp rested with ⟨_, synced, sync_eq, ⟨⟩⟩
  have shown := (faithful_leftBy_syncView notedFaithful.mirrored).2
  rwa [sync_eq] at shown

theorem KeepsFaithful.run (limit : Option Int) : KeepsFaithful (run limit) := by
  apply bind ensureMachine
  intro machine
  apply bind get
  intro session
  split
  · exact pure _
  · exact bind get fun session => bind (setStatus (by simp)) fun _ =>
      bind (runSteps _ _) fun _ => rest

/-- A run that succeeds shows the grid. -/
theorem shown_of_run_eq_ok {session next : Session} {limit : Option Int} {status : Status}
    (faithful : session.Faithful) (ran : run limit session = .ok status next) : next.Shown := by
  rcases bind_eq_ok_iff.mp ran with ⟨machine, ready, ensured, ran⟩
  have readyFaithful := KeepsFaithful.ensureMachine.of_ok faithful ensured
  rcases bind_eq_ok_iff.mp ran with ⟨_, _, ⟨⟩, ran⟩
  split at ran
  · rename_i harmed
    cases ran
    exact readyFaithful.frozen harmed
  · rcases bind_eq_ok_iff.mp ran with ⟨_, _, ⟨⟩, ran⟩
    rcases bind_eq_ok_iff.mp ran with ⟨_, cleared, status_eq, ran⟩
    have clearedFaithful := (KeepsFaithful.setStatus (by simp)).of_ok readyFaithful status_eq
    rcases bind_eq_ok_iff.mp ran with ⟨_, finished, steps_eq, ran⟩
    have finishedFaithful := (KeepsFaithful.runSteps _ _).of_ok clearedFaithful steps_eq
    exact shown_of_rest_eq_ok finishedFaithful ran

/-! ## Stops and clicks -/

theorem KeepsFaithful.stop : KeepsFaithful stop := by
  apply bind get
  intro session
  split
  · exact pure ()
  · exact bind (setStatus (by simp)) fun _ => bind (remark _ _ _) fun _ => syncView

/-- A stop shows the grid. -/
theorem shown_of_stop_eq_ok {session next : Session} (faithful : session.Faithful)
    (stopped : stop session = .ok () next) : next.Shown := by
  rcases bind_eq_ok_iff.mp stopped with ⟨_, _, ⟨⟩, stopped⟩
  split at stopped
  · rename_i harmed
    cases stopped
    exact faithful.frozen harmed
  · rcases bind_eq_ok_iff.mp stopped with ⟨_, noted, status_eq, stopped⟩
    rcases bind_eq_ok_iff.mp stopped with ⟨_, remarked, remark_eq, sync_eq⟩
    have notedFaithful := (KeepsFaithful.setStatus (by simp)).of_ok faithful status_eq
    have remarkedFaithful := (KeepsFaithful.remark _ _ _).of_ok notedFaithful remark_eq
    have shown := (faithful_leftBy_syncView remarkedFaithful.mirrored).2
    rwa [sync_eq] at shown

theorem KeepsFaithful.startAll (name : String) (memory : List Text)
    (handlers : List Location) : KeepsFaithful (startAll name memory handlers) := by
  induction handlers with
  | nil => exact pure ()
  | cons handler rest inductionHypothesis =>
      intro session faithful
      apply (ensureMachine session faithful).bind
      intro machine ready ensured readyFaithful
      apply Faithful.bind
      · apply faithful_leftBy_onMachine readyFaithful
        rw [program_leftBy_startThread, program_of_ensured ensured]
      · intro _ joined _ joinedFaithful
        exact inductionHypothesis joined joinedFaithful

theorem KeepsFaithful.click (location : Location) : KeepsFaithful (click location) := by
  apply bind ensureMachine
  intro machine
  apply bind get
  intro session
  split
  · exact pure _
  · split
    · exact throw _
    · refine bind (startAll _ _ _) fun _ => bind ?_ fun _ => bind (remark _ _ _) fun _ => ?_
      · exact fun _ faithful => faithful.of_eq rfl rfl id
      · split
        · exact pure _
        · exact bind (setStatus (by simp)) fun _ => pure _

/-! ## Calls -/

/-- Every call keeps the view as far up to date as the options and the status
promise. -/
theorem KeepsFaithful.perform (call : Call) : KeepsFaithful (perform call) := by
  cases call with
  | start => exact bind (fun session _ => faithful_leftBy_start session) fun _ => pure _
  | step => exact bind step fun _ => pure _
  | run limit => exact bind (run limit) fun _ => pure _
  | stop => exact bind stop fun _ => pure _
  | click location => exact bind (click location) fun _ => pure _

theorem Faithful.after {session : Session} (faithful : session.Faithful) (call : Call) :
    (session.after call).Faithful := by
  rw [after_eq_leftBy]
  exact KeepsFaithful.perform call session faithful

theorem Faithful.afterAll {session : Session} (faithful : session.Faithful)
    (calls : List Call) : (session.afterAll calls).Faithful := by
  induction calls generalizing session with
  | nil => exact faithful
  | cons call rest inductionHypothesis => exact inductionHypothesis (faithful.after call)

end Palimpsest.Session
