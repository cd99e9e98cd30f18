import Palimpsest.Proofs.Session.Moves
import Palimpsest.Proofs.Thread.Failure

/-!
# What the status of a session tells

The status is set in many places and has to keep up with a machine whose program
edits itself. It always tells the truth: a fault has been noted exactly when the
status says so, a session without a status has a live thread, a session at rest
has none and waits exactly when some word handles clicks, and a run that timed
out could go on. A fault freezes the session: every call but a start leaves it
as it is.
-/

namespace Palimpsest.Session

/-- What a status tells about the machine. -/
def Describes : Option Status → Machine → Prop
  | none, machine => machine.threads ≠ []
  | some .halted, machine => machine.threads = [] ∧ machine.program.clickHandlers = []
  | some .waiting, machine => machine.threads = [] ∧ machine.program.clickHandlers ≠ []
  | some .timeout, machine => machine.threads ≠ []
  | some .error, _ => True
  | some .stopped, _ => True

/-- The status tells the truth. A session that has not been started can only have
been stopped. -/
structure StatusHolds (session : Session) : Prop where
  error_iff : session.status = some .error ↔ session.error.isSome = true
  describes : ∀ machine, session.machine = some machine → Describes session.status machine
  unstarted : session.machine = none → session.status = none ∨ session.status = some .stopped

/-! ## Machines -/

theorem threads_ne_nil_iff {machine : Machine} :
    machine.threads ≠ [] ↔ machine.isRunning = true := by
  simp [Machine.isRunning]

theorem threads_eq_nil_iff {machine : Machine} :
    machine.threads = [] ↔ machine.isRunning = false := by
  simp [Machine.isRunning]

/-- A machine without live threads is described by how it has come to rest. -/
theorem describes_restingStatus {machine : Machine} (idle : machine.isRunning = false) :
    Describes (some (restingStatus machine)) machine := by
  have noneLive := threads_eq_nil_iff.mpr idle
  unfold restingStatus
  split
  · rename_i finished
    have handlers : machine.program.clickHandlers = [] := by
      simpa [Machine.isFinished, idle] using finished
    exact ⟨noneLive, handlers⟩
  · rename_i unfinished
    have handlers : machine.program.clickHandlers ≠ [] := by
      simpa [Machine.isFinished, idle] using unfinished
    exact ⟨noneLive, handlers⟩

/-- A status that describes a machine with live threads describes every such
machine. -/
theorem Describes.of_live {status : Option Status} {machine next : Machine}
    (describes : Describes status machine) (live : machine.isRunning = true)
    (liveNext : next.isRunning = true) : Describes status next := by
  have threads := threads_ne_nil_iff.mpr live
  have nextThreads := threads_ne_nil_iff.mpr liveNext
  match status with
  | none => exact nextThreads
  | some .timeout => exact nextThreads
  | some .error => trivial
  | some .stopped => trivial
  | some .halted => exact absurd describes.1 threads
  | some .waiting => exact absurd describes.1 threads

/-- A status only looks at the threads and at the words that handle clicks. -/
theorem Describes.of_eq {status : Option Status} {machine next : Machine}
    (describes : Describes status machine) (threads_eq : next.threads = machine.threads)
    (handlers_eq : next.program.clickHandlers = machine.program.clickHandlers) :
    Describes status next := by
  match status with
  | none => exact threads_eq.trans_ne describes
  | some .timeout => exact threads_eq.trans_ne describes
  | some .error => trivial
  | some .stopped => trivial
  | some .halted => exact ⟨threads_eq.trans describes.1, handlers_eq.trans describes.2⟩
  | some .waiting => exact ⟨threads_eq.trans describes.1, handlers_eq.trans_ne describes.2⟩

theorem isRunning_of_startThread_eq_ok {machine next : Machine} {monitor told : Monitor}
    {name : String} {location : Location} {memory : List Text} (fits : location.fits = true)
    (joined : Machine.startThread name location memory (machine, monitor) =
      .ok () (next, told)) : next.isRunning = true := by
  obtain ⟨_, grown⟩ := Machine.startThread_of_fits fits machine monitor name memory
  rw [joined] at grown
  cases grown
  simp [Machine.isRunning]

/-- A step that fails ends no thread. -/
theorem isRunning_of_step_eq_error {machine next : Machine} {monitor left : Monitor}
    {failure : Failure} (live : machine.isRunning = true)
    (failed : Machine.step (machine, monitor) = .error failure (next, left)) :
    next.isRunning = true := by
  obtain ⟨_, _, _, _, rfl, _⟩ := Machine.step_eq_error failed
  simpa [Machine.isRunning] using live

/-! ## Moves -/

namespace StatusHolds

variable {session : Session}

theorem error_eq_none (holds : session.StatusHolds) (calm : session.status ≠ some .error) :
    session.error = none := by
  cases noted : session.error with
  | none => rfl
  | some fault => exact absurd (holds.error_iff.mpr (by simp [noted])) calm

/-- A started session may take any status that describes its machine, as long as
nobody is at fault before and after. -/
theorem of_describes {machine : Machine} (started : session.machine = some machine)
    (calm : session.status ≠ some .error) (unharmed : session.error = none)
    (describes : Describes session.status machine) : session.StatusHolds where
  error_iff := by simp [calm, unharmed]
  describes := by
    intro other other_eq
    rw [started] at other_eq
    cases other_eq
    exact describes
  unstarted := by simp [started]

end StatusHolds

/-- Every move keeps the status true. -/
theorem Move.statusHolds {session next : Session} (move : Move session next)
    (holds : session.StatusHolds) : next.StatusHolds := by
  cases move with
  | restart =>
      apply StatusHolds.of_describes
      · exact session.opened_machine
      · exact calm_restingStatus _
      · exact session.opened_error
      · exact describes_restingStatus rfl
  | join started calm ink fits joined =>
      apply StatusHolds.of_describes
      · rfl
      · simp
      · exact holds.error_eq_none calm
      · exact threads_ne_nil_iff.mpr (isRunning_of_startThread_eq_ok fits joined)
  | @step machine next monitor started calm live moderate moderateAfter stepped =>
      apply StatusHolds.of_describes
      · rfl
      · dsimp only
        split
        · exact calm
        · exact calm_restingStatus _
      · exact holds.error_eq_none calm
      · cases liveNext : next.isRunning with
        | true => exact (holds.describes machine started).of_live live liveNext
        | false => exact describes_restingStatus liveNext
  | @stumble machine next monitor failure started calm live moderate moderateAfter failed
      faultless =>
      apply StatusHolds.of_describes
      · rfl
      · exact calm
      · exact holds.error_eq_none calm
      · exact (holds.describes machine started).of_live live
          (isRunning_of_step_eq_error live failed)
  | freeze =>
      exact ⟨by simp [noting], fun _ _ => trivial, by simp [noting]⟩
  | settle started calm idle =>
      apply StatusHolds.of_describes
      · exact started
      · exact calm_restingStatus _
      · exact holds.error_eq_none calm
      · exact describes_restingStatus idle
  | resume started calm live =>
      apply StatusHolds.of_describes
      · exact started
      · simp
      · exact holds.error_eq_none calm
      · exact threads_ne_nil_iff.mpr live
  | timeout started calm live =>
      apply StatusHolds.of_describes
      · exact started
      · simp [remarked]
      · exact holds.error_eq_none calm
      · exact threads_ne_nil_iff.mpr live
  | stop calm =>
      have unharmed := holds.error_eq_none calm
      exact ⟨by simp [remarked, unharmed], fun _ _ => trivial, fun _ => .inr rfl⟩
  | noteClick calm => exact ⟨holds.error_iff, holds.describes, holds.unstarted⟩
  | sync =>
      cases started : session.machine with
      | none =>
          rw [syncView_of_unstarted started]
          exact holds
      | some machine =>
          obtain ⟨program, monitor, alike, sync_eq⟩ := syncView_of_started started
          rw [sync_eq]
          refine ⟨holds.error_iff, ?_, ?_⟩
          · rintro _ ⟨⟩
            exact (holds.describes machine started).of_eq rfl alike.clickHandlers
          · rintro ⟨⟩

/-! ## Frozen sessions -/

/-- What a call other than a start comes to on a frozen session. -/
def Call.frozenAnswer : Call → Answer
  | .start => .done
  | .step => .stepped false
  | .run _ => .rested .error
  | .stop => .done
  | .click _ => .clicked []

theorem StatusHolds.exists_machine {session : Session} (holds : session.StatusHolds)
    (harmed : session.status = some .error) : ∃ machine, session.machine = some machine := by
  cases started : session.machine with
  | some machine => exact ⟨machine, rfl⟩
  | none =>
      have unharmed := holds.unstarted started
      simp [harmed] at unharmed

/-- A frozen session answers every call but a start at once and stays as it
is. -/
theorem StatusHolds.perform_of_frozen {session : Session} (holds : session.StatusHolds)
    (harmed : session.status = some .error) {call : Call} (other : call ≠ .start) :
    perform call session = .ok call.frozenAnswer session := by
  obtain ⟨machine, started⟩ := holds.exists_machine harmed
  have ensured := ensureMachine_of_started started
  cases call with
  | start => exact absurd rfl other
  | step =>
      have stepped : step session = .ok false session := by
        rw [step_of_ensured ensured, if_pos harmed]
      exact bind_of_ok stepped
  | run limit =>
      have ran : run limit session = .ok .error session := by
        rw [run_of_ensured limit ensured, if_pos harmed]
      exact bind_of_ok ran
  | stop =>
      have stopped : stop session = .ok () session := by
        rw [stop, get_bind_apply, if_pos harmed]
        rfl
      exact bind_of_ok stopped
  | click location =>
      have clicked : click location session = .ok [] session := by
        rw [click, bind_of_ok ensured, get_bind_apply, if_pos harmed]
        rfl
      exact bind_of_ok clicked

theorem StatusHolds.after_of_frozen {session : Session} (holds : session.StatusHolds)
    (harmed : session.status = some .error) {call : Call} (other : call ≠ .start) :
    session.after call = session := by
  rw [after_eq_leftBy, holds.perform_of_frozen harmed other]
  rfl

theorem StatusHolds.afterAll_of_frozen {session : Session} (holds : session.StatusHolds)
    (harmed : session.status = some .error) {calls : List Call} (others : .start ∉ calls) :
    session.afterAll calls = session := by
  induction calls with
  | nil => rfl
  | cons call rest inductionHypothesis =>
      have other : call ≠ .start := fun same => others (by simp [same])
      have restOthers : .start ∉ rest := fun member => others (by simp [member])
      change (session.after call).afterAll rest = session
      rw [holds.after_of_frozen harmed other]
      exact inductionHypothesis restOthers

/-- Nobody is at fault right after a start, whatever the session was. -/
theorem calm_after_start (session : Session) : (session.after .start).status ≠ some .error := by
  rw [after_eq_leftBy, perform, leftBy_bind_pure, start_eq,
    leftBy_bind_of_ok session.remarkEntry_eq]
  cases acted : Machine.startMain (session.freshMachine, session.opened.monitor) with
  | ok value state =>
      rw [leftBy_bind_of_ok (onMachine_of_ok acted), settleIfIdle_of_started rfl]
      dsimp only [leftBy]
      split
      · simp
      · exact calm_restingStatus _
  | error failure state =>
      have failed : onMachine session.freshMachine Machine.startMain session.opened =
          .error failure
            { session.opened with machine := some state.1, monitor := state.2 } := by
        simp only [onMachine, acted]
      rw [leftBy_bind_of_error failed]
      simp

/-- For every text and all options, whatever is called: the status tells the
truth. Once the session is frozen by a fault, every call but a start answers at
once, and any number of such calls changes nothing; a start, and only a start,
ends this. All grids are taken to be moderate. -/
theorem status_tells_truth_and_faults_freeze (text : Text) (options : Options)
    (path : Option String) (stamp : Stamp) (observers : List Observer) (threshold : Int)
    (calls : List Call)
    (stays : (create text options path stamp observers threshold).StaysModerate calls) :
    let session := (create text options path stamp observers threshold).afterAll calls
    session.StatusHolds ∧
      (session.status = some .error →
        (∀ call, call ≠ .start → perform call session = .ok call.frozenAnswer session) ∧
          (∀ later, .start ∉ later → session.afterAll later = session) ∧
          ∀ call, (session.after call).status = some .error ↔ call ≠ .start) := by
  intro session
  have fresh : (create text options path stamp observers threshold).StatusHolds := by
    refine ⟨by simp [create], ?_, fun _ => .inl rfl⟩
    rintro _ ⟨⟩
  have holds : session.StatusHolds := Moves.keep Move.statusHolds (moves_afterAll stays) fresh
  refine ⟨holds, fun harmed => ⟨?_, ?_, ?_⟩⟩
  · exact fun call => holds.perform_of_frozen harmed
  · exact fun later => holds.afterAll_of_frozen harmed
  · intro call
    constructor
    · rintro still rfl
      exact calm_after_start session still
    · intro other
      rw [holds.after_of_frozen harmed other]
      exact harmed

theorem status_tells_truth_and_faults_freeze_underflow :
    let session := (create "-- volute\nh\nMOUSE n".toList ⟨false, 5, true⟩ none ⟨"now", "one"⟩
      [.reporter 10] 10).afterAll [.stop, .run (some 1), .click ⟨0, 4⟩, .run none]
    session.status = some .error ∧ session.StatusHolds ∧
      perform (.click ⟨2, 1⟩) session = .ok (.clicked []) session := by
  intro session
  have harmed : session.status = some .error := by decide +kernel
  obtain ⟨holds, frozen⟩ := status_tells_truth_and_faults_freeze
    "-- volute\nh\nMOUSE n".toList ⟨false, 5, true⟩ none ⟨"now", "one"⟩ [.reporter 10] 10
    [.stop, .run (some 1), .click ⟨0, 4⟩, .run none] (by decide +kernel)
  exact ⟨harmed, holds, (frozen harmed).1 (.click ⟨2, 1⟩) (by decide)⟩

end Palimpsest.Session
