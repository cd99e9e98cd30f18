import Palimpsest.Proofs.Machine.Twins
import Palimpsest.Proofs.Thread.Failure

/-!
# Values further down in memory

Instructions reach memory from the top only. An instruction that succeeds would do
the same above any other values and would leave them as they are, and this follows
from how instructions are built. No instruction asks for more than two values, so one
that finds too few has found at most one. Observers do not look at memory when they
decide whether to take a notice, so both carry over to steps of threads.
-/

namespace Palimpsest

/-! ## Instructions above other values -/

namespace Frame

/-- The frame with more values below those in memory. -/
def above (frame : Frame) (below : List Text) : Frame :=
  { frame with memory := frame.memory ++ below }

/-- An action that succeeds does the same above other values. -/
theorem Built.above {α : Type} {action : Action α} (built : Built action) {frame after : Frame}
    {value : α} (succeeded : action frame = .ok value after) (below : List Text) :
    action (frame.above below) = .ok value (after.above below) := by
  induction built generalizing frame after with
  | pure value =>
      cases succeeded
      rfl
  | push value =>
      cases succeeded
      rfl
  | look =>
      cases succeeded
      rfl
  | point target =>
      cases succeeded
      rfl
  | pop =>
      obtain ⟨rest, memory, rfl⟩ := pop_eq_ok succeeded
      exact pop_of_cons (congrArg (· ++ below) memory)
  | require proper =>
      obtain ⟨rfl, rfl⟩ := require_eq_ok succeeded
      rfl
  | edit request =>
      obtain ⟨revision, revised, rfl, rfl⟩ := edit_eq_ok succeeded
      exact edit_of_ok revised
  | bind _ _ firstHypothesis nextHypothesis =>
      rcases bind_eq_ok_iff.mp succeeded with ⟨found, middle, first, next⟩
      exact bind_eq_ok_iff.mpr
        ⟨found, middle.above below, firstHypothesis first, nextHypothesis found next⟩

/-- Carrying out a word does the same above other values. -/
theorem perform_above {word : Word} {frame after : Frame} {target : Option Location}
    (performed : perform word frame = .ok target after) (below : List Text) :
    perform word (frame.above below) = .ok target (after.above below) := by
  rcases bind_eq_ok_iff.mp performed with ⟨flow, middle, executed, continued⟩
  refine bind_eq_ok_iff.mpr
    ⟨flow, middle.above below, (Built.executeWord word).above executed below, ?_⟩
  cases flow with
  | transfer target =>
      cases continued
      rfl
  | advance =>
      cases continued
      rfl

end Frame

/-! ## Too few values -/

/-- Whether a failure is that memory has too few values. -/
def Failure.underflows : Failure → Bool
  | .fault raised => decide (raised.kind = .underflow)
  | _ => false

namespace Failure

theorem underflows_arisingIn (failure : Failure) (thread : String) (location : Location) :
    (failure.arisingIn thread location).underflows = failure.underflows := by
  cases failure with
  | fault raised => rfl
  | _ => rfl

theorem underflows_ofCause {cause : Cause} (other : decide (cause.kind = .underflow) = false) :
    (ofCause cause).underflows = false := by
  unfold ofCause
  split
  · exact other
  · rfl

end Failure

/-- A computation that does not fail for want of values. -/
def Wantless {α : Type} (result : Except Failure α) : Prop :=
  ∀ failure, result = .error failure → failure.underflows = false

theorem Wantless.ok {α : Type} (value : α) : Wantless (.ok value : Except Failure α) :=
  nofun

theorem Wantless.error {α : Type} {failure : Failure} (other : failure.underflows = false) :
    Wantless (.error failure : Except Failure α) := by
  intro raised failed
  rw [← Except.error.inj failed]
  exact other

theorem Wantless.ofCause {α : Type} {cause : Cause}
    (other : decide (cause.kind = .underflow) = false) :
    Wantless (.error (.ofCause cause) : Except Failure α) :=
  .error (Failure.underflows_ofCause other)

theorem Numeral.wantless_encode (number : Int) : Wantless (Numeral.encode number) := by
  unfold Numeral.encode
  split
  · exact .ok _
  · exact .error rfl

theorem Numeral.wantless_decode (value : Text) : Wantless (Numeral.decode value) := by
  unfold Numeral.decode
  split
  · exact .ofCause rfl
  · split
    · exact .ok _
    · exact .error rfl

theorem Location.wantless_encode (location : Location) : Wantless location.encode := by
  unfold Location.encode
  split
  · exact .ok _
  · exact .error rfl

theorem Location.wantless_decode (value : Text) : Wantless (Location.decode value) := by
  unfold Location.decode
  split
  · exact .ok _
  · exact .ofCause rfl

theorem Grid.wantless_letterAt (grid : Grid) (location : Location) :
    Wantless (grid.letterAt location) := by
  unfold Grid.letterAt
  split
  · exact .ok _
  · exact .ofCause rfl

theorem Request.wantless_revise (request : Request) (program : Program) :
    Wantless (request.revise program) := by
  intro failure failed
  cases request with
  | replace location length text =>
      simp only [Request.revise, Program.replace] at failed
      split at failed
      · rw [← Except.error.inj failed]
        exact Failure.underflows_ofCause rfl
      · split at failed
        · cases failed
        · rw [← Except.error.inj failed]
          exact Failure.underflows_ofCause rfl
  | addLine before =>
      simp only [Request.revise, Program.addLine] at failed
      split at failed
      · cases failed
      · rw [← Except.error.inj failed]
        exact Failure.underflows_ofCause rfl

namespace Frame

/-- The action finds too few values only in memories with fewer than `count`. -/
def Asks (count : Nat) {α : Type} (action : Action α) : Prop :=
  ∀ frame failure left, action frame = .error failure left → failure.underflows = true →
    frame.memory.length < count

namespace Asks

variable {count : Nat} {α β : Type}

theorem of_sure {action : Action α} (sure : Sure action) : Asks count action := by
  intro frame failure left failed
  obtain ⟨value, after, succeeded⟩ := sure frame
  rw [succeeded] at failed
  cases failed

theorem require {result : Except Failure α} (wantless : Wantless result) :
    Asks count (require result) := by
  intro frame failure left failed underflows
  cases result with
  | ok value => cases failed
  | error raised =>
      rw [require_error] at failed
      cases failed
      rw [wantless failure rfl] at underflows
      cases underflows

theorem edit (request : Request) : Asks count (edit request.revise) := by
  intro frame failure left failed underflows
  cases revised : request.revise frame.program with
  | ok revision =>
      rw [edit_of_ok revised] at failed
      cases failed
  | error raised =>
      rw [edit_of_error revised] at failed
      cases failed
      rw [request.wantless_revise frame.program failure revised] at underflows
      cases underflows

theorem pop : Asks 1 pop := by
  intro frame failure left failed _
  cases memory : frame.memory with
  | nil => exact Nat.one_pos
  | cons value rest =>
      rw [pop_of_cons memory] at failed
      cases failed

/-- Where the first part only takes values off memory, what both parts ask for adds
up. -/
theorem bind {first : Nat} {action : Action α} {next : α → Action β} (takes : Takes first action)
    (asks : Asks first action) (asksNext : ∀ value, Asks count (next value)) :
    Asks (count + first) (action >>= next) := by
  intro frame failure left failed underflows
  rcases bind_eq_error_iff.mp failed with failed | ⟨value, middle, succeeded, failed⟩
  · exact Nat.lt_add_left count (asks frame failure left failed underflows)
  · obtain ⟨taken, taken_le, middle_eq⟩ := takes frame
    have few := asksNext value middle failure left failed underflows
    rw [succeeded] at middle_eq
    rw [show middle = _ from middle_eq, List.length_drop] at few
    omega

/-- What asks for nothing may follow anything. -/
theorem bind_last {action : Action α} {next : α → Action β} (asks : Asks count action)
    (nothing : ∀ value, Asks 0 (next value)) : Asks count (action >>= next) := by
  intro frame failure left failed underflows
  rcases bind_eq_error_iff.mp failed with failed | ⟨value, middle, _, failed⟩
  · exact asks frame failure left failed underflows
  · exact absurd (nothing value middle failure left failed underflows) (Nat.not_lt_zero _)

theorem popLocation : Asks 1 popLocation :=
  bind_last pop fun value => require (Location.wantless_decode value)

theorem lastOperand (argument : Text) : Asks 1 (lastOperand argument) := by
  unfold Frame.lastOperand
  split
  · exact pop
  · exact of_sure (.pure argument)

/-- Take a value off memory, and go on. -/
theorem popping {next : Text → Action β} (asksNext : ∀ value, Asks count (next value)) :
    Asks (count + 1) (Frame.pop >>= next) :=
  bind .pop pop asksNext

theorem poppingLocation {next : Location → Action β}
    (asksNext : ∀ location, Asks count (next location)) :
    Asks (count + 1) (Frame.popLocation >>= next) :=
  bind .popLocation popLocation asksNext

/-- Look at the grid, and go on. -/
theorem looking {next : Grid → Action β} (asksNext : ∀ grid, Asks count (next grid)) :
    Asks count (currentGrid >>= next) :=
  bind .look (of_sure fun frame => ⟨_, frame, rfl⟩) asksNext

/-- Compute something, and go on. -/
theorem requiring {result : Except Failure α} {next : α → Action β} (wantless : Wantless result)
    (asksNext : ∀ value, Asks count (next value)) :
    Asks count (Frame.require result >>= next) :=
  bind (.require result) (require wantless) asksNext

/-- Ask for an edit; whatever follows asks for nothing. -/
theorem editing (request : Request) {next : Nat → Action α}
    (nothing : ∀ inserted, Asks 0 (next inserted)) :
    Asks count (Frame.edit request.revise >>= next) :=
  bind_last (edit request) nothing

theorem pushLocation (location : Location) : Asks count (pushLocation location) :=
  requiring location.wantless_encode fun shown => of_sure (.push shown)

theorem pushNumber (number : Int) : Asks count (pushNumber number) :=
  requiring (Numeral.wantless_encode number) fun shown => of_sure (.push shown)

theorem advancing {action : Action Unit} (asks : Asks count action) :
    Asks count (do action; return Flow.advance) :=
  bind_last asks fun _ => of_sure (.pure Flow.advance)

/-- Point the thread elsewhere and put a location on memory. -/
theorem pointing (change : Frame → Frame) (location : Location) :
    Asks count (do
      modify change
      Frame.pushLocation location
      return Flow.advance) :=
  bind_last (of_sure (.modify change)) fun _ => advancing (pushLocation location)

/-! ## Operations -/

theorem applyOperator (operator : Operator) (argument : Text) :
    Asks 2 (applyOperator operator argument) := by
  have operand := lastOperand argument
  cases operator with
  | equal =>
      exact bind (.lastOperand argument) operand fun second =>
        bind_last pop fun first => of_sure (.push _)
  | isZero =>
      refine bind (.lastOperand argument) operand fun value => ?_
      exact requiring (Numeral.wantless_decode value) fun number => pushNumber _
  | binary operator =>
      refine bind (.lastOperand argument) operand fun value => ?_
      refine requiring (Numeral.wantless_decode value) fun second => ?_
      refine bind_last pop fun other => ?_
      exact requiring (Numeral.wantless_decode other) fun first => pushNumber _

theorem math (operand : Text) : Asks 2 (math operand) := by
  unfold Frame.math
  split
  · exact of_sure (.pure _)
  · split
    · exact of_sure (.pure _)
    · exact advancing (applyOperator _ _)

theorem jump (label : Text) : Asks count (jump label) :=
  looking fun _ => of_sure (.pure _)

/-- No instruction asks for more than two values. -/
theorem execute (instruction : Instruction) : Asks 2 (execute instruction) := by
  rcases instruction with ⟨opcode, operand⟩
  cases opcode with
  | load =>
      apply looking
      intro grid
      cases grid.findLead operand with
      | none => exact of_sure (.pure _)
      | some location => exact of_sure (.advancing (.push _))
  | save =>
      apply popping
      intro value
      apply looking
      intro grid
      cases grid.findLead operand with
      | none => exact of_sure (.pure _)
      | some location =>
          exact editing (.replace location _ _) fun _ => of_sure (.advancing (.modify _))
  | math => exact math operand
  | branch =>
      apply popping
      intro value
      split
      · exact jump operand
      · exact of_sure (.pure _)
  | jump => exact jump operand
  | halt => exact of_sure (.pure _)
  | find =>
      apply looking
      intro grid
      cases grid.findLead operand with
      | none => exact of_sure (.pure _)
      | some location => exact advancing (pushLocation location)
  | appendWord =>
      exact popping fun word => poppingLocation fun location => looking fun grid =>
        editing (.replace _ 0 (' ' :: word)) fun _ => pointing _ _
  | addLine =>
      exact poppingLocation fun location =>
        editing (.addLine (location.row + 1)) fun _ => pointing _ _
  | deleteWord =>
      exact poppingLocation fun location => looking fun grid =>
        editing (.replace location _ []) fun _ => pointing _ location
  | deleteLetter =>
      exact poppingLocation fun location => looking fun grid =>
        requiring (grid.wantless_letterAt location) fun _ =>
          editing (.replace location 1 []) fun _ => pointing _ location
  | paste =>
      exact popping fun text => poppingLocation fun location =>
        editing (.replace location 0 text) fun _ => of_sure (.advancing (.modify _))
  | move =>
      apply poppingLocation
      intro location
      cases Direction.ofText? operand with
      | none => exact of_sure (.pure _)
      | some direction => exact advancing (pushLocation _)
  | drop => exact popping fun _ => of_sure (.pure _)
  | swap =>
      exact popping fun first => popping fun second =>
        of_sure (.bind (.push first) fun _ => .advancing (.push second))
  | duplicate =>
      exact popping fun value => of_sure (.bind (.push value) fun _ => .advancing (.push value))
  | readLetter =>
      exact poppingLocation fun location => looking fun grid =>
        requiring (grid.wantless_letterAt location) fun letter =>
          of_sure (.advancing (.push letter))
  | jumpIndirect =>
      apply poppingLocation
      intro location
      apply looking
      intro grid
      split
      · exact of_sure (.pure _)
      · have other : decide ((Cause.jumpOutside location).kind = .underflow) = false := rfl
        exact require (.ofCause other)

end Asks

/-- So a word that finds too few values has found at most one. -/
theorem memory_of_perform_underflows {word : Word} {frame left : Frame} {failure : Failure}
    (failed : perform word frame = .error failure left) (underflows : failure.underflows = true) :
    frame.memory.length < 2 := by
  have executed := perform_eq_error failed
  cases decoded : Instruction.decode? word.text with
  | none =>
      simp only [executeWord, decoded] at executed
      cases executed
  | some instruction =>
      simp only [executeWord, decoded] at executed
      exact Asks.execute instruction frame failure left executed underflows

end Frame

/-! ## Observers -/

namespace Monitor

/-- Observers are told what none of them refuses, and the limit on digits is all that
makes one refuse. -/
theorem tellAll_cases (notice : Notice) (observers : List Observer) (journal : Journal) :
    ((∀ observer ∈ observers, refuses notice observer = false) ∧
        ∃ told, tellAll notice journal observers = .ok () told) ∨
      (∃ observer ∈ observers, refuses notice observer = true) ∧
        ∃ told, tellAll notice journal observers = .error .overlong told := by
  induction observers generalizing journal with
  | nil => exact .inl ⟨nofun, _, rfl⟩
  | cons observer rest inductionHypothesis =>
      simp only [List.forall_mem_cons, List.exists_mem_cons_iff, tellAll]
      rcases tellOne_cases notice observer journal with
        ⟨takes, ⟨told, written⟩, first⟩ | ⟨refused, ⟨told, written⟩, first⟩
      · rcases inductionHypothesis written with
          ⟨others, ⟨laterTold, last⟩, later⟩ | ⟨otherRefuses, ⟨laterTold, last⟩, later⟩
        · exact .inl ⟨⟨takes, others⟩, (told :: laterTold, last), by simp only [first, later]⟩
        · exact .inr ⟨.inr otherRefuses, (told :: laterTold, last), by simp only [first, later]⟩
      · exact .inr ⟨.inl refused, (told :: rest, written), by simp only [first]⟩

end Monitor

/-- Whether a notice can be written down is seen from the pointer of the thread. -/
theorem Thread.fits_event_notice (thread : Thread) (program : Program) :
    (thread.notice program).event.fits = thread.pointer.all Location.fits := by
  cases pointed : thread.pointer with
  | none => simp only [notice, pointed, Notice.event, Event.fits, Option.all_none]
  | some location =>
      simp only [notice, pointed, Notice.event, Event.fits, stateAt, Option.all_some]

namespace Scene

/-- Telling succeeds unless an observer refuses, and changes nothing but the monitor. -/
theorem tell_cases (scene : Scene) :
    ((∀ observer ∈ scene.monitor.observers,
          Monitor.refuses (scene.thread.notice scene.program) observer = false) ∧
        ∃ monitor, tell scene = .ok () { scene with monitor := monitor }) ∨
      (∃ observer ∈ scene.monitor.observers,
          Monitor.refuses (scene.thread.notice scene.program) observer = true) ∧
        ∃ monitor, tell scene = .error .overlong { scene with monitor := monitor } := by
  rcases Monitor.tellAll_cases (scene.thread.notice scene.program) scene.monitor.observers
      scene.monitor.journal with
    ⟨take, ⟨observers, journal⟩, told⟩ | ⟨refuse, ⟨observers, journal⟩, told⟩
  · exact .inl ⟨take, ⟨observers, journal⟩, by simp only [tell, Monitor.tell, told]⟩
  · exact .inr ⟨refuse, ⟨observers, journal⟩, by simp only [tell, Monitor.tell, told]⟩

/-- Observers take a notice of one thread when they take that of another with the same
pointer. -/
theorem tell_of_pointer_eq {scene next : Scene} (told : tell scene = .ok () next)
    (other : Scene) (pointer : other.thread.pointer = scene.thread.pointer)
    (observers : other.monitor.observers = scene.monitor.observers) :
    ∃ monitor, tell other = .ok () { other with monitor := monitor } := by
  have fits : (other.thread.notice other.program).event.fits =
      (scene.thread.notice scene.program).event.fits := by
    rw [Thread.fits_event_notice, Thread.fits_event_notice, pointer]
  have refusal (observer : Observer) :
      Monitor.refuses (other.thread.notice other.program) observer =
        Monitor.refuses (scene.thread.notice scene.program) observer := by
    cases observer with
    | recorder kept => rw [Monitor.refuses, Monitor.refuses, fits]
    | reporter level => rw [Monitor.refuses, Monitor.refuses, fits]
    | silent => rfl
  rcases tell_cases other with ⟨_, taken⟩ | ⟨⟨observer, member, refuses⟩, _⟩
  · exact taken
  · rw [observers] at member
    rw [refusal] at refuses
    rcases tell_cases scene with ⟨take, _⟩ | ⟨_, monitor, failed⟩
    · rw [take observer member] at refuses
      cases refuses
    · rw [told] at failed
      cases failed

end Scene

/-! ## Steps -/

/-- The thread with more values below those in its memory. -/
def Thread.above (thread : Thread) (below : List Text) : Thread :=
  { thread with memory := thread.memory ++ below }

/-- The scene with more values below those in the memory of its thread. -/
def Scene.above (scene : Scene) (below : List Text) : Scene :=
  { scene with thread := scene.thread.above below }

namespace Scene

variable {scene next : Scene}

/-- A step that succeeds does the same above other values. -/
theorem step_above (stepped : step scene = .ok () next) (below : List Text) :
    ∃ monitor, step (scene.above below) = .ok () { next.above below with monitor := monitor } := by
  cases running : scene.thread.pointer with
  | none =>
      rw [step_of_ended running] at stepped
      cases stepped
      exact ⟨scene.monitor, step_of_ended running⟩
  | some location =>
      by_cases fits : location.fits = true
      · obtain ⟨target, frame, performed, thread_eq, program_eq⟩ := step_eq_ok running stepped
        obtain ⟨monitor, step_eq, observers_eq⟩ := step_of_perform_ok running fits performed
        rw [stepped] at step_eq
        have runningAbove : (scene.above below).thread.pointer = some location := running
        have performedAbove : Frame.perform ((scene.above below).program.grid.readWord location)
            ((scene.above below).frame location) = .ok target (frame.above below) :=
          Frame.perform_above performed below
        obtain ⟨otherMonitor, otherStep_eq, otherObservers_eq⟩ :=
          step_of_perform_ok runningAbove fits performedAbove
        -- Both tell their observers of the same pointer.
        obtain ⟨heard, told⟩ := tell_of_pointer_eq step_eq.symm
          ⟨{ (scene.above below).thread with
            pointer := target
            memory := (frame.above below).memory }, frame.program, otherMonitor⟩
          rfl (otherObservers_eq.trans observers_eq.symm)
        refine ⟨heard, otherStep_eq.trans (told.trans ?_)⟩
        simp only [above, Thread.above, Frame.above, thread_eq, program_eq]
      · rw [step_of_not_fits running (by simpa using fits)] at stepped
        cases stepped

/-- A step that finds too few values has found at most one. -/
theorem memory_of_step_underflows {failure : Failure} (failed : step scene = .error failure next)
    (underflows : failure.underflows = true) : scene.thread.memory.length < 2 := by
  cases running : scene.thread.pointer with
  | none =>
      rw [step_of_ended running] at failed
      cases failed
  | some location =>
      by_cases fits : location.fits = true
      · cases performed : Frame.perform (scene.program.grid.readWord location)
            (scene.frame location) with
        | error raised frame =>
            rw [step_of_perform_error running fits performed] at failed
            injection failed with failure_eq _
            rw [← failure_eq, Failure.underflows_arisingIn] at underflows
            exact Frame.memory_of_perform_underflows performed underflows
        | ok target frame =>
            obtain ⟨monitor, step_eq, _⟩ := step_of_perform_ok running fits performed
            rw [failed] at step_eq
            -- The instruction has succeeded, so an observer has refused to be told.
            rcases tell_cases _ with ⟨_, _, told⟩ | ⟨_, _, refused⟩
            · rw [← step_eq] at told
              cases told
            · rw [← step_eq] at refused
              cases refused
              cases underflows
      · rw [step_of_not_fits running (by simpa using fits)] at failed
        cases failed
        cases underflows

/-- A thread steps on the top of its memory alone. A step that succeeds also succeeds
with any other values below those in memory; it leaves them below what it leaves
without them, and comes to the same program and pointer. A step that fails for want of
values has fewer than two in memory. -/
theorem steps_work_on_top_of_memory (scene : Scene) :
    (∀ next, step scene = .ok () next → ∀ below,
      ∃ other, step (scene.above below) = .ok () other ∧
        other.thread = next.thread.above below ∧ other.program = next.program) ∧
    ∀ fault next, step scene = .error (.fault fault) next → fault.kind = .underflow →
      scene.thread.memory.length < 2 := by
  constructor
  · intro next stepped below
    obtain ⟨monitor, steppedAbove⟩ := step_above stepped below
    exact ⟨_, steppedAbove, rfl, rfl⟩
  · intro fault next failed underflow
    exact memory_of_step_underflows failed (decide_eq_true underflow)

/-- Two values are exchanged above a third one, and one value is too few. -/
theorem steps_work_on_top_of_memory_swap :
    (∃ other, step ((alone "v h" ⟨0, 0⟩ ["a", "b"]).above ["c".toList]) = .ok () other ∧
      other.thread = (alone "v h" ⟨0, 2⟩ ["b", "a", "c"]).thread ∧
      other.program = (alone "v h" ⟨0, 2⟩ []).program) ∧
    (alone "v h" ⟨0, 0⟩ ["a"]).thread.memory.length < 2 := by
  have stepped : step (alone "v h" ⟨0, 0⟩ ["a", "b"]) = .ok () (alone "v h" ⟨0, 2⟩ ["b", "a"]) := by
    decide +kernel
  have failed : step (alone "v h" ⟨0, 0⟩ ["a"]) =
      .error (.fault ⟨.emptyMemory, some "main", some ⟨0, 0⟩⟩) (alone "v h" ⟨0, 0⟩ []) := by
    decide +kernel
  constructor
  · exact (steps_work_on_top_of_memory _).1 _ stepped ["c".toList]
  · exact (steps_work_on_top_of_memory _).2 _ _ failed rfl

end Scene

end Palimpsest
