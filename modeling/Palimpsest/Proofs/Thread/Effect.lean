import Palimpsest.Proofs.Thread.Failure
import Palimpsest.Proofs.Thread.Rebase

/-!
# What a step edits

A step that succeeds makes the one edit that its instruction asks for, and none
when the instruction asks for none. The six editing operations are known to make
their edit; what is left to see is that the others change nothing but memory, as
they are put together from actions that do so.
-/

namespace Palimpsest

namespace Frame

/-- The action changes nothing but memory, whether it succeeds or fails. -/
def MemoryOnly {α : Type} (action : Action α) : Prop :=
  ∀ frame, ∃ memory, leftBy (action frame) = { frame with memory := memory }

/-- What only takes values off memory changes nothing else. -/
theorem Takes.memoryOnly {count : Nat} {α : Type} {action : Action α}
    (takes : Takes count action) : MemoryOnly action := by
  intro frame
  obtain ⟨taken, _, left_eq⟩ := takes frame
  exact ⟨_, left_eq⟩

namespace MemoryOnly

variable {α β : Type}

theorem pure (value : α) : MemoryOnly (pure value : Action α) :=
  (Takes.pure value).memoryOnly

theorem throw (failure : Failure) : MemoryOnly (throw failure : Action α) :=
  fun frame => ⟨frame.memory, rfl⟩

theorem push (value : Text) : MemoryOnly (push value) :=
  fun frame => ⟨value :: frame.memory, rfl⟩

theorem bind {action : Action α} {next : α → Action β} (onlyFirst : MemoryOnly action)
    (onlyNext : ∀ value, MemoryOnly (next value)) : MemoryOnly (action >>= next) := by
  intro frame
  obtain ⟨memory, left_eq⟩ := onlyFirst frame
  cases result : action frame with
  | ok value middle =>
      rw [result] at left_eq
      obtain ⟨later, later_eq⟩ := onlyNext value middle
      refine ⟨later, ?_⟩
      rw [leftBy_bind_of_ok result, later_eq, show middle = _ from left_eq]
  | error failure left =>
      rw [result] at left_eq
      exact ⟨memory, (leftBy_bind_of_error result).trans left_eq⟩

theorem pushLocation (location : Location) : MemoryOnly (pushLocation location) :=
  bind (Takes.require _).memoryOnly fun shown => push shown

theorem pushNumber (number : Int) : MemoryOnly (pushNumber number) :=
  bind (Takes.require _).memoryOnly fun shown => push shown

theorem advancing {action : Action Unit} (only : MemoryOnly action) :
    MemoryOnly (do action; return Flow.advance) :=
  bind only fun _ => pure Flow.advance

/-- Take a value off memory, and go on. -/
theorem popping {next : Text → Action β} (only : ∀ value, MemoryOnly (next value)) :
    MemoryOnly (pop >>= next) :=
  bind Takes.pop.memoryOnly only

theorem poppingLocation {next : Location → Action β}
    (only : ∀ location, MemoryOnly (next location)) : MemoryOnly (popLocation >>= next) :=
  bind Takes.popLocation.memoryOnly only

theorem looking {next : Grid → Action β} (only : ∀ grid, MemoryOnly (next grid)) :
    MemoryOnly (currentGrid >>= next) :=
  bind Takes.look.memoryOnly only

theorem requiring {result : Except Failure α} {next : α → Action β}
    (only : ∀ value, MemoryOnly (next value)) : MemoryOnly (require result >>= next) :=
  bind (Takes.require result).memoryOnly only

/-! ## Operations that do not edit -/

theorem applyOperator (operator : Operator) (argument : Text) :
    MemoryOnly (applyOperator operator argument) := by
  have operand := (Takes.lastOperand argument).memoryOnly
  cases operator with
  | equal => exact bind operand fun _ => popping fun _ => push _
  | isZero => exact bind operand fun _ => requiring fun _ => pushNumber _
  | binary operator =>
      exact bind operand fun _ => requiring fun _ => popping fun _ => requiring fun _ =>
        pushNumber _

theorem math (operand : Text) : MemoryOnly (math operand) := by
  unfold Frame.math
  split
  · exact pure _
  · split
    · exact pure _
    · exact advancing (applyOperator _ _)

theorem jump (label : Text) : MemoryOnly (jump label) :=
  looking fun _ => pure _

/-- Operations other than the six that edit change nothing but memory. -/
theorem execute {instruction : Instruction} (reads : instruction.opcode.edits = false) :
    MemoryOnly (execute instruction) := by
  rcases instruction with ⟨opcode, operand⟩
  cases opcode with
  | load =>
      apply looking
      intro grid
      cases grid.findLead operand with
      | none => exact pure _
      | some location => exact advancing (push _)
  | math => exact math operand
  | branch =>
      apply popping
      intro value
      split
      · exact jump operand
      · exact pure _
  | jump => exact jump operand
  | halt => exact pure _
  | find =>
      apply looking
      intro grid
      cases grid.findLead operand with
      | none => exact pure _
      | some location => exact advancing (pushLocation location)
  | move =>
      apply poppingLocation
      intro location
      cases Direction.ofText? operand with
      | none => exact pure _
      | some direction => exact advancing (pushLocation _)
  | drop => exact popping fun _ => pure _
  | swap => exact popping fun _ => popping fun _ => bind (push _) fun _ => advancing (push _)
  | duplicate => exact popping fun _ => bind (push _) fun _ => advancing (push _)
  | readLetter =>
      exact poppingLocation fun _ => looking fun _ => requiring fun _ => advancing (push _)
  | jumpIndirect =>
      apply poppingLocation
      intro location
      apply looking
      intro grid
      split
      · exact pure _
      · exact throw _
  | _ => cases reads

/-- A word that says nothing or asks for no edit changes nothing but memory. -/
theorem executeWord {word : Word} (reads : ∀ instruction,
    Instruction.decode? word.text = some instruction → instruction.opcode.edits = false) :
    MemoryOnly (executeWord word) := by
  unfold Frame.executeWord
  cases decoded : Instruction.decode? word.text with
  | none => exact pure _
  | some instruction => exact execute (reads instruction decoded)

end MemoryOnly

end Frame

/-! ## The edit of a step -/

theorem Instruction.edit?_of_reads {instruction : Instruction}
    (reads : instruction.opcode.edits = false) (grid : Grid) (memory : List Text) :
    instruction.edit? grid memory = none := by
  rcases instruction with ⟨opcode, operand⟩
  cases opcode with
  | save | appendWord | addLine | deleteWord | deleteLetter | paste => cases reads
  | _ => rfl

/-- Going on behind a word changes nothing. -/
theorem Frame.perform_eq_ok {word : Word} {frame after : Frame} {target : Option Location}
    (performed : perform word frame = .ok target after) :
    ∃ flow, executeWord word frame = .ok flow after := by
  rcases bind_eq_ok_iff.mp performed with ⟨flow, middle, executed, continued⟩
  cases flow with
  | advance =>
      cases continued
      exact ⟨_, executed⟩
  | transfer target =>
      cases continued
      exact ⟨_, executed⟩

/-- The edit that a thread makes with its next step, if that succeeds. -/
def Thread.edit? (thread : Thread) (grid : Grid) : Option Edit :=
  thread.pointer.bind fun pointer =>
    (Instruction.decode? (grid.readWord pointer).text).bind fun instruction =>
      instruction.edit? grid thread.memory

/-- The program has become another one by an edit, or is the same without one. -/
def Program.ChangedBy (program next : Program) : Option Edit → Prop
  | none => next = program
  | some edit => edit.Applies program.grid ∧ next.grid = edit.apply program.grid

namespace Scene

variable {scene next : Scene} {pointer : Location}

section Reading

variable (running : scene.thread.pointer = some pointer)
  (reads : ∀ instruction,
    Instruction.decode? (scene.program.grid.readWord pointer).text = some instruction →
      instruction.opcode.edits = false)
include running reads

/-- A word that says nothing or asks for no edit leaves the program alone, also when its
step fails. -/
theorem program_leftBy_step_of_reads : (leftBy (step scene)).program = scene.program := by
  obtain ⟨memory, left_eq⟩ := Frame.MemoryOnly.executeWord reads (scene.frame pointer)
  by_cases fits : pointer.fits = true
  · cases performed : Frame.perform (scene.program.grid.readWord pointer)
        (scene.frame pointer) with
    | error failure frame =>
        rw [Frame.perform_eq_error performed] at left_eq
        rw [step_of_perform_error running fits performed]
        exact congrArg Frame.program left_eq
    | ok target frame =>
        obtain ⟨flow, executed⟩ := Frame.perform_eq_ok performed
        rw [executed] at left_eq
        rw [(leftBy_step_of_perform_ok running fits performed).2]
        exact congrArg Frame.program left_eq
  · rw [step_of_not_fits running (by simpa using fits)]
    rfl

theorem program_of_step_eq_ok (stepped : step scene = .ok () next) :
    next.program = scene.program := by
  have kept := program_leftBy_step_of_reads running reads
  rwa [stepped] at kept

end Reading

/-- A step that succeeds makes its edit and no other. -/
theorem changedBy_of_step_eq_ok (stepped : step scene = .ok () next) :
    scene.program.ChangedBy next.program (scene.thread.edit? scene.program.grid) := by
  cases running : scene.thread.pointer with
  | none =>
      rw [step_of_ended running] at stepped
      cases stepped
      rw [Thread.edit?, running]
      rfl
  | some pointer =>
      rw [Thread.edit?, running, Option.bind_some]
      cases decoded : Instruction.decode? (scene.program.grid.readWord pointer).text with
      | none => exact program_of_step_eq_ok running (by simp [decoded]) stepped
      | some instruction =>
          rw [Option.bind_some]
          cases edits : instruction.opcode.edits with
          | false =>
              rw [Instruction.edit?_of_reads edits]
              exact program_of_step_eq_ok running (by simp [decoded, edits]) stepped
          | true =>
              obtain ⟨after, edited, program_eq, _⟩ :=
                step_eq_ok_of_edits running decoded edits stepped
              rw [program_eq]
              cases edit_eq : instruction.edit? scene.program.grid scene.thread.memory with
              | none =>
                  rw [edit_eq] at edited
                  exact edited.1
              | some edit =>
                  rw [edit_eq] at edited
                  exact ⟨edited.1, edited.2.1⟩

end Scene

end Palimpsest
