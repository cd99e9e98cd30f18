import Palimpsest.Proofs.Grid.Lines
import Palimpsest.Proofs.Thread.Editing
import Palimpsest.Proofs.Thread.Step

/-!
# Instructions put in no line ends

A letter with a line feed would pass for two rows in the text of its program, and an
instruction could put one in if its thread had a line end in memory. So the letters of
the grid and the values in memory are looked at together: whatever an instruction
pushes comes from words and letters, or is a number or a location, and whatever it puts
into the grid comes from words and from memory.
-/

namespace Palimpsest

/-- There is a row, and no letter has a line end. -/
def Program.Tidy (program : Program) : Prop :=
  program.grid ≠ [] ∧ program.grid.Tidy

theorem Program.tidy_load [Cluster.Splitter] (text : Text) (immediate : Bool) :
    (Program.load text immediate).Tidy :=
  ⟨Buffer.rowsOf_ne_nil _, Grid.tidy_rows_load text⟩

/-- The text that a request puts in has no line end. -/
def Request.Tidy : Request → Prop
  | .replace _ _ text => Text.OneLine text
  | .addLine _ => True

/-- Every letter that an accepted request puts in comes from its text. -/
theorem Request.Tidy.oneLine [Cluster.Splitter] {request : Request} (tidy : request.Tidy)
    {grid : Grid} {place : Location} {deleted : Nat} {letters : List Letter}
    (edit_eq : request.edit? grid = some (.exchange place deleted letters)) :
    ∀ letter ∈ letters, Text.OneLine letter := by
  obtain ⟨_, text, rfl, rfl⟩ := Request.exists_text_of_edit?_eq edit_eq
  exact fun letter => Cluster.oneLine_of_mem_split tidy

theorem Program.Tidy.revise [Cluster.Splitter] {program : Program} (tidy : program.Tidy)
    {request : Request} (requestTidy : request.Tidy) {revision : Revision}
    (accepted : request.revise program = .ok revision) : revision.program.Tidy := by
  obtain ⟨edit, edit_eq, applies, grid_eq, _⟩ := Request.edit?_of_revise_eq_ok accepted
  unfold Program.Tidy
  rw [grid_eq]
  constructor
  · have rows := List.length_pos_iff.mpr tidy.1
    exact List.length_pos_iff.mp (Nat.lt_of_lt_of_le rows (Edit.length_le_apply applies))
  · apply tidy.2.apply
    rintro place deleted letters rfl
    exact requestTidy.oneLine edit_eq

/-- The memory of a thread has no line ends. -/
def Thread.Tidy (thread : Thread) : Prop :=
  ∀ value ∈ thread.memory, Text.OneLine value

/-! ## Operands -/

theorem Instruction.oneLine_operand {word : Text} {instruction : Instruction}
    (oneLine : Text.OneLine word) (decoded : decode? word = some instruction) :
    Text.OneLine instruction.operand := by
  have normal : ∀ first rest, normalize word = first :: rest → Text.OneLine rest := by
    intro first rest same
    unfold normalize at same
    split at same
    · cases same
      exact oneLine.mono (List.drop_subset _ _)
    · exact oneLine.mono (same ▸ List.subset_cons_self first rest)
  unfold decode? at decoded
  split at decoded
  · cases decoded
  · rename_i first rest same
    obtain ⟨opcode, _, rfl⟩ := Option.map_eq_some_iff.mp decoded
    exact normal first rest same

namespace Frame

/-- Neither the program nor the memory has a line end where none belongs. -/
structure Tidy (frame : Frame) : Prop where
  program : frame.program.Tidy
  memory : ∀ value ∈ frame.memory, Text.OneLine value

/-- The action leaves a tidy frame tidy, be it a success or a failure, and what it
comes to is good. -/
def Tidies {α : Type} (good : α → Prop) (action : Action α) : Prop :=
  ∀ frame, frame.Tidy → (leftBy (action frame)).Tidy ∧
    ∀ value after, action frame = .ok value after → good value

namespace Tidies

variable {α β : Type} {good : α → Prop} {goodNext : β → Prop}

theorem pure {value : α} (holds : good value) : Tidies good (pure value : Action α) := by
  intro frame tidy
  refine ⟨tidy, ?_⟩
  rintro _ _ ⟨⟩
  exact holds

theorem throw (failure : Failure) : Tidies good (throw failure : Action α) := by
  intro frame tidy
  refine ⟨tidy, ?_⟩
  rintro _ _ ⟨⟩

theorem bind {first : Action α} {next : α → Action β} (tidies : Tidies good first)
    (tidiesNext : ∀ value, good value → Tidies goodNext (next value)) :
    Tidies goodNext (first >>= next) := by
  intro frame tidy
  obtain ⟨left, holds⟩ := tidies frame tidy
  cases result : first frame with
  | ok value middle =>
      rw [result] at left
      rw [bind_of_ok result]
      exact tidiesNext value (holds value middle result) middle left
  | error failure middle =>
      rw [result] at left
      rw [bind_of_error result]
      refine ⟨left, ?_⟩
      rintro _ _ ⟨⟩

theorem push {value : Text} (oneLine : Text.OneLine value) :
    Tidies (fun _ => True) (push value) := by
  intro frame tidy
  refine ⟨⟨tidy.program, ?_⟩, fun _ _ _ => trivial⟩
  exact List.forall_mem_cons.mpr ⟨oneLine, tidy.memory⟩

theorem pop : Tidies Text.OneLine pop := by
  intro frame tidy
  cases memory : frame.memory with
  | nil =>
      rw [pop_of_nil memory]
      refine ⟨tidy, ?_⟩
      rintro _ _ ⟨⟩
  | cons value rest =>
      obtain ⟨oneLine, others⟩ := List.forall_mem_cons.mp (memory ▸ tidy.memory)
      rw [pop_of_cons memory]
      refine ⟨⟨tidy.program, others⟩, ?_⟩
      rintro _ _ ⟨⟩
      exact oneLine

theorem look : Tidies Grid.Tidy currentGrid := by
  intro frame tidy
  refine ⟨tidy, ?_⟩
  rintro _ _ ⟨⟩
  exact tidy.program.2

theorem require {result : Except Failure α} (holds : ∀ value, result = .ok value → good value) :
    Tidies good (require result) := by
  cases result with
  | ok value => exact pure (holds value rfl)
  | error failure => exact throw failure

theorem point (target : Frame → Location) :
    Tidies (fun _ => True)
      (modify fun frame => { frame with pointer := target frame } : Action Unit) :=
  fun _ tidy => ⟨⟨tidy.program, tidy.memory⟩, fun _ _ _ => trivial⟩

theorem edit [Cluster.Splitter] (request : Request) (requestTidy : request.Tidy) :
    Tidies (fun _ => True) (Frame.edit request.revise) := by
  intro frame tidy
  refine ⟨?_, fun _ _ _ => trivial⟩
  cases revised : request.revise frame.program with
  | ok revision =>
      rw [edit_of_ok revised]
      exact ⟨tidy.program.revise requestTidy revised, tidy.memory⟩
  | error failure =>
      rw [edit_of_error revised]
      exact tidy

theorem pushLocation (location : Location) :
    Tidies (fun _ => True) (pushLocation location) := by
  apply bind (require fun shown encoded => ?_) fun shown oneLine => push oneLine
  unfold Location.encode at encoded
  split at encoded
  · exact Except.ok.inj encoded ▸ location.oneLine_text
  · cases encoded

theorem pushNumber (number : Int) : Tidies (fun _ => True) (pushNumber number) := by
  apply bind (require fun shown encoded => ?_) fun shown oneLine => push oneLine
  unfold Numeral.encode at encoded
  split at encoded
  · exact Except.ok.inj encoded ▸ Numeral.oneLine_text number
  · cases encoded

theorem popLocation : Tidies (fun _ => True) popLocation :=
  bind pop fun _ _ => require fun _ _ => trivial

/-- Do something and advance. -/
theorem advancing {action : Action Unit} (tidies : Tidies (fun _ => True) action) :
    Tidies (fun _ => True) (do action; return Flow.advance) :=
  bind tidies fun _ _ => pure trivial

theorem rebase (place : Location) (delta : Int) (inclusive : Bool) :
    Tidies (fun _ => True) (rebase place delta inclusive) :=
  point fun frame => rebasedPointer frame.pointer place delta inclusive

theorem replace [Cluster.Splitter] {location : Location} {length : Int} {text : Text}
    (oneLine : Text.OneLine text) :
    Tidies (fun _ => True)
      (Frame.edit fun program => program.replace location length text) :=
  edit (.replace location length text) oneLine

/-! ## Operations -/

theorem load {lead : Text} : Tidies (fun _ => True) (load lead) := by
  apply bind look
  intro grid tidy
  cases grid.findLead lead with
  | none => exact pure trivial
  | some location =>
      exact advancing (push ((tidy.readWord location).mono (List.drop_subset _ _)))

theorem save [Cluster.Splitter] {lead : Text} (oneLine : Text.OneLine lead) :
    Tidies (fun _ => True) (save lead) := by
  apply bind pop
  intro value valueOneLine
  apply bind look
  intro grid _
  cases grid.findLead lead with
  | none => exact pure trivial
  | some location =>
      exact bind (replace (Text.oneLine_append_iff.mpr ⟨oneLine, valueOneLine⟩)) fun _ _ =>
        advancing (rebase _ _ _)

theorem lastOperand {argument : Text} (oneLine : Text.OneLine argument) :
    Tidies Text.OneLine (lastOperand argument) := by
  unfold Frame.lastOperand
  split
  · exact pop
  · exact pure oneLine

theorem applyOperator (operator : Operator) {argument : Text} (oneLine : Text.OneLine argument) :
    Tidies (fun _ => True) (applyOperator operator argument) := by
  cases operator with
  | equal =>
      apply bind (lastOperand oneLine)
      intro second _
      apply bind pop
      intro first _
      apply push
      split
      · decide
      · decide
  | isZero =>
      exact bind (lastOperand oneLine) fun _ _ => bind (require fun _ _ => trivial)
        fun _ _ => pushNumber _
  | binary operator =>
      exact bind (lastOperand oneLine) fun _ _ => bind (require fun _ _ => trivial)
        fun _ _ => bind pop fun _ _ => bind (require fun _ _ => trivial)
          fun _ _ => pushNumber _

theorem math {operand : Text} (oneLine : Text.OneLine operand) :
    Tidies (fun _ => True) (math operand) := by
  unfold Frame.math
  split
  · exact pure trivial
  · split
    · exact pure trivial
    · exact advancing (applyOperator _ (Text.oneLine_cons_iff.mp oneLine).2)

theorem jump (label : Text) : Tidies (fun _ => True) (jump label) :=
  bind look fun _ _ => pure trivial

theorem appendWord [Cluster.Splitter] : Tidies (fun _ => True) appendWord := by
  apply bind pop
  intro word oneLine
  apply bind popLocation
  intro location _
  apply bind look
  intro grid _
  apply bind (replace (Text.oneLine_cons_iff.mpr ⟨by decide, oneLine⟩))
  intro inserted _
  exact bind (rebase _ _ _) fun _ _ => advancing (pushLocation _)

theorem addLine [Cluster.Splitter] : Tidies (fun _ => True) addLine := by
  apply bind popLocation
  intro location _
  apply bind (edit (.addLine (location.row + 1)) trivial)
  intro _ _
  have moved : Tidies (fun _ => True) (modify fun frame =>
      if location.row + 1 ≤ frame.pointer.row then
        { frame with pointer := frame.pointer.shift 1 0 }
      else frame : Action Unit) := by
    intro frame tidy
    refine ⟨?_, fun _ _ _ => trivial⟩
    change Frame.Tidy (if _ then _ else _)
    split
    · exact ⟨tidy.program, tidy.memory⟩
    · exact tidy
  exact bind moved fun _ _ => advancing (pushLocation _)

/-- A word and a letter are deleted alike: their place is pushed back. -/
theorem deleting [Cluster.Splitter] (location : Location) (length : Int) :
    Tidies (fun _ => True) (do
      let _ ← Frame.edit fun program => program.replace location length []
      Frame.rebase location (-length) false
      Frame.pushLocation location
      return Flow.advance) :=
  bind (replace Text.oneLine_nil) fun _ _ => bind (rebase _ _ _) fun _ _ =>
    advancing (pushLocation location)

/-- No instruction whose operand has no line end puts one anywhere. -/
theorem execute [Cluster.Splitter] {instruction : Instruction}
    (oneLine : Text.OneLine instruction.operand) :
    Tidies (fun _ => True) (execute instruction) := by
  rcases instruction with ⟨opcode, operand⟩
  cases opcode with
  | load => exact load
  | save => exact save oneLine
  | math => exact math oneLine
  | branch =>
      apply bind pop
      intro value _
      split
      · exact jump operand
      · exact pure trivial
  | jump => exact jump operand
  | halt => exact pure trivial
  | find =>
      apply bind look
      intro grid _
      cases grid.findLead operand with
      | none => exact pure trivial
      | some location => exact advancing (pushLocation location)
  | appendWord => exact appendWord
  | addLine => exact addLine
  | deleteWord =>
      exact bind popLocation fun location _ => bind look fun _ _ => deleting location _
  | deleteLetter =>
      exact bind popLocation fun location _ => bind look fun _ _ =>
        bind (require fun _ _ => trivial) fun _ _ => deleting location 1
  | paste =>
      exact bind pop fun _ oneLine => bind popLocation fun _ _ =>
        bind (replace oneLine) fun _ _ => advancing (rebase _ _ _)
  | move =>
      apply bind popLocation
      intro location _
      cases Direction.ofText? operand with
      | none => exact pure trivial
      | some direction => exact advancing (pushLocation _)
  | drop => exact bind pop fun _ _ => pure trivial
  | swap =>
      exact bind pop fun _ first => bind pop fun _ second => bind (push first) fun _ _ =>
        advancing (push second)
  | duplicate =>
      exact bind pop fun _ value => bind (push value) fun _ _ => advancing (push value)
  | readLetter =>
      exact bind popLocation fun _ _ => bind look fun _ tidy =>
        bind (require fun _ found => tidy.of_letterAt_eq_ok found) fun _ letter =>
          advancing (push letter)
  | jumpIndirect =>
      apply bind popLocation
      intro location _
      apply bind look
      intro grid _
      split
      · exact pure trivial
      · exact throw _

theorem perform [Cluster.Splitter] {word : Word} (oneLine : Text.OneLine word.text) :
    Tidies (fun _ => True) (perform word) := by
  have executed : Tidies (fun _ => True) (executeWord word) := by
    unfold executeWord
    split
    · exact pure trivial
    · rename_i instruction decoded
      exact execute (Instruction.oneLine_operand oneLine decoded)
  apply bind executed
  intro flow _
  cases flow with
  | transfer target => exact pure trivial
  | advance => exact fun frame tidy => ⟨tidy, fun _ _ _ => trivial⟩

end Tidies

end Frame

/-! ## Steps -/

/-- A step puts no line end anywhere, be it a success or a failure. -/
theorem Scene.tidy_leftBy_step [Cluster.Splitter] {scene : Scene} (program : scene.program.Tidy)
    (thread : scene.thread.Tidy) :
    (leftBy (step scene)).program.Tidy ∧ (leftBy (step scene)).thread.Tidy := by
  cases running : scene.thread.pointer with
  | none =>
      rw [step_of_ended running]
      exact ⟨program, thread⟩
  | some location =>
      by_cases fits : location.fits = true
      · obtain ⟨left, _⟩ := Frame.Tidies.perform (program.2.readWord location)
          (scene.frame location) ⟨program, thread⟩
        cases performed : Frame.perform (scene.program.grid.readWord location)
            (scene.frame location) with
        | error failure frame =>
            rw [performed] at left
            rw [step_of_perform_error running fits performed]
            exact ⟨left.program, left.memory⟩
        | ok target frame =>
            rw [performed] at left
            obtain ⟨thread_eq, program_eq⟩ := leftBy_step_of_perform_ok running fits performed
            rw [thread_eq, program_eq]
            exact ⟨left.program, left.memory⟩
      · rw [step_of_not_fits running (by simpa using fits)]
        exact ⟨program, thread⟩

end Palimpsest
