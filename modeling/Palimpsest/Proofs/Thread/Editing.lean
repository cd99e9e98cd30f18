import Palimpsest.Proofs.Thread.Action

/-!
# Instructions that edit

Six operations edit the grid. Each finds the place and the extent of its edit in
its own way, asks for it, and rebases the pointer. When such an instruction
succeeds, the grid is the edited one, and the pointer has been rebased by
exactly the letters that the edit has gained or lost.
-/

namespace Palimpsest

/-- Whether an operation edits the grid. -/
def Opcode.edits : Opcode → Bool
  | .save => true
  | .appendWord => true
  | .addLine => true
  | .deleteWord => true
  | .deleteLetter => true
  | .paste => true
  | _ => false

namespace Instruction

/-- What an instruction asks of the program, given the grid and the memory of
its thread, listed from the top down. Nothing is asked when memory has too few
values or no location where one is needed, or when no word begins with the
operand. -/
def request? (instruction : Instruction) (grid : Grid) (memory : List Text) : Option Request :=
  match instruction.opcode, memory with
  | .save, value :: _ =>
    (grid.findLead instruction.operand).map fun place =>
      .replace place (grid.readWord place).length (instruction.operand ++ value)
  | .appendWord, word :: address :: _ =>
    (Location.read? address).map fun location =>
      .replace (location.right (grid.readWord location).length) 0 (' ' :: word)
  | .addLine, address :: _ =>
    (Location.read? address).map fun location => .addLine (location.row + 1)
  | .deleteWord, address :: _ =>
    (Location.read? address).map fun location =>
      .replace location (grid.readWordAndBlanks location).length []
  | .deleteLetter, address :: _ =>
    (Location.read? address).map fun location => .replace location 1 []
  | .paste, text :: address :: _ =>
    (Location.read? address).map fun location => .replace location 0 text
  | _, _ => none

/-- The edit that an instruction leads to. -/
def edit? [Cluster.Splitter] (instruction : Instruction) (grid : Grid) (memory : List Text) :
    Option Edit :=
  (instruction.request? grid memory).bind fun request => request.edit? grid

end Instruction

namespace Frame

/-! ## Basic actions that succeed -/

theorem pop_eq_ok {frame after : Frame} {value : Text} (popped : pop frame = .ok value after) :
    ∃ rest, frame.memory = value :: rest ∧ after = { frame with memory := rest } := by
  cases memory : frame.memory with
  | nil =>
      rw [pop_of_nil memory] at popped
      cases popped
  | cons first rest =>
      rw [pop_of_cons memory] at popped
      cases popped
      exact ⟨rest, rfl, rfl⟩

theorem require_eq_ok {α : Type} {result : Except Failure α} {frame after : Frame} {value : α}
    (required : require result frame = .ok value after) : result = .ok value ∧ after = frame := by
  cases result with
  | ok computed =>
      rw [require_ok] at required
      cases required
      exact ⟨rfl, rfl⟩
  | error failure =>
      rw [require_error] at required
      cases required

theorem popLocation_eq_ok {frame after : Frame} {location : Location}
    (popped : popLocation frame = .ok location after) :
    ∃ address rest, frame.memory = address :: rest ∧ Location.read? address = some location ∧
      after = { frame with memory := rest } := by
  rcases bind_eq_ok_iff.mp popped with ⟨address, middle, taken, required⟩
  obtain ⟨rest, memory, rfl⟩ := pop_eq_ok taken
  obtain ⟨decoded, rfl⟩ := require_eq_ok required
  refine ⟨address, rest, memory, ?_, rfl⟩
  unfold Location.decode at decoded
  split at decoded
  · rename_i found known
    rw [known, Except.ok.inj decoded]
  · cases decoded

theorem pushLocation_eq_ok {frame after : Frame} {location : Location}
    (pushed : pushLocation location frame = .ok () after) :
    after = { frame with memory := location.text :: frame.memory } := by
  rcases bind_eq_ok_iff.mp pushed with ⟨shown, middle, required, put⟩
  obtain ⟨encoded, rfl⟩ := require_eq_ok required
  unfold Location.encode at encoded
  split at encoded
  · rw [push_apply] at put
    cases put
    rw [Except.ok.inj encoded]
  · cases encoded

theorem edit_eq_ok {revise : Program → Except Failure Revision} {frame after : Frame}
    {inserted : Nat} (edited : edit revise frame = .ok inserted after) :
    ∃ revision, revise frame.program = .ok revision ∧ inserted = revision.inserted ∧
      after = { frame with
        program := revision.program
        splices := frame.splices ++ revision.splice.toList } := by
  cases revised : revise frame.program with
  | ok revision =>
      rw [edit_of_ok revised] at edited
      cases edited
      exact ⟨revision, rfl, rfl, rfl⟩
  | error failure =>
      rw [edit_of_error revised] at edited
      cases edited

/-- A replacement that stays within its row exchanges as many letters as it was
asked to. -/
theorem edit_replace_eq_ok [Cluster.Splitter] {location : Location} {length : Int}
    {count inserted : Nat} {text : Text} {frame after : Frame}
    (edited : edit (fun program => program.replace location length text) frame = .ok inserted after)
    (length_eq : length = count) (short : count ≤ (frame.program.grid.lettersAt location).length) :
    (Request.replace location length text).edit? frame.program.grid =
        some (.exchange location count (Cluster.split text)) ∧
      (Edit.exchange location count (Cluster.split text)).Applies frame.program.grid ∧
      after.program.grid =
        (Edit.exchange location count (Cluster.split text)).apply frame.program.grid ∧
      after.pointer = frame.pointer ∧ inserted = (Cluster.split text).length := by
  obtain ⟨revision, revised, rfl, rfl⟩ := edit_eq_ok edited
  obtain ⟨line, deleted, found, col_nonneg, col_le, deleted_eq, spelled⟩ :=
    Program.replace_eq_ok revised
  have count_eq : deleted = count := by
    rw [Grid.lettersAt_of_row?_eq_some found col_nonneg, List.length_drop] at short
    omega
  subst count_eq
  obtain ⟨inserted_eq, program_eq⟩ := spelled _ rfl
  refine ⟨?_, ⟨line, found, col_nonneg, by omega⟩, ?_, rfl, inserted_eq⟩
  · simp only [Request.edit?, found, col_nonneg, col_le, and_self, if_true]
    rw [← deleted_eq]
  · rw [program_eq]

/-! ## Instructions that succeed -/

/-- Where an edit rebases the pointer to. Only a paste moves a pointer that
stands exactly where letters are put in. -/
def rebasedBy (edit : Edit) (opcode : Opcode) (pointer : Location) : Location :=
  match edit with
  | .exchange place deleted letters =>
    rebasedPointer pointer place (letters.length - deleted) (decide (opcode = .paste))
  | .newRow before => if before ≤ pointer.row then pointer.shift 1 0 else pointer

/-- What an editing instruction with the given edit makes of a frame. -/
def Edited (opcode : Opcode) (frame after : Frame) : Option Edit → Prop
  | none => after.program = frame.program ∧ after.pointer = frame.pointer
  | some edit =>
    edit.Applies frame.program.grid ∧
      after.program.grid = edit.apply frame.program.grid ∧
      after.pointer = rebasedBy edit opcode frame.pointer

theorem save_eq_ok [Cluster.Splitter] {lead : Text} {frame after : Frame} {flow : Flow}
    (executed : save lead frame = .ok flow after) :
    flow = .advance ∧ Edited .save frame after
      (Instruction.edit? ⟨.save, lead⟩ frame.program.grid frame.memory) := by
  rcases bind_eq_ok_iff.mp executed with ⟨value, _, popped, executed⟩
  obtain ⟨rest, memory, rfl⟩ := pop_eq_ok popped
  rcases bind_eq_ok_iff.mp executed with ⟨grid, _, ⟨⟩, executed⟩
  cases found : frame.program.grid.findLead lead with
  | none =>
      simp only [found] at executed
      cases executed
      simp [Instruction.edit?, Instruction.request?, memory, found, Edited]
  | some place =>
      simp only [found] at executed
      rcases bind_eq_ok_iff.mp executed with ⟨inserted, _, edited, executed⟩
      cases executed
      obtain ⟨edit_eq, applies, grid_eq, pointer_eq, rfl⟩ :=
        edit_replace_eq_ok edited rfl (Grid.length_readWord_le _ _)
      refine ⟨rfl, ?_⟩
      simp only [Instruction.edit?, Instruction.request?, memory, found, Option.map_some,
        Option.bind_some, edit_eq]
      exact ⟨applies, grid_eq, congrArg (rebasedPointer · _ _ _) pointer_eq⟩

theorem appendWord_eq_ok [Cluster.Splitter] {operand : Text} {frame after : Frame} {flow : Flow}
    (executed : appendWord frame = .ok flow after) :
    flow = .advance ∧ Edited .appendWord frame after
      (Instruction.edit? ⟨.appendWord, operand⟩ frame.program.grid frame.memory) := by
  rcases bind_eq_ok_iff.mp executed with ⟨word, _, popped, executed⟩
  obtain ⟨middle, memory, rfl⟩ := pop_eq_ok popped
  rcases bind_eq_ok_iff.mp executed with ⟨location, _, popped, executed⟩
  obtain ⟨address, rest, rfl, read, rfl⟩ := popLocation_eq_ok popped
  rcases bind_eq_ok_iff.mp executed with ⟨grid, _, ⟨⟩, executed⟩
  rcases bind_eq_ok_iff.mp executed with ⟨inserted, _, edited, executed⟩
  rcases bind_eq_ok_iff.mp executed with ⟨_, _, ⟨⟩, executed⟩
  rcases bind_eq_ok_iff.mp executed with ⟨_, _, pushed, ⟨⟩⟩
  rw [pushLocation_eq_ok pushed]
  obtain ⟨edit_eq, applies, grid_eq, pointer_eq, rfl⟩ :=
    edit_replace_eq_ok edited rfl (Nat.zero_le _)
  refine ⟨rfl, ?_⟩
  simp only [Instruction.edit?, Instruction.request?, memory, read, Option.map_some,
    Option.bind_some, edit_eq]
  refine ⟨applies, grid_eq, ?_⟩
  simp [rebasedBy, pointer_eq]

theorem addLine_eq_ok [Cluster.Splitter] {operand : Text} {frame after : Frame} {flow : Flow}
    (executed : addLine frame = .ok flow after) :
    flow = .advance ∧ Edited .addLine frame after
      (Instruction.edit? ⟨.addLine, operand⟩ frame.program.grid frame.memory) := by
  rcases bind_eq_ok_iff.mp executed with ⟨location, _, popped, executed⟩
  obtain ⟨address, rest, memory, read, rfl⟩ := popLocation_eq_ok popped
  rcases bind_eq_ok_iff.mp executed with ⟨_, _, edited, executed⟩
  obtain ⟨revision, revised, -, rfl⟩ := edit_eq_ok edited
  rcases bind_eq_ok_iff.mp executed with ⟨_, _, ⟨⟩, executed⟩
  rcases bind_eq_ok_iff.mp executed with ⟨_, _, pushed, ⟨⟩⟩
  rw [pushLocation_eq_ok pushed]
  obtain ⟨nonneg, le_length, spelled⟩ := Program.addLine_eq_ok revised
  obtain ⟨_, program_eq⟩ := spelled _ rfl
  refine ⟨rfl, ?_⟩
  simp only [Instruction.edit?, Instruction.request?, memory, read, Option.map_some,
    Option.bind_some, Request.edit?, nonneg, le_length, and_self, if_true]
  refine ⟨⟨nonneg, le_length⟩, ?_, ?_⟩
  · split <;> simp [program_eq]
  · simp only [rebasedBy]
    split <;> rfl

theorem deleteWord_eq_ok [Cluster.Splitter] {operand : Text} {frame after : Frame} {flow : Flow}
    (executed : deleteWord frame = .ok flow after) :
    flow = .advance ∧ Edited .deleteWord frame after
      (Instruction.edit? ⟨.deleteWord, operand⟩ frame.program.grid frame.memory) := by
  rcases bind_eq_ok_iff.mp executed with ⟨location, _, popped, executed⟩
  obtain ⟨address, rest, memory, read, rfl⟩ := popLocation_eq_ok popped
  rcases bind_eq_ok_iff.mp executed with ⟨grid, _, ⟨⟩, executed⟩
  rcases bind_eq_ok_iff.mp executed with ⟨_, _, edited, executed⟩
  rcases bind_eq_ok_iff.mp executed with ⟨_, _, ⟨⟩, executed⟩
  rcases bind_eq_ok_iff.mp executed with ⟨_, _, pushed, ⟨⟩⟩
  rw [pushLocation_eq_ok pushed]
  obtain ⟨edit_eq, applies, grid_eq, pointer_eq, -⟩ :=
    edit_replace_eq_ok edited rfl (Grid.length_readWordAndBlanks_le _ _)
  refine ⟨rfl, ?_⟩
  simp only [Instruction.edit?, Instruction.request?, memory, read, Option.map_some,
    Option.bind_some, edit_eq]
  refine ⟨applies, grid_eq, ?_⟩
  simp [rebasedBy, pointer_eq]

theorem deleteLetter_eq_ok [Cluster.Splitter] {operand : Text} {frame after : Frame} {flow : Flow}
    (executed : deleteLetter frame = .ok flow after) :
    flow = .advance ∧ Edited .deleteLetter frame after
      (Instruction.edit? ⟨.deleteLetter, operand⟩ frame.program.grid frame.memory) := by
  rcases bind_eq_ok_iff.mp executed with ⟨location, _, popped, executed⟩
  obtain ⟨address, rest, memory, read, rfl⟩ := popLocation_eq_ok popped
  rcases bind_eq_ok_iff.mp executed with ⟨grid, _, ⟨⟩, executed⟩
  rcases bind_eq_ok_iff.mp executed with ⟨letter, _, required, executed⟩
  obtain ⟨lettered, rfl⟩ := require_eq_ok required
  rcases bind_eq_ok_iff.mp executed with ⟨_, _, edited, executed⟩
  rcases bind_eq_ok_iff.mp executed with ⟨_, _, ⟨⟩, executed⟩
  rcases bind_eq_ok_iff.mp executed with ⟨_, _, pushed, ⟨⟩⟩
  rw [pushLocation_eq_ok pushed]
  -- There is a letter to delete, for it has been looked at before.
  have short : 1 ≤ (frame.program.grid.lettersAt location).length := by
    unfold Grid.letterAt Grid.letter? at lettered
    cases letters : frame.program.grid.lettersAt location with
    | nil => simp [letters] at lettered
    | cons first others => simp
  obtain ⟨edit_eq, applies, grid_eq, pointer_eq, -⟩ := edit_replace_eq_ok edited rfl short
  refine ⟨rfl, ?_⟩
  simp only [Instruction.edit?, Instruction.request?, memory, read, Option.map_some,
    Option.bind_some, edit_eq]
  refine ⟨applies, grid_eq, ?_⟩
  simp [rebasedBy, pointer_eq]

theorem paste_eq_ok [Cluster.Splitter] {operand : Text} {frame after : Frame} {flow : Flow}
    (executed : paste frame = .ok flow after) :
    flow = .advance ∧ Edited .paste frame after
      (Instruction.edit? ⟨.paste, operand⟩ frame.program.grid frame.memory) := by
  rcases bind_eq_ok_iff.mp executed with ⟨text, _, popped, executed⟩
  obtain ⟨middle, memory, rfl⟩ := pop_eq_ok popped
  rcases bind_eq_ok_iff.mp executed with ⟨location, _, popped, executed⟩
  obtain ⟨address, rest, rfl, read, rfl⟩ := popLocation_eq_ok popped
  rcases bind_eq_ok_iff.mp executed with ⟨inserted, _, edited, executed⟩
  rcases bind_eq_ok_iff.mp executed with ⟨_, _, ⟨⟩, ⟨⟩⟩
  obtain ⟨edit_eq, applies, grid_eq, pointer_eq, rfl⟩ :=
    edit_replace_eq_ok edited rfl (Nat.zero_le _)
  refine ⟨rfl, ?_⟩
  simp only [Instruction.edit?, Instruction.request?, memory, read, Option.map_some,
    Option.bind_some, edit_eq]
  refine ⟨applies, grid_eq, ?_⟩
  simp [rebasedBy, pointer_eq]

/-- An editing instruction that succeeds has made its edit, has rebased the
pointer by it, and lets the thread advance. -/
theorem execute_eq_ok_of_edits [Cluster.Splitter] {instruction : Instruction}
    (edits : instruction.opcode.edits = true) {frame after : Frame} {flow : Flow}
    (executed : execute instruction frame = .ok flow after) :
    flow = .advance ∧ Edited instruction.opcode frame after
      (instruction.edit? frame.program.grid frame.memory) := by
  rcases instruction with ⟨opcode, operand⟩
  cases opcode with
  | save => exact save_eq_ok executed
  | appendWord => exact appendWord_eq_ok executed
  | addLine => exact addLine_eq_ok executed
  | deleteWord => exact deleteWord_eq_ok executed
  | deleteLetter => exact deleteLetter_eq_ok executed
  | paste => exact paste_eq_ok executed
  | _ => cases edits

end Frame

end Palimpsest
