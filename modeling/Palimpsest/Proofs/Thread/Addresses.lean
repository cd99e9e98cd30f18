import Palimpsest.Proofs.Thread.Appending
import Palimpsest.Proofs.Thread.Copying
import Palimpsest.Proofs.Thread.Overflow

/-!
# Pushed addresses

Five operations push the address of a place that they have found or made. Each computes
it by a formula of its own, before or after its own edit. In the grid that is left behind
the place is always one where letters can be put in, and its address is read back as the
place. So it serves further instructions for as long as the grid stays what it is.
-/

namespace Palimpsest

/-! ## Places for letters -/

/-- Letters can be put in at the location: its row exists, and it is a column of the row
or the one right behind. -/
def Grid.Admits (grid : Grid) (location : Location) : Prop :=
  ∃ line, grid.row? location.row = some line ∧ 0 ≤ location.col ∧ location.col ≤ line.length

namespace Grid

variable {grid : Grid} {location : Location}

theorem HasInk.admits (ink : grid.HasInk location) : grid.Admits location := by
  obtain ⟨line, lineAt, col_nonneg, col_le⟩ := ink.applies_exchange []
  exact ⟨line, lineAt, col_nonneg, by omega⟩

/-- As many letters as stand there can be exchanged. -/
theorem Admits.applies_exchange (admits : grid.Admits location) {deleted : Nat}
    (short : deleted ≤ (grid.lettersAt location).length) (letters : List Letter) :
    (Edit.exchange location deleted letters).Applies grid := by
  rcases admits with ⟨line, lineAt, col_nonneg, col_le⟩
  rw [lettersAt_of_row?_eq_some lineAt col_nonneg, List.length_drop] at short
  exact ⟨line, lineAt, col_nonneg, by omega⟩

/-- So letters can be put in behind any of them. -/
theorem Admits.behind (admits : grid.Admits location) {count : Nat}
    (short : count ≤ (grid.lettersAt location).length) : grid.Admits (location.right count) := by
  rcases admits with ⟨line, lineAt, col_nonneg, col_le⟩
  rw [lettersAt_of_row?_eq_some lineAt col_nonneg, List.length_drop] at short
  refine ⟨line, by simpa [Location.right] using lineAt, ?_, ?_⟩
  · simp only [Location.right, Location.shift_col]
    omega
  · simp only [Location.right, Location.shift_col]
    omega

/-- A thread may be sent to the beginning of a row. -/
theorem Admits.isTarget (admits : grid.Admits location) (start : location.col = 0) :
    Frame.isTarget grid location = true := by
  rcases admits with ⟨line, lineAt, col_nonneg, _⟩
  exact isTarget_iff.mpr (.inr ⟨start, hasPlace_of_row?_eq_some lineAt col_nonneg⟩)

end Grid

namespace Edit

variable {grid : Grid}

/-- The place of an exchange stays a place for letters, however few are left. -/
theorem admits_apply_exchange {place : Location} {deleted : Nat} {letters : List Letter}
    (applies : (exchange place deleted letters).Applies grid) :
    Grid.Admits ((exchange place deleted letters).apply grid) place := by
  obtain ⟨line, lineAt, col_nonneg, col_le⟩ := applies_exchange_again applies []
  exact ⟨line, lineAt, col_nonneg, by omega⟩

/-- A new row has its beginning as a place for letters. -/
theorem admits_apply_newRow {before : Int} (applies : (newRow before).Applies grid) :
    Grid.Admits ((newRow before).apply grid) ⟨before, 0⟩ := by
  rcases applies with ⟨nonneg, le_length⟩
  have above : (grid.take before.toNat).length = before.toNat := by
    rw [List.length_take]
    omega
  refine ⟨[], Grid.row?_eq_some_iff.mpr ⟨nonneg, ?_⟩, Int.le_refl 0, Int.le_refl 0⟩
  rw [apply, List.getElem?_append_right (Nat.le_of_eq above), above, Nat.sub_self,
    List.getElem?_cons_zero]

end Edit

/-! ## Instructions at a place for letters -/

namespace Frame

variable {frame after : Frame} {flow : Flow} {address : Text} {rest : List Text}
  {location : Location}

theorem rebase_apply (place : Location) (delta : Int) (inclusive : Bool) (frame : Frame) :
    rebase place delta inclusive frame =
      .ok () { frame with pointer := rebasedPointer frame.pointer place delta inclusive } :=
  rfl

theorem pushLocation_of_fits (fits : location.fits = true) (frame : Frame) :
    pushLocation location frame =
      .ok () { frame with memory := location.text :: frame.memory } := by
  obtain ⟨_, after, pushed⟩ := Sure.pushLocation fits frame
  rw [pushed, pushLocation_eq_ok pushed]

theorem pushLocation_of_not_fits (long : location.fits = false) (frame : Frame) :
    pushLocation location frame = .error .overlong frame := by
  rw [pushLocation, bind_of_error]
  rw [Location.encode, long]
  rfl

/-- The action succeeds on the frame and lets the thread advance. -/
def Advances (action : Action Flow) (frame : Frame) : Prop :=
  ∃ after, action frame = .ok .advance after

theorem Advances.bind {α : Type} {first : Action α} {next : α → Action Flow} {value : α}
    {middle : Frame} (succeeded : first frame = .ok value middle)
    (advances : Advances (next value) middle) : Advances (first >>= next) frame := by
  obtain ⟨after, continued⟩ := advances
  exact ⟨after, bind_eq_ok_iff.mpr ⟨value, middle, succeeded, continued⟩⟩

theorem Advances.pushing (fits : location.fits = true) (frame : Frame) :
    Advances (do pushLocation location; return Flow.advance) frame :=
  .bind (pushLocation_of_fits fits frame) ⟨_, rfl⟩

/-- A word is deleted wherever letters can be put in, be there a word or not. -/
theorem advances_deleteWord [Cluster.Splitter] (memory : frame.memory = address :: rest)
    (read : Location.read? address = some location)
    (admits : frame.program.grid.Admits location) : Advances deleteWord frame := by
  let located : Frame := { frame with memory := rest }
  have applies : (Edit.exchange location (frame.program.grid.readWordAndBlanks location).length
      (Cluster.split [])).Applies located.program.grid :=
    admits.applies_exchange (Grid.length_readWordAndBlanks_le _ _) []
  obtain ⟨inserted, edited, edit_eq, _, _⟩ := exists_edit_of_applies applies
  apply Advances.bind (popLocation_of_cons memory read)
  apply Advances.bind (rfl : currentGrid located = .ok frame.program.grid located)
  apply Advances.bind edit_eq
  apply Advances.bind (rebase_apply _ _ _ _)
  exact .pushing (Location.fits_of_read?_eq_some read) _

/-- A word is appended to whatever stands there, and its own address is pushed if it can
be written, as it can in a moderate grid. -/
theorem appendWord_of_admits [Cluster.Splitter] {word : Text}
    (memory : frame.memory = word :: address :: rest)
    (read : Location.read? address = some location) (admits : frame.program.grid.Admits location) :
    Advances appendWord frame ∨
      ¬ frame.program.grid.Moderate ∧ ∃ left, appendWord frame = .error .overlong left := by
  let located : Frame := { frame with memory := rest }
  let place := location.right (frame.program.grid.readWord location).length
  have applies : (Edit.exchange place 0 (Cluster.split (' ' :: word))).Applies
      located.program.grid :=
    (admits.behind (Grid.length_readWord_le _ _)).applies_exchange (Nat.zero_le _) _
  obtain ⟨inserted, edited, edit_eq, _, _⟩ := exists_edit_of_applies applies
  obtain ⟨revision, revised, _, _⟩ := edit_eq_ok edit_eq
  let rebased : Frame :=
    { edited with pointer := rebasedPointer edited.pointer place inserted false }
  -- Everything before the push succeeds; the push depends on the length of the address alone.
  have appended : appendWord frame =
      (do pushLocation (place.right 1); return Flow.advance : Action Flow) rebased :=
    calc
      appendWord frame = _ := bind_of_ok (pop_of_cons memory)
      _ = _ := bind_of_ok (popLocation_of_cons rfl read)
      _ = _ := bind_of_ok (rfl : currentGrid located = .ok frame.program.grid located)
      _ = _ := bind_of_ok edit_eq
      _ = _ := bind_of_ok (rebase_apply _ _ _ _)
  cases fits : (place.right 1).fits with
  | true =>
      left
      unfold Advances
      rw [appended]
      exact Advances.pushing fits rebased
  | false =>
      right
      rw [appended]
      refine ⟨?_, _, bind_of_error (pushLocation_of_not_fits fits rebased)⟩
      intro moderate
      have written := (Program.fits_of_replace_eq_ok moderate revised).2
      rw [fits] at written
      cases written

theorem jumpIndirect_of_isTarget (memory : frame.memory = address :: rest)
    (read : Location.read? address = some location)
    (targeted : isTarget frame.program.grid location = true) :
    jumpIndirect frame = .ok (.transfer (some location)) { frame with memory := rest } := by
  apply bind_eq_ok_iff.mpr
  refine ⟨location, _, popLocation_of_cons memory read, ?_⟩
  apply bind_eq_ok_iff.mpr
  refine ⟨frame.program.grid, _, rfl, ?_⟩
  rw [if_pos targeted]
  rfl

/-! ## What the addresses are good for -/

/-- An address of the location serves on the grid, in whatever frame it stands on memory:
the word there is deleted, a text is pasted, and a word is appended unless the grid is
so large that the address of the new word cannot be written. -/
structure Serves [Cluster.Splitter] (grid : Grid) (location : Location) : Prop where
  deletes : ∀ (frame : Frame) (address operand : Text) (rest : List Text),
    frame.program.grid = grid → frame.memory = address :: rest →
    Location.read? address = some location → Advances (execute ⟨.deleteWord, operand⟩) frame
  pastes : ∀ (frame : Frame) (text address operand : Text) (rest : List Text),
    frame.program.grid = grid → frame.memory = text :: address :: rest →
    Location.read? address = some location → Advances (execute ⟨.paste, operand⟩) frame
  appends : ∀ (frame : Frame) (word address operand : Text) (rest : List Text),
    frame.program.grid = grid → frame.memory = word :: address :: rest →
    Location.read? address = some location →
    Advances (execute ⟨.appendWord, operand⟩) frame ∨
      ¬ grid.Moderate ∧ ∃ left, execute ⟨.appendWord, operand⟩ frame = .error .overlong left

/-- A thread on the grid that jumps to an address of the location gets there. -/
def JumpsTo [Cluster.Splitter] (grid : Grid) (location : Location) : Prop :=
  ∀ (frame : Frame) (address operand : Text) (rest : List Text),
    frame.program.grid = grid → frame.memory = address :: rest →
    Location.read? address = some location →
    execute ⟨.jumpIndirect, operand⟩ frame =
      .ok (.transfer (some location)) { frame with memory := rest }

theorem serves_of_admits [Cluster.Splitter] {grid : Grid} (admits : grid.Admits location) :
    Serves grid location where
  deletes := by
    rintro frame address operand rest rfl memory read
    exact advances_deleteWord memory read admits
  pastes := by
    rintro frame text address operand rest rfl memory read
    obtain ⟨after, pasted, _⟩ :=
      exists_paste_of_applies memory read (admits.applies_exchange (Nat.zero_le _) _)
    exact ⟨after, pasted⟩
  appends := by
    rintro frame word address operand rest rfl memory read
    exact appendWord_of_admits memory read admits

theorem jumpsTo_of_isTarget [Cluster.Splitter] {grid : Grid}
    (targeted : isTarget grid location = true) :
    JumpsTo grid location := by
  rintro frame address operand rest rfl memory read
  exact jumpIndirect_of_isTarget memory read targeted

end Frame

/-! ## Instructions that push an address -/

/-- Whether an operation pushes the address of a place that it has found or made. -/
def Opcode.pushesAddress : Opcode → Bool
  | .find => true
  | .appendWord => true
  | .addLine => true
  | .deleteWord => true
  | .deleteLetter => true
  | _ => false

/-- The place whose address an instruction pushes, given the grid and the memory of its
thread, and what is left of memory below the address. -/
def Instruction.address? (instruction : Instruction) (grid : Grid) (memory : List Text) :
    Option (Location × List Text) :=
  match instruction.opcode, memory with
  | .find, memory => (grid.findLead instruction.operand).map fun location => (location, memory)
  | .appendWord, _ :: address :: rest =>
    (Location.read? address).map fun location =>
      ((location.right (grid.readWord location).length).right 1, rest)
  | .addLine, address :: rest =>
    (Location.read? address).map fun location => (⟨location.row + 1, 0⟩, rest)
  | .deleteWord, address :: rest =>
    (Location.read? address).map fun location => (location, rest)
  | .deleteLetter, address :: rest =>
    (Location.read? address).map fun location => (location, rest)
  | _, _ => none

namespace Frame

variable {frame after : Frame} {flow : Flow} {location : Location}

/-- An address has been pushed that can be read, and its place is one for letters. -/
structure Addressed (location : Location) (rest : List Text) (after : Frame) : Prop where
  memory_eq : after.memory = location.text :: rest
  fits : location.fits = true
  admits : after.program.grid.Admits location

theorem pushing_eq_ok
    (executed : (do pushLocation location; return Flow.advance : Action Flow) frame =
      .ok flow after) :
    location.fits = true ∧ after = { frame with memory := location.text :: frame.memory } := by
  rcases bind_eq_ok_iff.mp executed with ⟨_, _, pushed, ⟨⟩⟩
  exact ⟨fits_of_pushLocation_eq_ok pushed, pushLocation_eq_ok pushed⟩

theorem find_eq_ok {lead : Text} (executed : find lead frame = .ok flow after) :
    (frame.program.grid.findLead lead = none ∧ after = frame) ∨
      ∃ location, frame.program.grid.findLead lead = some location ∧
        after.program = frame.program ∧ Addressed location frame.memory after := by
  rcases bind_eq_ok_iff.mp executed with ⟨grid, _, ⟨⟩, executed⟩
  cases found : frame.program.grid.findLead lead with
  | none =>
      simp only [found] at executed
      cases executed
      exact .inl ⟨rfl, rfl⟩
  | some location =>
      simp only [found] at executed
      obtain ⟨fits, rfl⟩ := pushing_eq_ok executed
      exact .inr ⟨location, rfl, rfl, rfl, fits, (Grid.hasInk_of_findLead_eq_some found).admits⟩

/-- Behind the space there is a letter, or the end of the row. -/
theorem addressed_of_appendWord_eq_ok [Cluster.Splitter]
    (executed : appendWord frame = .ok flow after) (operand : Text) :
    ∃ location rest,
      Instruction.address? ⟨.appendWord, operand⟩ frame.program.grid frame.memory =
        some (location, rest) ∧ Addressed location rest after := by
  obtain ⟨word, address, rest, origin, place, memory, read, place_eq, applies, grid_eq, fits,
    memory_eq⟩ := exists_of_appendWord_eq_ok executed
  refine ⟨place.right 1, rest, ?_, memory_eq, fits, ?_⟩
  · simp only [Instruction.address?, memory, read, Option.map_some, place_eq]
  · have spaced : 1 ≤ (Grid.lettersAt
        ((Edit.exchange place 0 (Cluster.split (' ' :: word))).apply frame.program.grid)
        place).length := by
      have something := List.length_pos_iff.mpr (Cluster.split_ne_nil (List.cons_ne_nil ' ' word))
      rw [Edit.lettersAt_insert applies, List.length_append]
      omega
    rw [grid_eq]
    exact (Edit.admits_apply_exchange applies).behind spaced

theorem addressed_of_addLine_eq_ok (executed : addLine frame = .ok flow after) (operand : Text) :
    ∃ row rest,
      Instruction.address? ⟨.addLine, operand⟩ frame.program.grid frame.memory =
        some (⟨row, 0⟩, rest) ∧ Addressed ⟨row, 0⟩ rest after := by
  rcases bind_eq_ok_iff.mp executed with ⟨location, _, popped, continued⟩
  obtain ⟨address, rest, memory, read, rfl⟩ := popLocation_eq_ok popped
  rcases bind_eq_ok_iff.mp continued with ⟨_, _, edited, continued⟩
  obtain ⟨revision, revised, -, rfl⟩ := edit_eq_ok edited
  rcases bind_eq_ok_iff.mp continued with ⟨_, moved, moving, continued⟩
  -- The pointer may have been moved down with its row, and nothing else.
  have kept : moved.program = revision.program ∧ moved.memory = rest := by
    cases moving
    dsimp only
    split <;> exact ⟨rfl, rfl⟩
  obtain ⟨fits, rfl⟩ := pushing_eq_ok continued
  obtain ⟨nonneg, le_length, spelled⟩ := Program.addLine_eq_ok revised
  obtain ⟨_, program_eq⟩ := spelled _ rfl
  refine ⟨location.row + 1, rest, ?_, ?_, fits, ?_⟩
  · simp only [Instruction.address?, memory, read, Option.map_some]
  · rw [kept.2]
  · dsimp only
    rw [kept.1, program_eq]
    exact Edit.admits_apply_newRow ⟨nonneg, le_length⟩

/-- A word and a letter are deleted alike: their place stays one for letters, though it may
be the end of the row now. -/
theorem addressed_of_deleting [Cluster.Splitter] {length : Int}
    (executed : (do
      let _ ← edit fun program => program.replace location length []
      rebase location (-length) false
      pushLocation location
      return Flow.advance : Action Flow) frame = .ok flow after) :
    Addressed location frame.memory after := by
  rcases bind_eq_ok_iff.mp executed with ⟨_, _, edited, continued⟩
  obtain ⟨revision, revised, -, rfl⟩ := edit_eq_ok edited
  rcases bind_eq_ok_iff.mp continued with ⟨_, _, ⟨⟩, continued⟩
  obtain ⟨fits, rfl⟩ := pushing_eq_ok continued
  obtain ⟨line, _, lineAt, col_nonneg, col_le, _⟩ := Program.replace_eq_ok revised
  obtain ⟨_, deleted, accepted, _, _, applies, grid_eq⟩ :=
    Program.exists_exchange_of_replace lineAt col_nonneg col_le length []
  rw [revised] at accepted
  cases accepted
  refine ⟨rfl, fits, ?_⟩
  change revision.program.grid.Admits location
  rw [grid_eq]
  exact Edit.admits_apply_exchange applies

theorem addressed_of_deleteWord_eq_ok [Cluster.Splitter]
    (executed : deleteWord frame = .ok flow after) (operand : Text) :
    ∃ location rest,
      Instruction.address? ⟨.deleteWord, operand⟩ frame.program.grid frame.memory =
        some (location, rest) ∧ Addressed location rest after := by
  rcases bind_eq_ok_iff.mp executed with ⟨location, _, popped, continued⟩
  obtain ⟨address, rest, memory, read, rfl⟩ := popLocation_eq_ok popped
  rcases bind_eq_ok_iff.mp continued with ⟨grid, _, ⟨⟩, continued⟩
  exact ⟨location, rest, by simp only [Instruction.address?, memory, read, Option.map_some],
    addressed_of_deleting continued⟩

theorem addressed_of_deleteLetter_eq_ok [Cluster.Splitter]
    (executed : deleteLetter frame = .ok flow after) (operand : Text) :
    ∃ location rest,
      Instruction.address? ⟨.deleteLetter, operand⟩ frame.program.grid frame.memory =
        some (location, rest) ∧ Addressed location rest after := by
  rcases bind_eq_ok_iff.mp executed with ⟨location, _, popped, continued⟩
  obtain ⟨address, rest, memory, read, rfl⟩ := popLocation_eq_ok popped
  rcases bind_eq_ok_iff.mp continued with ⟨grid, _, ⟨⟩, continued⟩
  rcases bind_eq_ok_iff.mp continued with ⟨letter, _, required, continued⟩
  obtain ⟨_, rfl⟩ := require_eq_ok required
  exact ⟨location, rest, by simp only [Instruction.address?, memory, read, Option.map_some],
    addressed_of_deleting continued⟩

/-- What an instruction that pushes an address has done: it has pushed the address of the
place, or has looked for a word in vain. A place that was looked for, or begins a new row,
is one where a thread may be sent. -/
theorem addressed_of_execute_eq_ok [Cluster.Splitter] {instruction : Instruction}
    (pushes : instruction.opcode.pushesAddress = true)
    (executed : execute instruction frame = .ok flow after) :
    (instruction.opcode = .find ∧ frame.program.grid.findLead instruction.operand = none ∧
        after = frame) ∨
      ∃ location rest,
        instruction.address? frame.program.grid frame.memory = some (location, rest) ∧
        Addressed location rest after ∧
        (instruction.opcode = .find ∨ instruction.opcode = .addLine →
          isTarget after.program.grid location = true) := by
  rcases instruction with ⟨opcode, operand⟩
  cases opcode with
  | find =>
      rcases find_eq_ok executed with ⟨missing, same⟩ | ⟨location, found, program_eq, addressed⟩
      · exact .inl ⟨rfl, missing, same⟩
      · refine .inr ⟨location, frame.memory, ?_, addressed, fun _ => ?_⟩
        · simp only [Instruction.address?, found, Option.map_some]
        · rw [program_eq]
          exact isTarget_of_hasInk (Grid.hasInk_of_findLead_eq_some found)
  | appendWord =>
      obtain ⟨location, rest, address_eq, addressed⟩ :=
        addressed_of_appendWord_eq_ok executed operand
      exact .inr ⟨location, rest, address_eq, addressed, by simp⟩
  | addLine =>
      obtain ⟨row, rest, address_eq, addressed⟩ := addressed_of_addLine_eq_ok executed operand
      exact .inr ⟨⟨row, 0⟩, rest, address_eq, addressed, fun _ => addressed.admits.isTarget rfl⟩
  | deleteWord =>
      obtain ⟨location, rest, address_eq, addressed⟩ :=
        addressed_of_deleteWord_eq_ok executed operand
      exact .inr ⟨location, rest, address_eq, addressed, by simp⟩
  | deleteLetter =>
      obtain ⟨location, rest, address_eq, addressed⟩ :=
        addressed_of_deleteLetter_eq_ok executed operand
      exact .inr ⟨location, rest, address_eq, addressed, by simp⟩
  | _ => cases pushes

/-- Addresses that instructions push are usable. Whenever an instruction succeeds that
pushes the address of a place, what is on memory is read as the place that it has
computed, and in the grid that is left the row of the place exists and its column is
within the row or right behind it. So until the grid changes again, whoever has the
address can delete and append words and paste texts there, and can jump there when the
place was looked for or begins a new row. -/
theorem pushed_addresses_serve [Cluster.Splitter] {instruction : Instruction} {frame after : Frame}
    {flow : Flow} (pushes : instruction.opcode.pushesAddress = true)
    (executed : execute instruction frame = .ok flow after) :
    (instruction.opcode = .find ∧ frame.program.grid.findLead instruction.operand = none ∧
        after = frame) ∨
      ∃ location rest,
        instruction.address? frame.program.grid frame.memory = some (location, rest) ∧
        after.memory = location.text :: rest ∧ Location.decode location.text = .ok location ∧
        after.program.grid.Admits location ∧ Serves after.program.grid location ∧
        (instruction.opcode = .find ∨ instruction.opcode = .addLine →
          JumpsTo after.program.grid location) := by
  rcases addressed_of_execute_eq_ok pushes executed with
    missing | ⟨location, rest, address_eq, addressed, targeted⟩
  · exact .inl missing
  · have decoded : Location.decode location.text = .ok location := by
      rw [Location.decode, Location.read?_text addressed.fits]
    exact .inr ⟨location, rest, address_eq, addressed.memory_eq, decoded, addressed.admits,
      serves_of_admits addressed.admits, fun kind => jumpsTo_of_isTarget (targeted kind)⟩

/-- Here the appended word is a lone mark, which goes into the letter of the space, so the
address is that of the end of the row. Still a word can be deleted and a text pasted
there. -/
theorem pushed_addresses_serve_row_end :
    let frame : Frame := ⟨.load "p".toList false, ⟨0, 0⟩, ["\u0301".toList, "1:1".toList], []⟩
    ∃ after, execute ⟨.appendWord, []⟩ frame = .ok .advance after ∧
      after.program.grid = [[['p'], [' ', '\u0301']]] ∧ after.memory = ["1:3".toList] ∧
      Location.decode "1:3".toList = .ok ⟨0, 2⟩ ∧ after.program.grid.Admits ⟨0, 2⟩ ∧
      Serves after.program.grid ⟨0, 2⟩ := by
  intro frame
  have executed : execute ⟨.appendWord, []⟩ frame =
      .ok .advance (leftBy (execute ⟨.appendWord, []⟩ frame)) := by
    decide +kernel
  have address_eq : Instruction.address? ⟨.appendWord, []⟩ frame.program.grid frame.memory =
      some (⟨0, 2⟩, []) := by
    decide +kernel
  rcases pushed_addresses_serve rfl executed with
    ⟨other, _⟩ | ⟨location, rest, pushed, memory_eq, decoded, admits, serves, _⟩
  · cases other
  · rw [address_eq] at pushed
    cases pushed
    exact ⟨_, executed, by decide +kernel, memory_eq, decoded, admits, serves⟩

end Frame

end Palimpsest
