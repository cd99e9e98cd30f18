import Palimpsest.Proofs.Cluster.Boundary
import Palimpsest.Proofs.Thread.Saving

/-!
# Copied letters

Every letter of a program is a single cluster, and it is one without the letters
around it: loading and replacing put in clusters of a text, and a cluster that is cut
out of its text is not cut any further. So a letter that is read and pasted elsewhere
is put in as one letter, equal to the one that was read, and is read there again.
-/

namespace Palimpsest

/-! ## Grids of clusters -/

/-- Every letter is a single cluster. -/
def Grid.Whole (grid : Grid) : Prop :=
  ∀ row ∈ grid, ∀ letter ∈ row, Cluster.split letter = [letter]

namespace Grid

theorem whole_rows_load (text : Text) : Whole (Buffer.load text).rows := by
  intro row member letter inside
  exact Cluster.split_of_mem_split (mem_split_of_mem_rows_load member inside).1

theorem Whole.of_letter?_eq_some {grid : Grid} (whole : grid.Whole) {location : Location}
    {letter : Letter} (found : grid.letter? location = some letter) :
    Cluster.split letter = [letter] := by
  rcases letter?_eq_some_iff.mp found with ⟨row, rowAt, _, letterAt⟩
  exact whole row (List.mem_of_getElem? (row?_eq_some_iff.mp rowAt).2) letter
    (List.mem_of_getElem? letterAt)

end Grid

/-- Whatever text a request puts in, it puts in clusters. -/
theorem Program.whole_of_revise_eq_ok {program : Program} (whole : program.grid.Whole)
    {request : Request} {revision : Revision} (accepted : request.revise program = .ok revision) :
    revision.program.grid.Whole := by
  obtain ⟨edit, edit_eq, _, grid_eq, _⟩ := Request.edit?_of_revise_eq_ok accepted
  rw [grid_eq]
  intro row member letter inside
  rcases Edit.mem_of_mem_apply member inside with ⟨line, standing, old⟩ | ⟨_, _, _, rfl, new⟩
  · exact whole line standing letter old
  · obtain ⟨_, text, _, rfl⟩ := Request.exists_text_of_edit?_eq edit_eq
    exact Cluster.split_of_mem_split new

theorem Program.whole_afterAll (text : Text) (immediate : Bool) (requests : List Request) :
    ((Program.load text immediate).afterAll requests).grid.Whole := by
  apply afterAll_induction (motive := fun program => program.grid.Whole)
  · exact Grid.whole_rows_load text
  · exact fun whole accepted => whole_of_revise_eq_ok whole accepted

/-! ## Instructions on places that are there -/

namespace Frame

variable {frame : Frame} {address : Text} {rest : List Text} {place : Location}

theorem popLocation_of_cons (memory : frame.memory = address :: rest)
    (read : Location.read? address = some place) :
    popLocation frame = .ok place { frame with memory := rest } := by
  rw [popLocation, bind_of_ok (pop_of_cons memory), Location.decode, read, require_ok]

/-- Where there is a letter, it is pushed. -/
theorem readLetter_of_letter?_eq_some (memory : frame.memory = address :: rest)
    (read : Location.read? address = some place) {letter : Letter}
    (found : frame.program.grid.letter? place = some letter) :
    readLetter frame = .ok .advance { frame with memory := letter :: rest } := by
  have letterAt : frame.program.grid.letterAt place = .ok letter := by
    rw [Grid.letterAt, found]
  apply bind_eq_ok_iff.mpr
  refine ⟨place, _, popLocation_of_cons memory read, ?_⟩
  apply bind_eq_ok_iff.mpr
  refine ⟨frame.program.grid, _, rfl, ?_⟩
  rw [letterAt]
  rfl

section

variable [Cluster.Splitter]

/-- Letters that are there can be replaced by an instruction. -/
theorem exists_edit_of_applies {deleted : Nat} {text : Text}
    (applies : (Edit.exchange place deleted (Cluster.split text)).Applies frame.program.grid) :
    ∃ inserted after,
      edit (fun program => program.replace place deleted text) frame = .ok inserted after ∧
      after.memory = frame.memory ∧
      after.program.grid =
        (Edit.exchange place deleted (Cluster.split text)).apply frame.program.grid := by
  obtain ⟨revision, revised, grid_eq⟩ := Program.exists_replace_of_applies applies
  exact ⟨_, _, edit_of_ok revised, rfl, grid_eq⟩

/-- A text is pasted wherever letters can be put in. -/
theorem exists_paste_of_applies {text : Text} (memory : frame.memory = text :: address :: rest)
    (read : Location.read? address = some place)
    (applies : (Edit.exchange place 0 (Cluster.split text)).Applies frame.program.grid) :
    ∃ after, paste frame = .ok .advance after ∧ after.memory = rest ∧
      after.program.grid =
        (Edit.exchange place 0 (Cluster.split text)).apply frame.program.grid := by
  let located : Frame := { frame with memory := rest }
  have there : (Edit.exchange place 0 (Cluster.split text)).Applies located.program.grid := applies
  obtain ⟨inserted, edited, edit_eq, memory_eq, grid_eq⟩ := exists_edit_of_applies there
  refine ⟨{ edited with pointer := rebasedPointer edited.pointer place inserted true }, ?_,
    memory_eq, grid_eq⟩
  apply bind_eq_ok_iff.mpr
  refine ⟨text, _, pop_of_cons memory, ?_⟩
  apply bind_eq_ok_iff.mpr
  refine ⟨place, located, popLocation_of_cons rfl read, ?_⟩
  exact bind_eq_ok_iff.mpr ⟨inserted, edited, edit_eq, rfl⟩

/-- Whenever an address of the place is on memory, reading a letter there pushes the
given one. -/
def ReadsLetter (grid : Grid) (place : Location) (letter : Letter) : Prop :=
  ∀ (frame : Frame) (address operand : Text) (rest : List Text), frame.program.grid = grid →
    frame.memory = address :: rest → Location.read? address = some place →
    execute ⟨.readLetter, operand⟩ frame = .ok .advance { frame with memory := letter :: rest }

theorem readsLetter_of_letter?_eq_some {grid : Grid} {letter : Letter}
    (found : grid.letter? place = some letter) : ReadsLetter grid place letter := by
  rintro frame address operand rest rfl memory read
  exact readLetter_of_letter?_eq_some memory read found

/-- A letter that has been put in is read. -/
theorem readsLetter_exchange {grid : Grid} {letter : Letter}
    (applies : (Edit.exchange place 0 [letter]).Applies grid) :
    ReadsLetter ((Edit.exchange place 0 [letter]).apply grid) place letter := by
  apply readsLetter_of_letter?_eq_some
  rw [Grid.letter?, Edit.lettersAt_exchange applies]
  rfl

end

/-- Reading a letter and pasting it copies exactly one letter. In a program that has come
about by any requests, every letter is a single cluster: wherever it might be parted, a
rule keeps its two sides together, and the rule sees nothing but the letter. What reading
pushes is therefore put in as a single cell wherever it is pasted, in this program or
another, between the letters that stand there, and is read there again. -/
theorem copying_puts_in_one_letter (text : Text) (immediate : Bool) (requests : List Request) :
    let program := (Program.load text immediate).afterAll requests
    (∀ row ∈ program.grid, ∀ letter ∈ row, Cluster.split letter = [letter] ∧
      ∀ first c second, letter = first ++ c :: second → first ≠ [] →
        Cluster.Coheres (Cluster.context first) (Cluster.category c)) ∧
    ∀ (source : Location) (letter : Letter), program.grid.letter? source = some letter →
      ReadsLetter program.grid source letter ∧
      ∀ (frame : Frame) (address operand : Text) (rest : List Text) (place : Location) (line : Row),
        frame.memory = letter :: address :: rest → Location.read? address = some place →
        frame.program.grid.row? place.row = some line → 0 ≤ place.col →
        place.col ≤ line.length →
        ∃ after, execute ⟨.paste, operand⟩ frame = .ok .advance after ∧ after.memory = rest ∧
          after.program.grid.row? place.row =
            some (line.take place.col.toNat ++ letter :: line.drop place.col.toNat) ∧
          (∀ row, row ≠ place.row →
            after.program.grid.row? row = frame.program.grid.row? row) ∧
          ReadsLetter after.program.grid place letter := by
  intro program
  have whole : program.grid.Whole := Program.whole_afterAll text immediate requests
  constructor
  · intro row member letter inside
    have single := whole row member letter inside
    have something : letter ≠ [] := by
      rintro rfl
      cases single
    exact ⟨single, (Cluster.split_eq_singleton_iff something).mp single⟩
  · intro source letter found
    refine ⟨readsLetter_of_letter?_eq_some found, ?_⟩
    intro frame address operand rest place line memory read lineAt col_nonneg col_le
    have single := whole.of_letter?_eq_some found
    have applies : (Edit.exchange place 0 (Cluster.split letter)).Applies frame.program.grid :=
      ⟨line, lineAt, col_nonneg, by omega⟩
    obtain ⟨after, pasted, memory_eq, grid_eq⟩ := exists_paste_of_applies memory read applies
    rw [single] at applies grid_eq
    refine ⟨after, pasted, memory_eq, ?_, ?_, ?_⟩
    · rw [grid_eq, Edit.row?_apply_exchange_self 0 [letter] lineAt]
      simp [Grid.exchange]
    · intro row other
      rw [grid_eq, Edit.row?_apply_exchange_of_ne (Grid.row?_eq_some_iff.mp lineAt).1 other.symm]
    · rw [grid_eq]
      exact readsLetter_exchange applies

/-- Here three regional indicators have been put in. The first two make a flag, and the
third is a letter of its own because they do. Pasted before the flag it is still one
letter, and the flag stays whole behind it. -/
theorem copying_puts_in_one_letter_flag :
    let program := (Program.load ['x'] false).afterAll [.replace ⟨0, 0⟩ 0 ['🇦', '🇩', '🇪']]
    let frame : Frame := ⟨program, ⟨0, 0⟩, [['🇪'], "1:1".toList], []⟩
    program.grid = [[['🇦', '🇩'], ['🇪'], ['x']]] ∧ program.grid.letter? ⟨0, 1⟩ = some ['🇪'] ∧
      ∃ after, execute ⟨.paste, []⟩ frame = .ok .advance after ∧ after.memory = [] ∧
        after.program.grid.row? 0 = some [['🇪'], ['🇦', '🇩'], ['🇪'], ['x']] ∧
        ReadsLetter after.program.grid ⟨0, 0⟩ ['🇪'] := by
  intro program frame
  have grid_eq : program.grid = [[['🇦', '🇩'], ['🇪'], ['x']]] := by decide +kernel
  have found : program.grid.letter? ⟨0, 1⟩ = some ['🇪'] := by decide +kernel
  have read : Location.read? "1:1".toList = some ⟨0, 0⟩ := by decide +kernel
  have lineAt : program.grid.row? 0 = some [['🇦', '🇩'], ['🇪'], ['x']] := by decide +kernel
  obtain ⟨_, copied⟩ :=
    copying_puts_in_one_letter ['x'] false [.replace ⟨0, 0⟩ 0 ['🇦', '🇩', '🇪']]
  obtain ⟨_, pasted⟩ := copied ⟨0, 1⟩ ['🇪'] found
  obtain ⟨after, executed, memory_eq, row_eq, _, reads⟩ :=
    pasted frame "1:1".toList [] [] ⟨0, 0⟩ _ rfl read lineAt (by decide) (by decide)
  exact ⟨grid_eq, found, after, executed, memory_eq, row_eq, reads⟩

end Frame

end Palimpsest
