import Palimpsest.Proofs.Grid.Words
import Palimpsest.Proofs.Thread.Editing
import Palimpsest.Proofs.Thread.Step

/-!
# Rebasing

A thread that edits the grid goes on behind its own word, wherever the edit has
moved that word to. The pointer is rebased by counting letters, and an edit
displaces letters by splicing rows; the two agree whenever the edit spares the
executing word. The one place where they could differ is a pure insertion right
at the pointer, and only a paste can make one there.
-/

namespace Palimpsest

/-- A location moved along with another one: by as many rows, and by as many
columns where both stand in one row. -/
def Location.movedWith (location origin target : Location) : Location :=
  location.shift (target.row - origin.row)
    (if location.row = origin.row then target.col - origin.col else 0)

/-! ## Insertions at the pointer -/

theorem Request.edit?_replace_eq_some {grid : Grid} {location place : Location} {length : Int}
    {text : Text} {deleted : Nat} {letters : List Letter}
    (edit_eq : (Request.replace location length text).edit? grid =
      some (.exchange place deleted letters)) :
    ∃ line, grid.row? location.row = some line ∧ location = place ∧
      deleted = min length.toNat (line.length - location.col.toNat) ∧
      letters = Cluster.split text := by
  unfold Request.edit? at edit_eq
  cases found : grid.row? location.row with
  | none => simp [found] at edit_eq
  | some line =>
      simp only [found] at edit_eq
      split at edit_eq
      · injection edit_eq with edit_eq
        injection edit_eq with place_eq deleted_eq letters_eq
        exact ⟨line, rfl, place_eq, deleted_eq.symm, letters_eq.symm⟩
      · cases edit_eq

namespace Instruction

/-- Nothing but a paste puts letters in right before a letter of a word. -/
theorem eq_paste_of_insertion_at_ink {instruction : Instruction} {grid : Grid}
    {memory : List Text} {place : Location} {letters : List Letter} (ink : grid.HasInk place)
    (edit_eq : instruction.edit? grid memory = some (.exchange place 0 letters)) :
    instruction.opcode = .paste ∨ letters = [] := by
  rcases instruction with ⟨opcode, operand⟩
  rcases Option.bind_eq_some_iff.mp edit_eq with ⟨request, request_eq, edit_eq⟩
  cases opcode with
  | save =>
      cases memory with
      | nil => cases request_eq
      | cons value rest =>
          rcases Option.map_eq_some_iff.mp request_eq with ⟨location, found, rfl⟩
          obtain ⟨line, lineAt, rfl, deleted_eq, _⟩ := Request.edit?_replace_eq_some edit_eq
          -- The word that is replaced there has letters, so some are deleted.
          have positive := ink.readWord_length_pos
          have bounded := grid.length_readWord_le location
          rcases ink with ⟨letter, letterAt, _⟩
          rcases Grid.letter?_eq_some_iff.mp letterAt with ⟨_, _, col_nonneg, _⟩
          rw [Grid.lettersAt_of_row?_eq_some lineAt col_nonneg, List.length_drop] at bounded
          omega
  | appendWord =>
      rcases memory with _ | ⟨word, _ | ⟨address, rest⟩⟩
      · cases request_eq
      · cases request_eq
      · rcases Option.map_eq_some_iff.mp request_eq with ⟨location, _, rfl⟩
        obtain ⟨_, _, rfl, _⟩ := Request.edit?_replace_eq_some edit_eq
        exact absurd ink (grid.not_hasInk_readWord_end location)
  | addLine =>
      cases memory with
      | nil => cases request_eq
      | cons address rest =>
          rcases Option.map_eq_some_iff.mp request_eq with ⟨location, _, rfl⟩
          simp only [Request.edit?] at edit_eq
          split at edit_eq <;> cases edit_eq
  | deleteWord =>
      cases memory with
      | nil => cases request_eq
      | cons address rest =>
          rcases Option.map_eq_some_iff.mp request_eq with ⟨location, _, rfl⟩
          obtain ⟨_, _, _, _, letters_eq⟩ := Request.edit?_replace_eq_some edit_eq
          exact .inr (letters_eq.trans Cluster.split_nil)
  | deleteLetter =>
      cases memory with
      | nil => cases request_eq
      | cons address rest =>
          rcases Option.map_eq_some_iff.mp request_eq with ⟨location, _, rfl⟩
          obtain ⟨_, _, _, _, letters_eq⟩ := Request.edit?_replace_eq_some edit_eq
          exact .inr (letters_eq.trans Cluster.split_nil)
  | paste => exact .inl rfl
  | _ => cases request_eq

end Instruction

/-- The pointer is rebased to where the edit has displaced its letter. -/
theorem Frame.rebasedBy_eq_displace {edit : Edit} {opcode : Opcode} {pointer : Location}
    {length : Nat} (positive : 0 < length) (spares : edit.Spares pointer length)
    (insertion : ∀ letters, edit = .exchange pointer 0 letters → opcode = .paste ∨ letters = []) :
    rebasedBy edit opcode pointer = edit.displace pointer := by
  cases edit with
  | newRow before => rfl
  | exchange place deleted letters =>
      simp only [rebasedBy, rebasedPointer, Edit.displace]
      by_cases same : place.row = pointer.row
      · have apart := (Edit.spares_exchange_iff positive).mp spares same
        rcases Int.lt_trichotomy place.col pointer.col with before | equal | behind
        · have ends : place.col + deleted ≤ pointer.col := by omega
          rw [if_pos ⟨same, .inl before⟩, if_pos ⟨same, ends⟩]
        · have nothing : deleted = 0 := by omega
          have place_eq : place = pointer := by
            rcases place with ⟨placeRow, placeCol⟩
            rcases pointer with ⟨pointerRow, pointerCol⟩
            rw [show placeRow = pointerRow from same, show placeCol = pointerCol from equal]
          subst nothing place_eq
          have ends : place.col + ((0 : Nat) : Int) ≤ place.col := by omega
          rw [if_pos (And.intro rfl ends)]
          rcases insertion letters rfl with rfl | rfl
          · rw [if_pos ⟨rfl, .inr ⟨rfl, rfl⟩⟩]
          · split <;> simp [Location.right, Location.shift]
        · rw [if_neg (by omega), if_neg (by omega)]
      · rw [if_neg (by simp [same]), if_neg (by simp [same])]

/-! ## What follows the word -/

namespace Edit

variable {edit : Edit} {grid : Grid} {pointer : Location}

/-- An edit before a location moves everything behind it along with it. -/
theorem displace_eq_movedWith {location : Location} (precedes : edit.Precedes pointer)
    (leads : pointer.Leads location) :
    edit.displace location = location.movedWith pointer (edit.displace pointer) := by
  cases edit with
  | exchange place deleted letters =>
      rcases precedes with above | ⟨same, ends⟩
      · have other : place.row ≠ pointer.row := by omega
        have further : place.row ≠ location.row := by
          rcases leads with lower | ⟨level, _⟩ <;> omega
        simp [displace, other, further, Location.movedWith, Location.shift]
      · have moved : (exchange place deleted letters).displace pointer =
            pointer.right (letters.length - deleted) :=
          if_pos ⟨same, ends⟩
        rw [moved, displace]
        rcases leads with lower | ⟨level, behind⟩
        · have further : place.row ≠ location.row := by omega
          have apart : location.row ≠ pointer.row := by omega
          simp [further, apart, Location.movedWith, Location.right, Location.shift]
        · have reached : place.row = location.row ∧ place.col + deleted ≤ location.col := by
            omega
          rw [if_pos reached, Location.movedWith, if_pos level.symm]
          simp only [Location.right, Location.shift, Location.mk.injEq]
          omega
  | newRow before =>
      have here : before ≤ pointer.row := precedes
      have there : before ≤ location.row := by
        rcases leads with lower | ⟨level, _⟩ <;> omega
      rw [displace, displace, if_pos there, if_pos here]
      simp only [Location.movedWith, Location.shift, Int.add_zero, Int.sub_self, ite_self,
        Location.mk.injEq, and_true]
      omega

/-- Behind an edit that lies before a word, the successor of the word is the old
one, moved along, and it reads the same. -/
theorem successor_eq (applies : edit.Applies grid) (precedes : edit.Precedes pointer)
    (row_nonneg : 0 ≤ pointer.row) (col_nonneg : 0 ≤ pointer.col) (length : Nat) :
    Grid.nextWord (edit.apply grid) ((edit.displace pointer).right length) =
        (grid.nextWord (pointer.right length)).map
          (fun successor => successor.movedWith pointer (edit.displace pointer)) ∧
      (Grid.nextWord (edit.apply grid) ((edit.displace pointer).right length)).map
          (Grid.readWord (edit.apply grid)) =
        (grid.nextWord (pointer.right length)).map grid.readWord := by
  have behind : pointer.Leads (pointer.right length) := by
    right
    constructor <;> simp only [Location.right, Location.shift_row, Location.shift_col] <;> omega
  rw [← displace_right precedes, nextWord_displace applies (precedes.of_leads behind)]
  cases next : grid.nextWord (pointer.right length) with
  | none => exact ⟨rfl, rfl⟩
  | some successor =>
      have further : (pointer.right length).Leads successor :=
        Grid.leads_of_nextWord_eq_some (by simpa [Location.right] using row_nonneg)
          (by simp only [Location.right, Location.shift_col]; omega) next
      have leads : pointer.Leads successor := by
        simp only [Location.Leads, Location.right, Location.shift_row, Location.shift_col]
          at further ⊢
        omega
      constructor
      · rw [Option.map_some, Option.map_some, displace_eq_movedWith precedes leads]
      · rw [Option.map_some, Option.map_some, Option.map_some,
          readWord_displace applies (precedes.of_leads leads)]

end Edit

namespace Scene

variable {scene next : Scene} {pointer : Location} {instruction : Instruction}

/-- The word of an instruction is not empty. -/
theorem hasInk_of_decode {grid : Grid}
    (decoded : Instruction.decode? (grid.readWord pointer).text = some instruction) :
    grid.HasInk pointer := by
  apply Grid.hasInk_of_readWord_text_ne_nil
  intro empty
  have nothing : Instruction.decode? [] = none := by decide
  rw [empty, nothing] at decoded
  contradiction

/-- A thread steps over the word of an editing instruction where the edit has
left it. -/
theorem step_eq_ok_of_edits (running : scene.thread.pointer = some pointer)
    (decoded : Instruction.decode? (scene.program.grid.readWord pointer).text = some instruction)
    (edits : instruction.opcode.edits = true) (stepped : step scene = .ok () next) :
    ∃ after, Frame.Edited instruction.opcode (scene.frame pointer) after
        (instruction.edit? scene.program.grid scene.thread.memory) ∧
      next.program = after.program ∧
      next.thread.pointer = next.program.grid.nextWord
        (after.pointer.right (scene.program.grid.readWord pointer).length) := by
  obtain ⟨target, frame, performed, thread_eq, program_eq⟩ := step_eq_ok running stepped
  rcases bind_eq_ok_iff.mp performed with ⟨flow, middle, executed, continued⟩
  simp only [Frame.executeWord, decoded] at executed
  obtain ⟨rfl, edited⟩ := Frame.execute_eq_ok_of_edits edits executed
  rcases bind_eq_ok_iff.mp continued with ⟨_, _, ⟨⟩, continued⟩
  injection continued with target_eq frame_eq
  subst frame_eq
  refine ⟨middle, edited, program_eq, ?_⟩
  rw [thread_eq, program_eq, target_eq]

/-- An edit that spares the word of its own instruction moves the thread with
it. Where the instruction asks for no edit, the thread goes on at the old
successor. Otherwise the grid is the edited one, the letters of the word stand
unchanged where the edit has displaced the pointer to, and the thread goes on at
the next word behind them. When the whole edit lies before the word, that next
word is the old successor: it has moved by as many rows as the pointer, and by
as many columns where it stands in the row of the pointer, it reads the same,
and there is one exactly if there was one. -/
theorem step_continues_behind_own_word (running : scene.thread.pointer = some pointer)
    (decoded : Instruction.decode? (scene.program.grid.readWord pointer).text = some instruction)
    (edits : instruction.opcode.edits = true) (stepped : step scene = .ok () next) :
    (instruction.edit? scene.program.grid scene.thread.memory = none →
      next.program = scene.program ∧
        next.thread.pointer = scene.program.grid.nextWord
          (pointer.right (scene.program.grid.readWord pointer).length)) ∧
    ∀ edit, instruction.edit? scene.program.grid scene.thread.memory = some edit →
      edit.Spares pointer (scene.program.grid.readWord pointer).length →
      next.program.grid = edit.apply scene.program.grid ∧
      (next.program.grid.lettersAt (edit.displace pointer)).take
          (scene.program.grid.readWord pointer).length =
        (scene.program.grid.readWord pointer).letters ∧
      next.thread.pointer = next.program.grid.nextWord
        ((edit.displace pointer).right (scene.program.grid.readWord pointer).length) ∧
      (edit.Precedes pointer →
        next.thread.pointer =
            (scene.program.grid.nextWord
              (pointer.right (scene.program.grid.readWord pointer).length)).map
                (fun successor => successor.movedWith pointer (edit.displace pointer)) ∧
          next.thread.pointer.map next.program.grid.readWord =
            (scene.program.grid.nextWord
              (pointer.right (scene.program.grid.readWord pointer).length)).map
                scene.program.grid.readWord ∧
          (next.thread.pointer = none ↔
            scene.program.grid.nextWord
              (pointer.right (scene.program.grid.readWord pointer).length) = none)) := by
  have ink := hasInk_of_decode decoded
  have positive := ink.readWord_length_pos
  have ⟨row_nonneg, col_nonneg⟩ := ink.nonneg
  obtain ⟨after, edited, program_eq, pointer_eq⟩ :=
    step_eq_ok_of_edits running decoded edits stepped
  constructor
  · intro edit_eq
    rw [edit_eq] at edited
    rcases edited with ⟨unchanged, stays⟩
    have stays : after.pointer = pointer := stays
    have unchanged : next.program = scene.program := program_eq.trans unchanged
    rw [stays, unchanged] at pointer_eq
    exact ⟨unchanged, pointer_eq⟩
  · intro edit edit_eq spares
    rw [edit_eq] at edited
    rcases edited with ⟨applies, grid_eq, rebased⟩
    have applies : edit.Applies scene.program.grid := applies
    have grid_eq : next.program.grid = edit.apply scene.program.grid := by
      rw [program_eq]
      exact grid_eq
    have rebased : after.pointer = edit.displace pointer := by
      rw [rebased]
      apply Frame.rebasedBy_eq_displace positive spares
      rintro letters rfl
      exact Instruction.eq_paste_of_insertion_at_ink ink edit_eq
    rw [rebased, grid_eq] at pointer_eq
    rw [grid_eq, pointer_eq]
    refine ⟨rfl, ?_, rfl, ?_⟩
    · rw [Edit.take_lettersAt_displace positive col_nonneg applies spares]
      exact (List.prefix_iff_eq_take.mp (List.takeWhile_prefix Grid.isInk)).symm
    · intro precedes
      obtain ⟨successor_eq, word_eq⟩ := Edit.successor_eq applies precedes row_nonneg col_nonneg
        (scene.program.grid.readWord pointer).length
      refine ⟨successor_eq, word_eq, ?_⟩
      rw [successor_eq, Option.map_eq_none_iff]

theorem step_continues_behind_own_word_paste :
    ∃ next, step (alone "ab n q" ⟨0, 3⟩ ["xy", "1:1"]) = .ok () next ∧
      next.thread.pointer = some ⟨0, 7⟩ ∧
      next.thread.pointer = next.program.grid.nextWord ⟨0, 6⟩ := by
  have running : (alone "ab n q" ⟨0, 3⟩ ["xy", "1:1"]).thread.pointer = some ⟨0, 3⟩ := rfl
  have decoded : Instruction.decode?
      ((alone "ab n q" ⟨0, 3⟩ ["xy", "1:1"]).program.grid.readWord ⟨0, 3⟩).text =
        some ⟨.paste, []⟩ := by
    decide +kernel
  have stepped : step (alone "ab n q" ⟨0, 3⟩ ["xy", "1:1"]) =
      .ok () (leftBy (step (alone "ab n q" ⟨0, 3⟩ ["xy", "1:1"]))) := by
    decide +kernel
  have pasted : Instruction.edit? ⟨.paste, []⟩
      (alone "ab n q" ⟨0, 3⟩ ["xy", "1:1"]).program.grid
      (alone "ab n q" ⟨0, 3⟩ ["xy", "1:1"]).thread.memory =
        some (.exchange ⟨0, 0⟩ 0 [['x'], ['y']]) := by
    decide +kernel
  have length_eq :
      ((alone "ab n q" ⟨0, 3⟩ ["xy", "1:1"]).program.grid.readWord ⟨0, 3⟩).length = 1 := by
    decide +kernel
  have spares : (Edit.exchange ⟨0, 0⟩ 0 [['x'], ['y']]).Spares ⟨0, 3⟩ 1 :=
    (Edit.spares_exchange_iff (by decide)).mpr fun _ => .inl (by decide)
  have result := (step_continues_behind_own_word running decoded rfl stepped).2 _ pasted
    (length_eq ▸ spares)
  rw [length_eq] at result
  exact ⟨_, stepped, by decide +kernel, result.2.2.1⟩

/-- The successor need not move by as many columns as the pointer: in a lower
row it stays where it is. -/
theorem successor_in_lower_row_stays :
    ∃ next edit, step (alone "ab n\nq" ⟨0, 3⟩ ["xy", "1:1"]) = .ok () next ∧
      Instruction.edit? ⟨.paste, []⟩ (alone "ab n\nq" ⟨0, 3⟩ ["xy", "1:1"]).program.grid
        (alone "ab n\nq" ⟨0, 3⟩ ["xy", "1:1"]).thread.memory = some edit ∧
      edit.Spares ⟨0, 3⟩ 1 ∧ edit.Precedes ⟨0, 3⟩ ∧
      edit.displace ⟨0, 3⟩ = (⟨0, 3⟩ : Location).shift 0 2 ∧
      (alone "ab n\nq" ⟨0, 3⟩ ["xy", "1:1"]).program.grid.nextWord
        ((⟨0, 3⟩ : Location).right 1) = some ⟨1, 0⟩ ∧
      next.thread.pointer ≠ some ((⟨1, 0⟩ : Location).shift 0 2) := by
  refine ⟨leftBy (step (alone "ab n\nq" ⟨0, 3⟩ ["xy", "1:1"])),
    .exchange ⟨0, 0⟩ 0 [['x'], ['y']], by decide +kernel, by decide +kernel, ?_, ?_,
    by decide, by decide +kernel, by decide +kernel⟩
  · exact (Edit.spares_exchange_iff (by decide)).mpr fun _ => .inl (by decide)
  · exact .inr (by decide)

end Scene

end Palimpsest
