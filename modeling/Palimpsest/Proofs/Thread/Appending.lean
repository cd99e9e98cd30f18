import Palimpsest.Proofs.Cluster.Boundary
import Palimpsest.Proofs.Location.Code
import Palimpsest.Proofs.Thread.Saving

/-!
# Appending a word

A word is appended together with a space before it, and the two are made into letters
as one text. Marks attach to whatever stands before them, so the marks that the word
begins with go into the letter of the space. The letter behind is where the word is
said to stand: there the word is read without these marks, and it is read as it was
given exactly when there are none.
-/

namespace Palimpsest

/-! ## Clusters behind a space -/

namespace Cluster

/-- Whether a code point is a mark that attaches to whatever stands before it. -/
def isMark (c : Char) : Bool :=
  (category c).attaches

namespace Tail

/-- The open cluster is a space, perhaps with marks. -/
def Spaced (tail : Tail) : Prop :=
  tail.fusion = .idle ∧
    (tail.last = .other ∨ tail.last = .extend ∨ tail.last = .joiner ∨ tail.last = .spacingMark)

variable {tail : Tail}

theorem spaced_start : (start (category ' ')).Spaced :=
  ⟨by decide, .inl (by decide)⟩

/-- Only marks go on with a space. -/
theorem Spaced.joins (spaced : tail.Spaced) (next : Category) :
    tail.joins next = next.attaches := by
  rcases tail with ⟨last, fusion, pairOpen⟩
  rcases spaced with ⟨rfl, rfl | rfl | rfl | rfl⟩ <;> cases next <;> rfl

theorem Spaced.extend (spaced : tail.Spaced) {next : Category} (attaches : next.attaches = true) :
    (tail.extend next).Spaced := by
  rcases spaced with ⟨idle, _⟩
  cases next with
  | extend => exact ⟨by simp [Tail.extend, idle], .inr (.inl rfl)⟩
  | joiner => exact ⟨by simp [Tail.extend, idle], .inr (.inr (.inl rfl))⟩
  | spacingMark => exact ⟨rfl, .inr (.inr (.inr rfl))⟩
  | _ => cases attaches

end Tail

/-- A space takes the marks that follow it into its cluster, and nothing else. -/
theorem splitFrom_of_spaced {tail : Tail} (spaced : tail.Spaced) (opened text : Text) :
    splitFrom tail opened text =
      (opened.reverse ++ text.takeWhile isMark) :: split (text.dropWhile isMark) := by
  induction text generalizing tail opened with
  | nil => simp [splitFrom]
  | cons c rest inductionHypothesis =>
      rw [splitFrom, spaced.joins]
      cases mark : (category c).attaches with
      | true =>
          have taken : isMark c = true := mark
          rw [if_pos rfl, inductionHypothesis (spaced.extend mark),
            List.takeWhile_cons_of_pos taken, List.dropWhile_cons_of_pos taken,
            List.reverse_cons, List.append_assoc]
          rfl
      | false =>
          have left : ¬ isMark c = true := by simp [isMark, mark]
          rw [if_neg Bool.false_ne_true, List.takeWhile_cons_of_neg left,
            List.dropWhile_cons_of_neg left, List.append_nil]
          rfl

theorem split_space_cons (text : Text) :
    split (' ' :: text) =
      (' ' :: text.takeWhile isMark) :: split (text.dropWhile isMark) :=
  splitFrom_of_spaced Tail.spaced_start [' '] text

end Cluster

/-! ## Letters put in -/

namespace Edit

variable {grid : Grid} {place : Location} {letters : List Letter}

/-- Letters that are put in stand before what stood there. -/
theorem lettersAt_insert (applies : (exchange place 0 letters).Applies grid) :
    Grid.lettersAt ((exchange place 0 letters).apply grid) place =
      letters ++ grid.lettersAt place := by
  rw [lettersAt_exchange applies, List.drop_zero]

/-- Letters that have been put in are there to be taken out. -/
theorem applies_delete_insert (applies : (exchange place 0 letters).Applies grid) :
    (exchange place letters.length []).Applies ((exchange place 0 letters).apply grid) :=
  applies_exchange_again applies []

/-- Taking them out leaves the grid as it was. -/
theorem apply_delete_insert (applies : (exchange place 0 letters).Applies grid) :
    (exchange place letters.length []).apply ((exchange place 0 letters).apply grid) = grid := by
  have nothing : (exchange place 0 []).Applies grid := applies
  rw [apply_exchange_again applies, apply_exchange_self nothing (List.take_zero).symm]

end Edit

namespace Grid

variable {grid : Grid} {place : Location} {word : Text}

/-- Nothing is read where no word has a letter. -/
theorem takeWhile_lettersAt_of_not_hasInk (blank : ¬ grid.HasInk place) :
    (grid.lettersAt place).takeWhile isInk = [] := by
  by_contra something
  exact blank (hasInk_of_readWord_length_pos (List.length_pos_iff.mpr something))

section Appended

variable (applies : (Edit.exchange place 0 (Cluster.split (' ' :: word))).Applies grid)
include applies

/-- Where a word has been appended, the first new letter is the space with the marks
that the word begins with. -/
theorem letter?_appended :
    Grid.letter? ((Edit.exchange place 0 (Cluster.split (' ' :: word))).apply grid) place =
      some (' ' :: word.takeWhile Cluster.isMark) := by
  rw [letter?, Edit.lettersAt_insert applies, Cluster.split_space_cons]
  rfl

/-- It belongs to no word. -/
theorem not_hasInk_appended :
    ¬ Grid.HasInk ((Edit.exchange place 0 (Cluster.split (' ' :: word))).apply grid) place := by
  rintro ⟨letter, found, inked⟩
  rw [letter?_appended applies] at found
  cases found
  exact absurd inked Bool.false_ne_true

/-- From the second one on the rest of the word is read. -/
theorem readWord_appended (blank : ¬ grid.HasInk place) (plain : Text.hasBlank word = false) :
    (Grid.readWord ((Edit.exchange place 0 (Cluster.split (' ' :: word))).apply grid)
      (place.right 1)).text = word.dropWhile Cluster.isMark := by
  have ⟨_, _, col_nonneg, _⟩ := applies
  have plainRest : Text.hasBlank (word.dropWhile Cluster.isMark) = false := by
    rw [← List.takeWhile_append_dropWhile (p := Cluster.isMark) (l := word), Text.hasBlank_append,
      Bool.or_eq_false_iff] at plain
    exact plain.2
  have unbroken : ∀ letter ∈ Cluster.split (word.dropWhile Cluster.isMark), isInk letter = true :=
    fun _ => isInk_of_mem_split plainRest
  have letters : Grid.lettersAt ((Edit.exchange place 0 (Cluster.split (' ' :: word))).apply grid)
      (place.right (1 : Nat)) =
        Cluster.split (word.dropWhile Cluster.isMark) ++ grid.lettersAt place := by
    rw [lettersAt_right col_nonneg, Edit.lettersAt_insert applies, Cluster.split_space_cons]
    rfl
  have read : Grid.readWord ((Edit.exchange place 0 (Cluster.split (' ' :: word))).apply grid)
      (place.right (1 : Nat)) = ⟨Cluster.split (word.dropWhile Cluster.isMark)⟩ := by
    rw [readWord, letters, List.takeWhile_append_of_pos unbroken,
      takeWhile_lettersAt_of_not_hasInk blank, List.append_nil]
  exact (congrArg Word.text read).trans (Cluster.flatten_split _)

end Appended

end Grid

/-! ## The instruction -/

namespace Frame

theorem fits_of_pushLocation_eq_ok {frame after : Frame} {location : Location}
    (pushed : pushLocation location frame = .ok () after) : location.fits = true := by
  rcases bind_eq_ok_iff.mp pushed with ⟨shown, middle, required, _⟩
  obtain ⟨encoded, _⟩ := require_eq_ok required
  unfold Location.encode at encoded
  split at encoded
  · rename_i fits
    exact fits
  · cases encoded

/-- What an instruction that has appended a word has found in memory, and what it has
done. -/
theorem exists_of_appendWord_eq_ok [Cluster.Splitter] {frame after : Frame} {flow : Flow}
    (executed : appendWord frame = .ok flow after) :
    ∃ word address rest location place,
      frame.memory = word :: address :: rest ∧ Location.read? address = some location ∧
      place = location.right (frame.program.grid.readWord location).length ∧
      (Edit.exchange place 0 (Cluster.split (' ' :: word))).Applies frame.program.grid ∧
      after.program.grid =
        (Edit.exchange place 0 (Cluster.split (' ' :: word))).apply frame.program.grid ∧
      (place.right 1).fits = true ∧ after.memory = (place.right 1).text :: rest := by
  rcases bind_eq_ok_iff.mp executed with ⟨word, _, popped, executed⟩
  obtain ⟨middle, memory, rfl⟩ := pop_eq_ok popped
  rcases bind_eq_ok_iff.mp executed with ⟨location, _, popped, executed⟩
  obtain ⟨address, rest, rfl, read, rfl⟩ := popLocation_eq_ok popped
  rcases bind_eq_ok_iff.mp executed with ⟨grid, _, ⟨⟩, executed⟩
  rcases bind_eq_ok_iff.mp executed with ⟨inserted, edited, edit_eq, executed⟩
  rcases bind_eq_ok_iff.mp executed with ⟨_, _, ⟨⟩, executed⟩
  rcases bind_eq_ok_iff.mp executed with ⟨_, _, pushed, ⟨⟩⟩
  have fits := fits_of_pushLocation_eq_ok pushed
  have after_eq := pushLocation_eq_ok pushed
  obtain ⟨_, applies, grid_eq, _, _⟩ := edit_replace_eq_ok edit_eq rfl (Nat.zero_le _)
  obtain ⟨revision, _, _, edited_eq⟩ := edit_eq_ok edit_eq
  refine ⟨word, address, rest, location, _, memory, read, rfl, applies, ?_, fits, ?_⟩
  · rw [after_eq]
    exact grid_eq
  · rw [after_eq, edited_eq]

/-- An appended word is read behind its leading marks. What is pushed shows a location,
and is read back as it. In the letter before stand the space and the marks that the word
begins with, and so no letter of a word; from the location on the rest of the word is
read. So the word itself is read there exactly when it begins with no mark. Either way,
taking out the letters that have been put in gives the grid back. -/
theorem appended_word_is_read_behind_its_marks {frame after : Frame} {flow : Flow}
    {operand word address : Text} {rest : List Text}
    (memory : frame.memory = word :: address :: rest) (plain : Text.hasBlank word = false)
    (executed : execute ⟨.appendWord, operand⟩ frame = .ok flow after) :
    ∃ origin location,
      Location.read? address = some origin ∧
      location = (origin.right (frame.program.grid.readWord origin).length).right 1 ∧
      after.memory = location.text :: rest ∧ Location.read? location.text = some location ∧
      after.program.grid.letter? (location.right (-1)) =
        some (' ' :: word.takeWhile Cluster.isMark) ∧
      ¬ after.program.grid.HasInk (location.right (-1)) ∧
      (after.program.grid.readWord location).text = word.dropWhile Cluster.isMark ∧
      ((after.program.grid.readWord location).text = word ↔ word.takeWhile Cluster.isMark = []) ∧
      ∃ revision,
        after.program.replace (location.right (-1)) (Cluster.split (' ' :: word)).length [] =
          .ok revision ∧
        revision.program.grid = frame.program.grid := by
  obtain ⟨_, _, _, origin, place, memory_eq, read, place_eq, applies, grid_eq, fits, after_eq⟩ :=
    exists_of_appendWord_eq_ok executed
  rw [memory] at memory_eq
  cases memory_eq
  have before : (place.right 1).right (-1) = place := by
    simp only [Location.right, Location.shift, Int.add_zero, Int.add_neg_cancel_right]
  have blank : ¬ frame.program.grid.HasInk place := by
    rw [place_eq]
    exact frame.program.grid.not_hasInk_readWord_end origin
  have readText := Grid.readWord_appended applies blank plain
  have removable : (Edit.exchange place (Cluster.split (' ' :: word)).length
      (Cluster.split [])).Applies after.program.grid := by
    rw [grid_eq]
    exact Edit.applies_delete_insert applies
  obtain ⟨revision, revised, revised_eq⟩ := Program.exists_replace_of_applies removable
  refine ⟨origin, place.right 1, read, by rw [place_eq], after_eq, Location.read?_text fits, ?_⟩
  rw [before, grid_eq, readText]
  refine ⟨Grid.letter?_appended applies, Grid.not_hasInk_appended applies, rfl, ?_, revision,
    revised, ?_⟩
  · rw [List.dropWhile_eq_self_iff, List.takeWhile_eq_nil_iff]
    rfl
  · rw [revised_eq, grid_eq]
    exact Edit.apply_delete_insert applies

/-- Here a word with a mark behind its second letter is appended to the word that is
executed, and is read where it is said to stand. -/
theorem appended_word_is_read_behind_its_marks_accent :
    let frame : Frame := ⟨.load "p r".toList false, ⟨0, 0⟩, ["xe\u0301".toList, "1:1".toList], []⟩
    ∃ after location, execute ⟨.appendWord, []⟩ frame = .ok .advance after ∧
      after.program.grid.text = "p xe\u0301 r".toList ∧
      location = ⟨0, 2⟩ ∧ after.memory = [location.text] ∧
      Location.read? location.text = some location ∧
      after.program.grid.letter? (location.right (-1)) = some [' '] ∧
      (after.program.grid.readWord location).text = "xe\u0301".toList ∧
      ∃ revision, after.program.replace (location.right (-1)) 3 [] = .ok revision ∧
        revision.program.grid = frame.program.grid := by
  intro frame
  have plain : Text.hasBlank "xe\u0301".toList = false := by decide +kernel
  have unmarked : "xe\u0301".toList.takeWhile Cluster.isMark = [] := by decide +kernel
  have executed : execute ⟨.appendWord, []⟩ frame =
      .ok .advance (leftBy (execute ⟨.appendWord, []⟩ frame)) := by
    decide +kernel
  obtain ⟨origin, location, read, location_eq, memory_eq, shown, letterAt, _, _, word_iff,
    removed⟩ := appended_word_is_read_behind_its_marks rfl plain executed
  have origin_eq : origin = ⟨0, 0⟩ := by
    have first : Location.read? "1:1".toList = some ⟨0, 0⟩ := by decide +kernel
    exact Option.some.inj (read.symm.trans first)
  refine ⟨_, location, executed, by decide +kernel, ?_, memory_eq, shown, ?_, word_iff.mpr unmarked,
    removed⟩
  · rw [location_eq, origin_eq]
    decide +kernel
  · rw [letterAt, unmarked]

/-- A word that begins with a mark is not read where it is said to stand, for the mark has
gone into the letter of the space. Loading pushes such a word when its lead ends inside a
cluster. -/
theorem leading_mark_joins_separator :
    let word := "\u0301x".toList
    let loading : Frame := ⟨.load "le e\u0301x".toList false, ⟨0, 0⟩, [], []⟩
    let frame : Frame := ⟨.load "p r".toList false, ⟨0, 0⟩, [word, "1:1".toList], []⟩
    let after := leftBy (execute ⟨.appendWord, []⟩ frame)
    (leftBy (execute ⟨.load, ['e']⟩ loading)).memory = [word] ∧
      Text.hasBlank word = false ∧ execute ⟨.appendWord, []⟩ frame = .ok .advance after ∧
      after.program.grid = [[['p'], [' ', '\u0301'], ['x'], [' '], ['r']]] ∧
      after.memory = ["1:3".toList] ∧ Location.read? "1:3".toList = some ⟨0, 2⟩ ∧
      (after.program.grid.readWord ⟨0, 2⟩).text = ['x'] ∧
      (after.program.grid.readWord ⟨0, 2⟩).text ≠ word := by
  decide +kernel

end Frame

end Palimpsest
