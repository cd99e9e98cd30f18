import Palimpsest.Cluster.Unicode
import Palimpsest.Proofs.Grid.Lines

/-!
# Replacements as splices

A replacement cuts letters out of a row and puts the clusters of a text in their
place. The letters before and behind stay as they are, cell by cell, and are never
joined with the new ones, so the text of the row is spliced exactly although the
new text is cut into clusters by itself. Replacing the new letters by the text of
those that were cut out undoes the replacement: it gives the text back, and the
letters too when their text is cut into just these letters.
-/

namespace Palimpsest

/-! ## Rows -/

namespace Grid

variable {line : Row} {col deleted : Nat}

/-- Before the exchanged letters a row is what it was. -/
theorem take_exchange (letters : List Letter) (col_le : col ≤ line.length) :
    (exchange line col deleted letters).take col = line.take col := by
  rw [exchange, List.append_assoc, List.take_left' (List.length_take_of_le col_le)]

/-- From the exchanged letters on a row begins with the new ones. -/
theorem drop_exchange_start (letters : List Letter) (col_le : col ≤ line.length) :
    (exchange line col deleted letters).drop col = letters ++ line.drop (col + deleted) := by
  rw [exchange, List.append_assoc, List.drop_left' (List.length_take_of_le col_le)]

/-- Behind the new letters a row is what it was behind the exchanged ones. -/
theorem drop_exchange_end (letters : List Letter) (col_le : col ≤ line.length) :
    (exchange line col deleted letters).drop (col + letters.length) =
      line.drop (col + deleted) := by
  rw [← List.drop_drop, drop_exchange_start letters col_le, List.drop_left]

theorem length_exchange (letters : List Letter) (inside : col + deleted ≤ line.length) :
    (exchange line col deleted letters).length + deleted = line.length + letters.length := by
  simp only [exchange, List.length_append, List.length_take, List.length_drop]
  omega

/-- New letters that are exchanged once more might as well never have been there. -/
theorem exchange_exchange (letters others : List Letter) (col_le : col ≤ line.length) :
    exchange (exchange line col deleted letters) col letters.length others =
      exchange line col deleted others := by
  rw [exchange, take_exchange letters col_le, drop_exchange_end letters col_le, exchange]

/-- Letters that are exchanged for themselves stay. -/
theorem exchange_self (line : Row) (col deleted : Nat) :
    exchange line col deleted ((line.drop col).take deleted) = line := by
  rw [exchange, List.append_assoc, ← List.drop_drop, List.take_append_drop, List.take_append_drop]

theorem rowText_append (front back : Row) :
    rowText (front ++ back) = rowText front ++ rowText back :=
  List.flatten_append

/-- The text of a row is spliced exactly, wherever the clusters of the new text end. -/
theorem rowText_exchange_split [Cluster.Splitter] (line : Row) (col deleted : Nat) (text : Text) :
    rowText (exchange line col deleted (Cluster.split text)) =
      rowText (line.take col) ++ text ++ rowText (line.drop (col + deleted)) := by
  have spelled : rowText (Cluster.split text) = text := Cluster.flatten_split text
  rw [exchange, rowText_append, rowText_append, spelled]

/-- The text of a grid depends on the texts of its rows alone. -/
theorem text_eq_of_rowText_eq {row other : Row} (same : rowText row = rowText other)
    (above below : List Row) : text (above ++ row :: below) = text (above ++ other :: below) := by
  rw [text, text, List.map_append, List.map_append, List.map_cons, List.map_cons, same]

end Grid

theorem Text.hasBlank_eq_false_iff {text : Text} :
    Text.hasBlank text = false ↔ ∀ c ∈ text, Text.isBlank c = false := by
  simp [Text.hasBlank]

/-- The clusters of a text without blanks are letters of words. -/
theorem Grid.isInk_of_mem_split [Cluster.Splitter] {text : Text}
    (plain : Text.hasBlank text = false) {letter : Letter} (member : letter ∈ Cluster.split text) :
    Grid.isInk letter = true := by
  unfold Grid.isInk
  rw [Bool.not_eq_true']
  apply Text.hasBlank_eq_false_iff.mpr
  intro c inside
  exact Text.hasBlank_eq_false_iff.mp plain c (Cluster.subset_of_mem_split member inside)

/-! ## Grids -/

namespace Edit

variable {grid : Grid} {place : Location} {deleted : Nat} {letters : List Letter}

/-- At the place of an exchange the new letters are read, and behind them what
stood behind the exchanged ones. -/
theorem lettersAt_exchange (applies : (exchange place deleted letters).Applies grid) :
    Grid.lettersAt ((exchange place deleted letters).apply grid) place =
      letters ++ (grid.lettersAt place).drop deleted := by
  rcases applies with ⟨line, found, col_nonneg, inside⟩
  rw [Grid.lettersAt_of_row?_eq_some (row?_apply_exchange_self deleted letters found) col_nonneg,
    Grid.lettersAt_of_row?_eq_some found col_nonneg, Grid.drop_exchange_start letters (by omega),
    List.drop_drop]

/-- The new letters can be exchanged once more. -/
theorem applies_exchange_again (applies : (exchange place deleted letters).Applies grid)
    (others : List Letter) :
    (exchange place letters.length others).Applies
      ((exchange place deleted letters).apply grid) := by
  rcases applies with ⟨line, found, col_nonneg, inside⟩
  have inRow : place.col.toNat + deleted ≤ line.length := by omega
  have length_eq := Grid.length_exchange letters inRow
  exact ⟨_, row?_apply_exchange_self deleted letters found, col_nonneg, by omega⟩

/-- Exchanging them once more exchanges the letters that were there at first. -/
theorem apply_exchange_again (applies : (exchange place deleted letters).Applies grid)
    (others : List Letter) :
    (exchange place letters.length others).apply ((exchange place deleted letters).apply grid) =
      (exchange place deleted others).apply grid := by
  rcases applies with ⟨line, found, col_nonneg, inside⟩
  obtain ⟨above, below, rfl, row_eq⟩ := Grid.exists_append_of_row?_eq_some found
  rw [apply_exchange_append deleted letters line below row_eq,
    apply_exchange_append letters.length others _ below row_eq,
    apply_exchange_append deleted others line below row_eq,
    Grid.exchange_exchange letters others (by omega)]

/-- Letters that are exchanged for themselves leave the grid as it is. -/
theorem apply_exchange_self (applies : (exchange place deleted letters).Applies grid)
    (same : letters = (grid.lettersAt place).take deleted) :
    (exchange place deleted letters).apply grid = grid := by
  rcases applies with ⟨line, found, col_nonneg, inside⟩
  rw [Grid.lettersAt_of_row?_eq_some found col_nonneg] at same
  obtain ⟨above, below, rfl, row_eq⟩ := Grid.exists_append_of_row?_eq_some found
  rw [apply_exchange_append deleted letters line below row_eq, same, Grid.exchange_self]

/-- Letters that are exchanged for others with the same text leave the text as it is. -/
theorem text_apply_exchange (applies : (exchange place deleted letters).Applies grid)
    (same : Grid.rowText letters = Grid.rowText ((grid.lettersAt place).take deleted)) :
    Grid.text ((exchange place deleted letters).apply grid) = grid.text := by
  rcases applies with ⟨line, found, col_nonneg, inside⟩
  rw [Grid.lettersAt_of_row?_eq_some found col_nonneg] at same
  obtain ⟨above, below, rfl, row_eq⟩ := Grid.exists_append_of_row?_eq_some found
  have sameText : Grid.rowText (Grid.exchange line place.col.toNat deleted letters) =
      Grid.rowText line := by
    conv => rhs; rw [← Grid.exchange_self line place.col.toNat deleted]
    simp only [Grid.exchange, Grid.rowText_append, same]
  rw [apply_exchange_append deleted letters line below row_eq]
  exact Grid.text_eq_of_rowText_eq sameText above below

/-- Letters of a text without blanks that are put in are the beginning of a word. -/
theorem prefix_readWord_exchange [Cluster.Splitter] {text : Text}
    (plain : Text.hasBlank text = false)
    (applies : (exchange place deleted (Cluster.split text)).Applies grid) :
    text <+:
      (Grid.readWord ((exchange place deleted (Cluster.split text)).apply grid) place).text := by
  have unbroken : ∀ letter ∈ Cluster.split text, Grid.isInk letter = true :=
    fun _ => Grid.isInk_of_mem_split plain
  rw [Grid.readWord, lettersAt_exchange applies, List.takeWhile_append_of_pos unbroken, Word.text,
    List.flatten_append, Cluster.flatten_split]
  exact List.prefix_append text _

end Edit

/-! ## Programs -/

namespace Program

variable {program : Program} {location place : Location} {line : Row}

/-- A replacement in a row or at its end is accepted. -/
theorem exists_replace_eq_ok [Cluster.Splitter] (found : program.grid.row? location.row = some line)
    (col_nonneg : 0 ≤ location.col) (col_le : location.col ≤ line.length) (length : Int)
    (text : Text) : ∃ revision, program.replace location length text = .ok revision := by
  simp only [replace, found, col_nonneg, col_le, and_self, if_true]
  exact ⟨_, rfl⟩

/-- It exchanges letters of the row, as many as it is asked to and as there are. -/
theorem exists_exchange_of_replace [Cluster.Splitter]
    (found : program.grid.row? location.row = some line) (col_nonneg : 0 ≤ location.col)
    (col_le : location.col ≤ line.length) (length : Int) (text : Text) :
    ∃ (revision : Revision) (deleted : Nat), program.replace location length text = .ok revision ∧
      (deleted : Int) = min (max length 0) (line.length - location.col) ∧
      revision.inserted = (Cluster.split text).length ∧
      (Edit.exchange location deleted (Cluster.split text)).Applies program.grid ∧
      revision.program.grid =
        (Edit.exchange location deleted (Cluster.split text)).apply program.grid := by
  obtain ⟨revision, revised⟩ := exists_replace_eq_ok found col_nonneg col_le length text
  obtain ⟨_, deleted, sameRow, _, _, deleted_eq, spelled⟩ := replace_eq_ok revised
  rw [found] at sameRow
  cases sameRow
  obtain ⟨inserted_eq, program_eq⟩ := spelled _ rfl
  refine ⟨revision, deleted, revised, by omega, inserted_eq, ?_, ?_⟩
  · exact ⟨line, found, col_nonneg, by omega⟩
  · rw [program_eq]

/-- A replacement of letters that are there exchanges just these. -/
theorem exists_replace_of_applies [Cluster.Splitter] {deleted : Nat} {text : Text}
    (applies : (Edit.exchange place deleted (Cluster.split text)).Applies program.grid) :
    ∃ revision, program.replace place deleted text = .ok revision ∧
      revision.program.grid =
        (Edit.exchange place deleted (Cluster.split text)).apply program.grid := by
  rcases applies with ⟨line, found, col_nonneg, inside⟩
  obtain ⟨revision, count, revised, count_eq, _, _, grid_eq⟩ :=
    exists_exchange_of_replace found col_nonneg (by omega) deleted text
  have all : count = deleted := by omega
  exact ⟨revision, revised, all ▸ grid_eq⟩

/-- Replacing the letters that have been put in by the text of those that were there
comes to a single exchange of the latter. It gives their text back, and the letters
when the text is cut into them. -/
theorem exists_undo [Cluster.Splitter] {revised : Program} {deleted : Nat} {text : Text}
    {removed : List Letter}
    (applies : (Edit.exchange place deleted (Cluster.split text)).Applies program.grid)
    (grid_eq : revised.grid = (Edit.exchange place deleted (Cluster.split text)).apply program.grid)
    (removed_eq : removed = (program.grid.lettersAt place).take deleted) :
    ∃ undone,
      revised.replace place (Cluster.split text).length (Grid.rowText removed) = .ok undone ∧
      undone.program.text = program.text ∧
      (Cluster.split (Grid.rowText removed) = removed → undone.program.grid = program.grid) := by
  have again := Edit.applies_exchange_again applies (Cluster.split (Grid.rowText removed))
  rw [← grid_eq] at again
  obtain ⟨undone, accepted, undone_eq⟩ := exists_replace_of_applies again
  rw [grid_eq, Edit.apply_exchange_again applies] at undone_eq
  have direct : (Edit.exchange place deleted
      (Cluster.split (Grid.rowText removed))).Applies program.grid := applies
  refine ⟨undone, accepted, ?_, ?_⟩
  · rw [Program.text, undone_eq]
    apply Edit.text_apply_exchange direct
    rw [← removed_eq]
    exact Cluster.flatten_split _
  · intro recut
    rw [undone_eq]
    exact Edit.apply_exchange_self direct (recut.trans removed_eq)

/-- A replacement is a splice of one row, and it can be undone. The letters before the
place and behind the cut stay cell by cell, the row has the new text between their
texts, and no other row is touched. Replacing as many letters as have been put in by
the text that has been cut out gives the text of the program back, and the grid itself
when this text is cut into the letters that were there. -/
theorem replace_is_splice_and_can_be_undone [Cluster.Splitter] (program : Program)
    (location : Location) {line : Row} (found : program.grid.row? location.row = some line)
    (col_nonneg : 0 ≤ location.col) (col_le : location.col ≤ line.length) (length : Int)
    (text : Text) :
    let col := location.col.toNat
    ∃ (revision : Revision) (edited : Row) (deleted : Nat),
      program.replace location length text = .ok revision ∧
      (deleted : Int) = min (max length 0) (line.length - location.col) ∧
      revision.program.grid.row? location.row = some edited ∧
      Grid.rowText edited =
        Grid.rowText (line.take col) ++ text ++ Grid.rowText (line.drop (col + deleted)) ∧
      edited.take col = line.take col ∧
      edited.drop (col + revision.inserted) = line.drop (col + deleted) ∧
      (revision.inserted : Int) = edited.length - line.length + deleted ∧
      revision.program.grid.length = program.grid.length ∧
      (∀ row, row ≠ location.row → revision.program.grid.row? row = program.grid.row? row) ∧
      (Text.hasBlank text = false → text <+: (revision.program.grid.readWord location).text) ∧
      ∃ undone,
        revision.program.replace location revision.inserted
          (Grid.rowText ((line.drop col).take deleted)) = .ok undone ∧
        undone.program.text = program.text ∧
        (Cluster.split (Grid.rowText ((line.drop col).take deleted)) =
            (line.drop col).take deleted →
          undone.program.grid = program.grid) := by
  intro col
  obtain ⟨revision, deleted, revised, deleted_eq, inserted_eq, applies, grid_eq⟩ :=
    exists_exchange_of_replace found col_nonneg col_le length text
  have inRow : col + deleted ≤ line.length := by omega
  have length_eq := Grid.length_exchange (Cluster.split text) inRow
  have row_nonneg := (Grid.row?_eq_some_iff.mp found).1
  refine ⟨revision, Grid.exchange line col deleted (Cluster.split text), deleted, revised,
    deleted_eq, ?_, Grid.rowText_exchange_split line col deleted text,
    Grid.take_exchange _ (by omega), ?_, by omega, ?_, ?_, ?_, ?_⟩
  · rw [grid_eq]
    exact Edit.row?_apply_exchange_self deleted _ found
  · rw [inserted_eq]
    exact Grid.drop_exchange_end _ (by omega)
  · rw [grid_eq, Edit.apply, List.length_modify]
  · intro row other
    rw [grid_eq]
    exact Edit.row?_apply_exchange_of_ne row_nonneg other.symm
  · intro plain
    rw [grid_eq]
    exact Edit.prefix_readWord_exchange plain applies
  · rw [inserted_eq]
    apply exists_undo applies grid_eq
    rw [Grid.lettersAt_of_row?_eq_some found col_nonneg]

/-- A letter with an accent is replaced by a text that begins with a mark. The mark is
not joined with the letter before it, and the letter with its accent comes back. -/
theorem replace_is_splice_and_can_be_undone_accent :
    let program : Program := .load "ae\u0301b\nc".toList true
    ∃ revision, program.replace ⟨0, 1⟩ 1 "\u0308c".toList = .ok revision ∧
      revision.program.grid = [[['a'], ['\u0308'], ['c'], ['b']], [['c']]] ∧
      "\u0308c".toList <+: (revision.program.grid.readWord ⟨0, 1⟩).text ∧
      ∃ undone, revision.program.replace ⟨0, 1⟩ 2 "e\u0301".toList = .ok undone ∧
        undone.program.text = "ae\u0301b\nc".toList ∧ undone.program.grid = program.grid := by
  intro program
  have found : program.grid.row? 0 = some [['a'], "e\u0301".toList, ['b']] := by decide +kernel
  obtain ⟨revision, _, deleted, revised, deleted_eq, _, _, _, _, _, _, _, leads, undone, undo,
      text_eq, grid_eq⟩ :=
    replace_is_splice_and_can_be_undone program ⟨0, 1⟩ found (by decide) (by decide) 1
      "\u0308c".toList
  have result : (program.replace ⟨0, 1⟩ 1 "\u0308c".toList).toOption.map
      (fun revision => (revision.program.grid, revision.inserted)) =
        some ([[['a'], ['\u0308'], ['c'], ['b']], [['c']]], 2) := by
    decide +kernel
  rw [revised] at result
  obtain ⟨edited, inserted_eq⟩ := Prod.mk.inj (Option.some.inj result)
  obtain rfl : deleted = 1 := Int.ofNat.inj deleted_eq
  rw [inserted_eq] at undo
  exact ⟨revision, revised, edited, leads (by decide +kernel), undone, undo,
    text_eq.trans (by decide +kernel), grid_eq (by decide +kernel)⟩

end Program

end Palimpsest
