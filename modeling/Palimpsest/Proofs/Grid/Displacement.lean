import Palimpsest.Proofs.Grid.Places
import Mathlib.Data.List.Basic
import Mathlib.Tactic.SplitIfs

/-!
# Edits and displacements

An edit of a grid either exchanges letters of one row or puts in an empty row.
It displaces what stands behind it: the letters behind the exchanged ones in
the same row move by columns, the rows below a new row move down, and
everything else stays. The main results say that reading at a displaced
location of the edited grid is reading at the location before the edit, and
that the next word is displaced with the place from which it is looked for.
-/

namespace Palimpsest

/-- A row with `deleted` letters from a column on exchanged for others. -/
def Grid.exchange (line : Row) (col deleted : Nat) (letters : List Letter) : Row :=
  line.take col ++ letters ++ line.drop (col + deleted)

/-- A change of the letters of a grid. -/
inductive Edit
  /-- Letters of one row are exchanged for others. -/
  | exchange (place : Location) (deleted : Nat) (letters : List Letter)
  /-- An empty row is put in before the row with the given number. -/
  | newRow (before : Int)
  deriving DecidableEq, Repr

namespace Edit

/-- Whether an edit is one of the given grid: the exchanged letters are there,
and the new row joins the others. -/
def Applies (edit : Edit) (grid : Grid) : Prop :=
  match edit with
  | .exchange place deleted _ =>
    ∃ line, grid.row? place.row = some line ∧ 0 ≤ place.col ∧
      place.col + deleted ≤ line.length
  | .newRow before => 0 ≤ before ∧ before ≤ grid.length

/-- The grid after an edit. -/
def apply (edit : Edit) (grid : Grid) : Grid :=
  match edit with
  | .exchange place deleted letters =>
    grid.modify place.row.toNat fun line =>
      Grid.exchange line place.col.toNat deleted letters
  | .newRow before => grid.take before.toNat ++ [] :: grid.drop before.toNat

/-- Where an edit takes a letter: by the letters gained or lost when it stands
in the same row behind the edit, one row down when it stands below a new row,
and nowhere else. -/
def displace (edit : Edit) (location : Location) : Location :=
  match edit with
  | .exchange place deleted letters =>
    if place.row = location.row ∧ place.col + deleted ≤ location.col then
      location.right (letters.length - deleted)
    else location
  | .newRow before => if before ≤ location.row then location.shift 1 0 else location

/-- The whole edit lies before a location in reading order. -/
def Precedes (edit : Edit) (location : Location) : Prop :=
  match edit with
  | .exchange place deleted _ =>
    place.row < location.row ∨
      place.row = location.row ∧ place.col + deleted ≤ location.col
  | .newRow before => before ≤ location.row

/-- The edit leaves the `length` letters from a location on alone: it exchanges
none of them, and where it only puts letters in, it does not do so between two
of them. -/
def Spares (edit : Edit) (location : Location) (length : Nat) : Prop :=
  match edit with
  | .exchange place deleted _ =>
    place.row = location.row →
      (∀ col, place.col ≤ col ∧ col < place.col + deleted →
        ¬(location.col ≤ col ∧ col < location.col + length)) ∧
      (deleted = 0 → ¬(location.col < place.col ∧ place.col < location.col + length))
  | .newRow _ => True

/-- Sparing a run of letters means to lie before its first or behind its last
letter in their row. -/
theorem spares_exchange_iff {place location : Location} {deleted length : Nat}
    {letters : List Letter} (positive : 0 < length) :
    (exchange place deleted letters).Spares location length ↔
      (place.row = location.row →
        place.col + deleted ≤ location.col ∨ location.col + length ≤ place.col) := by
  unfold Spares
  constructor
  · intro spares same
    obtain ⟨disjoint, notInside⟩ := spares same
    by_contra neither
    rcases Nat.eq_zero_or_pos deleted with rfl | deleted_pos
    · exact notInside rfl (by omega)
    · exact disjoint (max place.col location.col) (by omega) (by omega)
  · intro apart same
    have := apart same
    exact ⟨fun col _ => by omega, fun _ => by omega⟩

end Edit

/-! ## Rows of an edited grid -/

namespace Grid

/-- Behind the exchanged letters a row is what it was, only displaced. -/
theorem drop_exchange {line : Row} {col deleted onward : Nat} (letters : List Letter)
    (col_le : col ≤ line.length) (behind : col + deleted ≤ onward) :
    (exchange line col deleted letters).drop (onward + letters.length - deleted) =
      line.drop onward := by
  have front : (line.take col ++ letters).length = col + letters.length := by
    simp [List.length_take, Nat.min_eq_left col_le]
  have split : onward + letters.length - deleted =
      (line.take col ++ letters).length + (onward - (col + deleted)) := by
    omega
  rw [exchange, split, List.drop_length_add_append, List.drop_drop]
  congr 1
  omega

/-- Before the exchanged letters a row is what it was. -/
theorem take_drop_exchange {line : Row} {col onward count : Nat} (deleted : Nat)
    (letters : List Letter) (col_le : col ≤ line.length) (ahead : onward + count ≤ col) :
    ((exchange line col deleted letters).drop onward).take count =
      (line.drop onward).take count := by
  rw [exchange, List.append_assoc, List.drop_append_of_le_length (by simp; omega),
    List.take_append_of_le_length (by simp; omega), List.drop_take, List.take_take]
  congr 1
  omega

end Grid

namespace Edit

variable {grid : Grid}

theorem apply_exchange_append {place : Location} {above : List Row} (deleted : Nat)
    (letters : List Letter) (line : Row) (below : List Row) (row_eq : place.row = above.length) :
    (exchange place deleted letters).apply (above ++ line :: below) =
      above ++ Grid.exchange line place.col.toNat deleted letters :: below := by
  have numbered : place.row.toNat = above.length := by omega
  rw [apply, numbered, List.modify_eq_take_cons_drop (by simp)]
  simp

theorem apply_newRow_append {before : Int} {above : List Row} (below : List Row)
    (before_eq : before = above.length) :
    (newRow before).apply (above ++ below) = above ++ [] :: below := by
  have numbered : before.toNat = above.length := by omega
  rw [apply, numbered, List.take_left, List.drop_left]

theorem row?_apply_exchange_of_ne {place : Location} {deleted : Nat} {letters : List Letter}
    {row : Int} (place_nonneg : 0 ≤ place.row) (other : place.row ≠ row) :
    Grid.row? ((exchange place deleted letters).apply grid) row = grid.row? row := by
  unfold Grid.row?
  split
  · rfl
  · have apart : place.row.toNat ≠ row.toNat := by omega
    exact List.getElem?_modify_ne _ grid apart

theorem row?_apply_exchange_self {place : Location} {line : Row} (deleted : Nat)
    (letters : List Letter) (found : grid.row? place.row = some line) :
    Grid.row? ((exchange place deleted letters).apply grid) place.row =
      some (Grid.exchange line place.col.toNat deleted letters) := by
  rcases Grid.row?_eq_some_iff.mp found with ⟨row_nonneg, lineAt⟩
  refine Grid.row?_eq_some_iff.mpr ⟨row_nonneg, ?_⟩
  rw [apply, List.getElem?_modify_eq, lineAt]
  rfl

/-- The rows from the new one on move down by one. -/
theorem drop_apply_newRow {before : Int} (row : Nat) (nonneg : 0 ≤ before)
    (le_length : before ≤ grid.length) (below : before ≤ row) :
    ((newRow before).apply grid).drop (row + 1) = grid.drop row := by
  have length_take : (grid.take before.toNat).length = before.toNat := by
    simp only [List.length_take]
    omega
  have split : row + 1 = (grid.take before.toNat).length + (row - before.toNat + 1) := by
    omega
  rw [apply, split, List.drop_length_add_append, List.drop_succ_cons, List.drop_drop]
  congr 1
  omega

theorem row?_apply_newRow_succ {before row : Int} (nonneg : 0 ≤ before)
    (le_length : before ≤ grid.length) (below : before ≤ row) :
    Grid.row? ((newRow before).apply grid) (row + 1) = grid.row? row := by
  have numbered : (row + 1).toNat = row.toNat + 1 := by omega
  have shifted := drop_apply_newRow row.toNat nonneg le_length (by omega)
  have notNeg : ¬ row < 0 := by omega
  have notNegSucc : ¬ row + 1 < 0 := by omega
  rw [Grid.row?, Grid.row?, if_neg notNeg, if_neg notNegSucc, numbered, ← List.head?_drop,
    ← List.head?_drop, shifted]

theorem row?_apply_newRow_of_lt {before row : Int} (le_length : before ≤ grid.length)
    (above : row < before) :
    Grid.row? ((newRow before).apply grid) row = grid.row? row := by
  unfold Grid.row?
  split
  · rfl
  · have inFront : row.toNat < (grid.take before.toNat).length := by
      simp only [List.length_take]
      omega
    rw [apply, List.getElem?_append_left inFront, List.getElem?_take_of_lt (by omega)]

/-! ## Reading at displaced locations -/

/-- What is read behind an edit is what was read before it. -/
theorem lettersAt_displace {edit : Edit} {location : Location} (applies : edit.Applies grid)
    (precedes : edit.Precedes location) :
    Grid.lettersAt (edit.apply grid) (edit.displace location) = grid.lettersAt location := by
  cases edit with
  | exchange place deleted letters =>
      rcases applies with ⟨line, found, col_nonneg, col_le⟩
      have row_nonneg := (Grid.row?_eq_some_iff.mp found).1
      rcases precedes with above | ⟨same, behind⟩
      · have other : place.row ≠ location.row := by omega
        simp only [displace, other, false_and, if_false, Grid.lettersAt,
          row?_apply_exchange_of_ne row_nonneg other]
      · have target : (exchange place deleted letters).displace location =
            location.right (letters.length - deleted) := by
          simp [displace, same, behind]
        have columns : (location.right ((letters.length : Int) - deleted)).col.toNat =
            location.col.toNat + letters.length - deleted := by
          simp only [Location.right, Location.shift_col]
          omega
        have foundHere : grid.row? location.row = some line := same ▸ found
        have foundThere : Grid.row? ((exchange place deleted letters).apply grid)
            (location.right ((letters.length : Int) - deleted)).row =
              some (Grid.exchange line place.col.toNat deleted letters) := by
          simpa [Location.right, same] using
            row?_apply_exchange_self deleted letters found
        rw [target, Grid.lettersAt_of_row?_eq_some foundThere
            (by simp only [Location.right, Location.shift_col]; omega),
          Grid.lettersAt_of_row?_eq_some foundHere (by omega), columns,
          Grid.drop_exchange letters (by omega) (by omega)]
  | newRow before =>
      rcases applies with ⟨nonneg, le_length⟩
      have below : before ≤ location.row := precedes
      simp only [displace, below, if_true, Grid.lettersAt, Location.shift_row,
        Location.shift_col, row?_apply_newRow_succ nonneg le_length below, Int.add_zero]

theorem readWord_displace {edit : Edit} {location : Location} (applies : edit.Applies grid)
    (precedes : edit.Precedes location) :
    Grid.readWord (edit.apply grid) (edit.displace location) = grid.readWord location := by
  rw [Grid.readWord, Grid.readWord, lettersAt_displace applies precedes]

/-- Behind an edit the letters of words are those that were there before. -/
theorem hasInk_displace_iff {edit : Edit} {location : Location} (applies : edit.Applies grid)
    (precedes : edit.Precedes location) :
    Grid.HasInk (edit.apply grid) (edit.displace location) ↔ grid.HasInk location := by
  rw [Grid.HasInk, Grid.letter?, lettersAt_displace applies precedes]
  rfl

/-- Letters that an edit spares are found where it has displaced them to. -/
theorem take_lettersAt_displace {edit : Edit} {location : Location} {length : Nat}
    (positive : 0 < length) (col_nonneg : 0 ≤ location.col) (applies : edit.Applies grid)
    (spares : edit.Spares location length) :
    (Grid.lettersAt (edit.apply grid) (edit.displace location)).take length =
      (grid.lettersAt location).take length := by
  by_cases precedes : edit.Precedes location
  · rw [lettersAt_displace applies precedes]
  · cases edit with
    | exchange place deleted letters =>
        have stays : (exchange place deleted letters).displace location = location := by
          simp only [Precedes, not_or] at precedes
          simp only [displace, if_neg precedes.2]
        rcases applies with ⟨line, found, place_nonneg, col_le⟩
        have row_nonneg := (Grid.row?_eq_some_iff.mp found).1
        rw [stays]
        by_cases same : place.row = location.row
        · have ahead : location.col + length ≤ place.col := by
            rcases (spares_exchange_iff positive).mp spares same with behind | ahead
            · exact absurd (Or.inr ⟨same, behind⟩) precedes
            · exact ahead
          have foundHere : grid.row? location.row = some line := same ▸ found
          have foundThere := row?_apply_exchange_self deleted letters found
          rw [same] at foundThere
          rw [Grid.lettersAt_of_row?_eq_some foundThere col_nonneg,
            Grid.lettersAt_of_row?_eq_some foundHere col_nonneg,
            Grid.take_drop_exchange deleted letters (by omega) (by omega)]
        · simp only [Grid.lettersAt, row?_apply_exchange_of_ne row_nonneg same]
    | newRow before =>
        have above : location.row < before := by
          simpa [Precedes] using precedes
        have stays : (newRow before).displace location = location := if_neg precedes
        rw [stays]
        simp only [Grid.lettersAt, row?_apply_newRow_of_lt applies.2 above]

end Edit

/-! ## Looking for the next word -/

namespace Grid

/-- Nothing is found above the first row that is looked through. -/
theorem le_row_of_seek_eq_some {index col : Nat} {rows : List Row} {found : Location}
    (sought : seek index col rows = some found) : (index : Int) ≤ found.row := by
  obtain ⟨down, across, _, _, rfl, _⟩ := seek_eq_some sought
  simp only
  omega

/-- Rows numbered one higher give what is found one row further down. -/
theorem seek_succ (index col : Nat) (rows : List Row) :
    seek (index + 1) col rows = (seek index col rows).map fun found => found.shift 1 0 := by
  induction rows generalizing index col with
  | nil => rfl
  | cons row rest inductionHypothesis =>
      unfold seek
      cases inkFrom row col with
      | none => exact inductionHypothesis (index + 1) 0
      | some across => simp [Location.shift]

theorem nextWord_of_nonneg {grid : Grid} {location : Location} (nonneg : 0 ≤ location.row) :
    grid.nextWord location =
      seek location.row.toNat location.col.toNat (grid.drop location.row.toNat) := by
  have : ¬ location.row < 0 := by omega
  simp [nextWord, this]

/-- A found word stands at or below the row from which it is looked for. -/
theorem row_le_of_nextWord_eq_some {grid : Grid} {location found : Location}
    (nonneg : 0 ≤ location.row) (next : grid.nextWord location = some found) :
    location.row ≤ found.row := by
  rw [nextWord_of_nonneg nonneg] at next
  have := le_row_of_seek_eq_some next
  omega

/-- Only what is left of the first row decides where in it a word is found. -/
theorem inkFrom_eq_map_of_drop_eq {row other : Row} {col shifted : Nat}
    (equal : other.drop shifted = row.drop col) :
    inkFrom other shifted = (inkFrom row col).map fun found => shifted + (found - col) := by
  unfold inkFrom
  rw [equal, Option.map_map]
  congr 1
  funext index
  simp

theorem le_of_inkFrom_eq_some {row : Row} {col found : Nat} (inked : inkFrom row col = some found) :
    col ≤ found := by
  rcases Option.map_eq_some_iff.mp inked with ⟨index, _, rfl⟩
  omega

end Grid

namespace Edit

variable {grid : Grid}

/-- An edit in a row above leaves the rows from a location on alone. -/
private theorem nextWord_apply_of_above {place location : Location} {deleted : Nat}
    {letters : List Letter} (place_nonneg : 0 ≤ place.row) (above : place.row < location.row) :
    Grid.nextWord ((exchange place deleted letters).apply grid) location =
      grid.nextWord location := by
  rw [Grid.nextWord_of_nonneg (by omega), Grid.nextWord_of_nonneg (by omega), apply,
    List.drop_modify_of_lt _ _ _ _ (by omega)]

/-- An edit before a location in its own row takes the next word with it as long
as that stands in the row. -/
private theorem nextWord_displace_of_same {place location : Location} {deleted : Nat}
    {letters : List Letter} (applies : (exchange place deleted letters).Applies grid)
    (same : place.row = location.row) (behind : place.col + deleted ≤ location.col) :
    Grid.nextWord ((exchange place deleted letters).apply grid)
        (location.right (letters.length - deleted)) =
      (grid.nextWord location).map (exchange place deleted letters).displace := by
  rcases applies with ⟨line, found, col_nonneg, col_le⟩
  rcases Grid.row?_eq_some_iff.mp found with ⟨row_nonneg, lineAt⟩
  rcases List.getElem?_eq_some_iff.mp lineAt with ⟨row_lt, lineEq⟩
  have rows : grid.drop place.row.toNat = line :: grid.drop (place.row.toNat + 1) := by
    rw [List.drop_eq_getElem_cons row_lt, lineEq]
  have editedRows : ((exchange place deleted letters).apply grid).drop place.row.toNat =
      Grid.exchange line place.col.toNat deleted letters :: grid.drop (place.row.toNat + 1) := by
    rw [apply, List.drop_modify_of_ge _ _ _ _ (Nat.le_refl _), Nat.sub_self, rows]
    rfl
  have columns : (location.right ((letters.length : Int) - deleted)).col.toNat =
      location.col.toNat + letters.length - deleted := by
    simp only [Location.right, Location.shift_col]
    omega
  have rest : (Grid.exchange line place.col.toNat deleted letters).drop
      (location.col.toNat + letters.length - deleted) = line.drop location.col.toNat :=
    Grid.drop_exchange letters (by omega) (by omega)
  have row_eq : (location.right ((letters.length : Int) - deleted)).row = place.row := by
    simp [Location.right, same]
  rw [Grid.nextWord_of_nonneg (by omega), Grid.nextWord_of_nonneg (by omega), columns, row_eq,
    ← same, editedRows, rows]
  unfold Grid.seek
  rw [Grid.inkFrom_eq_map_of_drop_eq rest]
  cases inked : Grid.inkFrom line location.col.toNat with
  | some across =>
      have := Grid.le_of_inkFrom_eq_some inked
      have target : (exchange place deleted letters).displace ⟨place.row.toNat, across⟩ =
          (⟨place.row.toNat, across⟩ : Location).right (letters.length - deleted) :=
        if_pos (by simp only; omega)
      simp only [Option.map_some, target, Location.right, Location.shift, Option.some.injEq,
        Location.mk.injEq]
      omega
  | none =>
      -- In the rows below nothing has moved.
      cases lower : Grid.seek (place.row.toNat + 1) 0 (grid.drop (place.row.toNat + 1)) with
      | none => simp
      | some found =>
          have := Grid.le_row_of_seek_eq_some lower
          have other : place.row ≠ found.row := by omega
          simp [displace, other]

/-- The next word behind an edit is the old one, displaced. -/
theorem nextWord_displace {edit : Edit} {location : Location} (applies : edit.Applies grid)
    (precedes : edit.Precedes location) :
    Grid.nextWord (edit.apply grid) (edit.displace location) =
      (grid.nextWord location).map edit.displace := by
  cases edit with
  | exchange place deleted letters =>
      rcases precedes with above | ⟨same, behind⟩
      · have place_nonneg : 0 ≤ place.row := by
          rcases applies with ⟨line, found, _⟩
          exact (Grid.row?_eq_some_iff.mp found).1
        have stays {lower : Location} (below : location.row ≤ lower.row) :
            (exchange place deleted letters).displace lower = lower := by
          have other : place.row ≠ lower.row := by omega
          simp [displace, other]
        rw [stays (Int.le_refl _), nextWord_apply_of_above place_nonneg above]
        cases next : grid.nextWord location with
        | none => rfl
        | some found =>
            rw [Option.map_some, stays (Grid.row_le_of_nextWord_eq_some (by omega) next)]
      · have target : (exchange place deleted letters).displace location =
            location.right (letters.length - deleted) := by
          simp [displace, same, behind]
        rw [target, nextWord_displace_of_same applies same behind]
  | newRow before =>
      rcases applies with ⟨nonneg, le_length⟩
      have below : before ≤ location.row := precedes
      have numbered : (location.row + 1).toNat = location.row.toNat + 1 := by omega
      have target : (newRow before).displace location = location.shift 1 0 := if_pos below
      have shifted := drop_apply_newRow location.row.toNat nonneg le_length (by omega)
      rw [target, Grid.nextWord_of_nonneg (by simp only [Location.shift_row]; omega),
        Grid.nextWord_of_nonneg (by omega)]
      simp only [Location.shift_row, Location.shift_col, Int.add_zero, numbered, shifted]
      rw [Grid.seek_succ]
      cases sought : Grid.seek location.row.toNat location.col.toNat
          (grid.drop location.row.toNat) with
      | none => rfl
      | some found =>
          have := Grid.le_row_of_seek_eq_some sought
          have foundBelow : before ≤ found.row := by omega
          simp [displace, foundBelow]

end Edit

end Palimpsest
