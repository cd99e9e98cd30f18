import Palimpsest.Proofs.Grid.Displacement

/-!
# The entry point of an edited grid

The scan for a header goes down the rows and stops at the first header that
opens a paragraph; the entry point is the first word below it. So the rows from
the top down to the entry point decide where it is, and nothing below matters.
A new row takes the entry point with it, unless it parts a header from the
letters above it: that header opens a paragraph from then on, and the scan stops
there if it has not stopped before.
-/

namespace Palimpsest

namespace Grid

/-! ## The scan for a header -/

/-- The first header that opens a paragraph among rows, the first of them
numbered `index`. The flag says whether the first of them opens a paragraph. In
contrast to `headerFrom` the last row may be a header. -/
def firstHeader (index : Nat) (opens : Bool) : List Row → Option Nat
  | [] => none
  | row :: rest =>
    if opens && isHeader (rowText row) then some index
    else firstHeader (index + 1) row.isEmpty rest

/-- Whether the row below some rows opens a paragraph. The flag says whether it
does when there are none. -/
def opensBelow (opens : Bool) (rows : List Row) : Bool :=
  match rows.getLast? with
  | none => opens
  | some row => row.isEmpty

theorem opensBelow_cons (opens : Bool) (row : Row) (rest : List Row) :
    opensBelow opens (row :: rest) = opensBelow row.isEmpty rest := by
  cases rest with
  | nil => rfl
  | cons next others => simp [opensBelow, List.getLast?_cons]

/-- A header is found in one of the rows. -/
theorem bounds_of_firstHeader_eq_some {index found : Nat} {opens : Bool} {rows : List Row}
    (scanned : firstHeader index opens rows = some found) :
    index ≤ found ∧ found < index + rows.length := by
  induction rows generalizing index opens with
  | nil => cases scanned
  | cons row rest inductionHypothesis =>
      rw [firstHeader] at scanned
      simp only [List.length_cons]
      split at scanned
      · have := Option.some.inj scanned
        omega
      · have := inductionHypothesis scanned
        omega

/-- Rows numbered one higher have their headers one row further down. -/
theorem firstHeader_succ (index : Nat) (opens : Bool) (rows : List Row) :
    firstHeader (index + 1) opens rows = (firstHeader index opens rows).map (· + 1) := by
  induction rows generalizing index opens with
  | nil => rfl
  | cons row rest inductionHypothesis =>
      rw [firstHeader, firstHeader]
      split
      · rfl
      · exact inductionHypothesis (index + 1) row.isEmpty

/-- A scan goes through the upper rows before it looks at the lower ones. -/
theorem firstHeader_append (index : Nat) (opens : Bool) (above below : List Row) :
    firstHeader index opens (above ++ below) =
      (firstHeader index opens above).or
        (firstHeader (index + above.length) (opensBelow opens above) below) := by
  induction above generalizing index opens with
  | nil => rfl
  | cons row rest inductionHypothesis =>
      rw [List.cons_append, firstHeader, firstHeader, opensBelow_cons]
      split
      · rfl
      · rw [inductionHypothesis, List.length_cons, Nat.add_assoc, Nat.add_comm 1]

/-- A row without letters is no header, and the row below it opens a paragraph. -/
theorem firstHeader_nil_cons (index : Nat) (opens : Bool) (rows : List Row) :
    firstHeader index opens ([] :: rows) = (firstHeader index true rows).map (· + 1) := by
  have headless : isHeader (rowText []) = false := by decide
  rw [firstHeader, headless, Bool.and_false, ← firstHeader_succ]
  rfl

/-- Leaving the last row out makes a difference only where the first header is in
the last row. -/
theorem headerFrom_eq_or (index : Nat) (opens : Bool) (rows : List Row) :
    headerFrom index opens rows = firstHeader index opens rows ∨
      headerFrom index opens rows = none ∧
        ∃ found, firstHeader index opens rows = some found ∧ found + 1 = index + rows.length := by
  induction rows generalizing index opens with
  | nil => exact .inl rfl
  | cons row rest inductionHypothesis =>
      cases rest with
      | nil =>
          rw [firstHeader]
          split
          · exact .inr ⟨rfl, index, rfl, rfl⟩
          · exact .inl rfl
      | cons next others =>
          have unfolded : headerFrom index opens (row :: next :: others) =
              if opens && isHeader (rowText row) then some index
              else headerFrom (index + 1) row.isEmpty (next :: others) :=
            rfl
          rw [unfolded, firstHeader]
          split
          · exact .inl rfl
          · rcases inductionHypothesis (index + 1) row.isEmpty with
              same | ⟨skipped, found, last, place⟩
            · exact .inl same
            · refine .inr ⟨skipped, found, last, ?_⟩
              simp only [List.length_cons] at place ⊢
              omega

/-! ## Looking for the first word -/

theorem seek_append (index : Nat) (above below : List Row) :
    seek index 0 (above ++ below) =
      (seek index 0 above).or (seek (index + above.length) 0 below) := by
  induction above generalizing index with
  | nil => rfl
  | cons row rest inductionHypothesis =>
      rw [List.cons_append, seek, seek]
      cases inkFrom row 0 with
      | some across => rfl
      | none =>
          simp only [inductionHypothesis, List.length_cons, Nat.add_assoc, Nat.add_comm 1]

/-- A found word stands in one of the rows that are looked through. -/
theorem row_lt_of_seek_eq_some {index col : Nat} {rows : List Row} {found : Location}
    (sought : seek index col rows = some found) : found.row < index + rows.length := by
  obtain ⟨down, across, row, letter, rfl, rowAt, _⟩ := seek_eq_some sought
  rcases List.getElem?_eq_some_iff.mp rowAt with ⟨down_lt, _⟩
  simp only
  omega

/-- From the start of a row on, the first word is looked for in the rows down from
there. -/
theorem nextWord_start (grid : Grid) (row : Nat) :
    grid.nextWord ⟨row, 0⟩ = seek row 0 (grid.drop row) := by
  rw [nextWord_of_nonneg (Int.natCast_nonneg row)]
  rfl

theorem nextWord_start_of_length_le {grid : Grid} {row : Nat} (outside : grid.length ≤ row) :
    grid.nextWord ⟨row, 0⟩ = none := by
  rw [nextWord_start, List.drop_eq_nil_of_le outside]
  rfl

/-- A word found in the upper rows is found whatever stands below them. -/
theorem nextWord_start_append_of_lt {above below : List Row} {row : Nat} {found : Location}
    (others : List Row) (next : Grid.nextWord (above ++ below) ⟨row, 0⟩ = some found)
    (inside : found.row < above.length) :
    Grid.nextWord (above ++ others) ⟨row, 0⟩ = some found := by
  have upper := row_le_of_nextWord_eq_some (Int.natCast_nonneg row) next
  have start_le : row ≤ above.length := by
    simp only at upper
    omega
  rw [nextWord_start, List.drop_append_of_le_length start_le, seek_append] at next ⊢
  cases sought : seek row 0 (above.drop row) with
  | some other =>
      rw [sought] at next
      exact next
  | none =>
      rw [sought, Option.none_or] at next
      have := le_row_of_seek_eq_some next
      simp only [List.length_drop] at this
      omega

/-! ## The entry point -/

/-- The first header of a grid that opens a paragraph. -/
def header? (grid : Grid) : Option Nat :=
  firstHeader 0 true grid

/-- The entry point is the first word below the first header. A header in the
last row has no word below it, so it makes no difference that it is left out. -/
theorem entry_eq_bind (grid : Grid) :
    grid.entry = grid.header?.bind fun index => grid.nextWord ⟨(index + 1 : Nat), 0⟩ := by
  unfold entry header?
  rcases headerFrom_eq_or 0 true grid with same | ⟨skipped, found, last, place⟩
  · rw [same]
    cases firstHeader 0 true grid with
    | none => rfl
    | some index => rfl
  · rw [skipped, last, Option.bind_some, nextWord_start_of_length_le (by omega)]

/-- The rows down to the entry point decide where it is. -/
theorem entry_append_of_lt {above below : List Row} {found : Location} (others : List Row)
    (entered : Grid.entry (above ++ below) = some found) (inside : found.row < above.length) :
    Grid.entry (above ++ others) = some found := by
  rw [entry_eq_bind] at entered ⊢
  rcases Option.bind_eq_some_iff.mp entered with ⟨index, headed, next⟩
  have upper := row_le_of_nextWord_eq_some (Int.natCast_nonneg (index + 1)) next
  simp only at upper
  refine Option.bind_eq_some_iff.mpr ⟨index, ?_, nextWord_start_append_of_lt others next inside⟩
  rw [header?, firstHeader_append] at headed ⊢
  cases first : firstHeader 0 true above with
  | some other =>
      rw [first] at headed
      exact headed
  | none =>
      rw [first, Option.none_or] at headed
      have := (bounds_of_firstHeader_eq_some headed).1
      omega

/-! ## New rows -/

/-- A new row before the row with the given number lets a header count that did
not: the row is a header, the row above it has letters, and the first header of
the grid, if there is one, stands further down. -/
structure Reveals (grid : Grid) (before : Int) : Prop where
  header : ∃ row, grid.row? before = some row ∧ isHeader (rowText row) = true
  closed : ∃ row, grid.row? (before - 1) = some row ∧ row ≠ []
  first : ∀ index : Nat, grid.header? = some index → before < index

instance decidableReveals (grid : Grid) (before : Int) : Decidable (grid.Reveals before) :=
  decidable_of_iff
    ((∃ row ∈ grid.row? before, isHeader (rowText row) = true) ∧
      (∃ row ∈ grid.row? (before - 1), row ≠ []) ∧ ∀ index ∈ grid.header?, before < index)
    ⟨fun ⟨header, closed, first⟩ => ⟨header, closed, first⟩,
      fun ⟨header, closed, first⟩ => ⟨header, closed, first⟩⟩

/-- The row below some rows opens a paragraph unless the last of them has
letters. -/
theorem opensBelow_eq_false_iff {above below : List Row} :
    opensBelow true above = false ↔
      ∃ row, Grid.row? (above ++ below) ((above.length : Int) - 1) = some row ∧ row ≠ [] := by
  unfold opensBelow
  rcases List.eq_nil_or_concat' above with rfl | ⟨front, last, rfl⟩
  · simp [row?]
  · have number : (((front ++ [last]).length : Nat) : Int) - 1 = front.length := by simp
    have lastAt : Grid.row? (front ++ [last] ++ below) front.length = some last := by
      simp [row?]
    rw [number, lastAt]
    simp

theorem reveals_append_cons_iff {above below : List Row} {row : Row} :
    Reveals (above ++ row :: below) above.length ↔
      firstHeader 0 true above = none ∧ opensBelow true above = false ∧
        isHeader (rowText row) = true := by
  have rowAt : Grid.row? (above ++ row :: below) above.length = some row := by simp [row?]
  constructor
  · rintro ⟨⟨other, otherAt, headed⟩, closed, first⟩
    rw [rowAt] at otherAt
    refine ⟨?_, opensBelow_eq_false_iff.mpr closed, Option.some.inj otherAt ▸ headed⟩
    cases above_eq : firstHeader 0 true above with
    | none => rfl
    | some index =>
        have := first index (by rw [header?, firstHeader_append, above_eq]; rfl)
        have := (bounds_of_firstHeader_eq_some above_eq).2
        omega
  · rintro ⟨headless, closed, headed⟩
    refine ⟨⟨row, rowAt, headed⟩, opensBelow_eq_false_iff.mp closed, ?_⟩
    intro index headed
    rw [header?, firstHeader_append, headless, closed, Option.none_or, firstHeader,
      Bool.false_and, if_neg (by simp)] at headed
    have := (bounds_of_firstHeader_eq_some headed).1
    omega

/-- The scan of a grid with a new row in it. -/
theorem header?_append_nil_cons (above below : List Row) :
    header? (above ++ [] :: below) =
      (firstHeader 0 true above).or ((firstHeader above.length true below).map (· + 1)) := by
  rw [header?, firstHeader_append, Nat.zero_add, firstHeader_nil_cons]

/-- A header that comes to count is the first one. -/
theorem header?_of_reveals {above below : List Row}
    (reveals : Reveals (above ++ below) above.length) :
    header? (above ++ [] :: below) = some (above.length + 1) := by
  cases below with
  | nil =>
      rcases reveals.header with ⟨row, rowAt, _⟩
      simp [row?] at rowAt
  | cons row rest =>
      obtain ⟨headless, _, headed⟩ := reveals_append_cons_iff.mp reveals
      rw [header?_append_nil_cons, headless, firstHeader, headed]
      rfl

/-- Otherwise the first header moves with its row. -/
theorem header?_of_not_reveals {above below : List Row}
    (hides : ¬ Reveals (above ++ below) above.length) :
    header? (above ++ [] :: below) =
      (header? (above ++ below)).map fun index =>
        if above.length ≤ index then index + 1 else index := by
  rw [header?_append_nil_cons, header?, firstHeader_append, Nat.zero_add]
  cases headed : firstHeader 0 true above with
  | some index =>
      have := (bounds_of_firstHeader_eq_some headed).2
      have stays : ¬ above.length ≤ index := by omega
      simp [stays]
  | none =>
      have same : firstHeader above.length (opensBelow true above) below =
          firstHeader above.length true below := by
        cases below with
        | nil => rfl
        | cons row rest =>
            cases opens : opensBelow true above with
            | true => rfl
            | false =>
                have plain : isHeader (rowText row) = false := by
                  rw [← Bool.not_eq_true]
                  exact fun header => hides (reveals_append_cons_iff.mpr ⟨headed, opens, header⟩)
                rw [firstHeader, firstHeader, plain, Bool.and_false, Bool.and_false]
      rw [same, Option.none_or, Option.none_or]
      cases lower : firstHeader above.length true below with
      | none => rfl
      | some index =>
          have moves := (bounds_of_firstHeader_eq_some lower).1
          simp [moves]

end Grid

namespace Edit

/-- Looked for from the start of a row, the next word moves with its row. -/
theorem nextWord_start_newRow {above below : List Row} {row : Nat} (upper : row ≤ above.length) :
    Grid.nextWord ((newRow above.length).apply (above ++ below)) ⟨row, 0⟩ =
      (Grid.nextWord (above ++ below) ⟨row, 0⟩).map (newRow above.length).displace := by
  have lower : Grid.seek above.length 0 ([] :: below) =
      (Grid.seek above.length 0 below).map fun found => found.shift 1 0 := by
    rw [← Grid.seek_succ]
    rfl
  have count : row + (above.drop row).length = above.length := by
    simp only [List.length_drop]
    omega
  rw [apply_newRow_append below rfl, Grid.nextWord_start, Grid.nextWord_start,
    List.drop_append_of_le_length upper, List.drop_append_of_le_length upper, Grid.seek_append,
    Grid.seek_append, count, lower]
  cases sought : Grid.seek row 0 (above.drop row) with
  | some found =>
      have := Grid.row_lt_of_seek_eq_some sought
      have stays : ¬ (above.length : Int) ≤ found.row := by omega
      simp [displace, stays]
  | none =>
      cases found_eq : Grid.seek above.length 0 below with
      | none => rfl
      | some found =>
          have moves := Grid.le_row_of_seek_eq_some found_eq
          simp [displace, moves]

/-- So does the next word below a header. -/
theorem nextWord_below_newRow (above below : List Row) (index : Nat) :
    Grid.nextWord ((newRow above.length).apply (above ++ below))
        ⟨((if above.length ≤ index then index + 1 else index) + 1 : Nat), 0⟩ =
      (Grid.nextWord (above ++ below) ⟨(index + 1 : Nat), 0⟩).map
        (newRow above.length).displace := by
  split
  · rename_i lower
    have applies : (newRow above.length).Applies (above ++ below) := by
      simp only [Applies, List.length_append]
      omega
    have precedes : (newRow above.length).Precedes ⟨(index + 1 : Nat), 0⟩ := by
      simp only [Precedes]
      omega
    have target : (newRow above.length).displace ⟨(index + 1 : Nat), 0⟩ =
        ⟨(index + 1 + 1 : Nat), 0⟩ :=
      if_pos precedes
    rw [← nextWord_displace applies precedes, target]
  · exact nextWord_start_newRow (by omega)

/-- A new row takes no two places to one. -/
theorem displace_newRow_injective (before : Int) :
    Function.Injective (newRow before).displace := by
  rintro ⟨row, col⟩ ⟨otherRow, otherCol⟩ same
  simp only [displace] at same
  split at same <;> split at same <;>
    simp only [Location.shift, Location.mk.injEq] at same ⊢ <;> omega

/-- A new row goes in between two parts of the grid. -/
theorem exists_append_of_newRow_applies {grid : Grid} {before : Int}
    (applies : (newRow before).Applies grid) :
    ∃ above below, grid = above ++ below ∧ before = above.length := by
  rcases applies with ⟨nonneg, le_length⟩
  refine ⟨grid.take before.toNat, grid.drop before.toNat, ?_, ?_⟩
  · rw [List.take_append_drop]
  · simp only [List.length_take]
    omega

end Edit

namespace Grid

variable {grid : Grid} {before : Int}

/-- After a new row that lets a header count, the entry point is the first word
below that header. -/
theorem entry_newRow_of_reveals (applies : (Edit.newRow before).Applies grid)
    (reveals : grid.Reveals before) :
    Grid.entry ((Edit.newRow before).apply grid) =
      (grid.nextWord ⟨before + 1, 0⟩).map (Edit.newRow before).displace := by
  obtain ⟨above, below, rfl, rfl⟩ := Edit.exists_append_of_newRow_applies applies
  have next := Edit.nextWord_below_newRow above below above.length
  rw [if_pos (Nat.le_refl _)] at next
  rw [entry_eq_bind, Edit.apply_newRow_append below rfl, header?_of_reveals reveals,
    Option.bind_some, ← Edit.apply_newRow_append below rfl, next]
  rfl

/-- After any other new row the entry point is where the row takes it. -/
theorem entry_newRow_of_not_reveals (applies : (Edit.newRow before).Applies grid)
    (hides : ¬ grid.Reveals before) :
    Grid.entry ((Edit.newRow before).apply grid) =
      grid.entry.map (Edit.newRow before).displace := by
  obtain ⟨above, below, rfl, rfl⟩ := Edit.exists_append_of_newRow_applies applies
  rw [entry_eq_bind, entry_eq_bind, Edit.apply_newRow_append below rfl,
    header?_of_not_reveals hides, ← Edit.apply_newRow_append below rfl]
  cases header? (above ++ below) with
  | none => rfl
  | some index => exact Edit.nextWord_below_newRow above below index

end Grid

end Palimpsest
