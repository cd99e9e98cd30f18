import Palimpsest.Proofs.Program.Request

/-!
# Mirroring

With immediate updates the view of a program shows its grid at every moment:
the cells of the buffer are the rows of the grid with one line break between
them. The invariant is kept because every edit touches a run of cells whose
position can be counted on the edited grid, and the rows above and below it are
the same before and after.
-/

namespace Palimpsest

/-! ## Cells above and below a row -/

namespace Grid

/-- The cells of rows that all have another row below them. -/
def marksAbove (rows : List Row) : List Mark :=
  rows.flatMap fun row => row.map .letter ++ [.newline]

/-- The cells of rows that all have another row above them. -/
def marksBelow (rows : List Row) : List Mark :=
  rows.flatMap fun row => .newline :: row.map .letter

theorem marks_cons_eq_append (row : Row) (rest : List Row) :
    marks (row :: rest) = row.map .letter ++ marksBelow rest := by
  induction rest generalizing row with
  | nil => simp [marks, marksBelow]
  | cons next others inductionHypothesis =>
      rw [marks_cons (by simp), inductionHypothesis]
      rfl

/-- The cells of a grid around one of its rows. -/
theorem marks_append_cons (above : List Row) (row : Row) (below : List Row) :
    marks (above ++ row :: below) = marksAbove above ++ (row.map .letter ++ marksBelow below) := by
  induction above with
  | nil => exact marks_cons_eq_append row below
  | cons first rest inductionHypothesis =>
      rw [List.cons_append, marks_cons (by simp), inductionHypothesis]
      simp [marksAbove]

/-- The position of a location is the number of cells above its row and of the
letters before it. -/
theorem flatOffset_append {row : Nat} (above below : List Row) (col : Nat)
    (row_eq : row = above.length) :
    flatOffset (above ++ below) row col = (marksAbove above).length + col := by
  subst row_eq
  rw [flatOffset, List.take_left]
  induction above with
  | nil => simp [marksAbove]
  | cons first rest inductionHypothesis =>
      rw [List.foldr_cons, inductionHypothesis]
      simp only [marksAbove, List.flatMap_cons, List.length_append, List.length_map,
        List.length_cons, List.length_nil]
      omega

/-- The cells that show a grid spell its text. -/
theorem flatMap_text_marks (grid : Grid) : (marks grid).flatMap Mark.text = grid.text := by
  have letters (row : Row) : (row.map Mark.letter).flatMap Mark.text = rowText row := by
    induction row with
    | nil => rfl
    | cons letter rest inductionHypothesis =>
        simp only [List.map_cons, List.flatMap_cons, inductionHypothesis]
        rfl
  unfold text
  induction grid with
  | nil => rfl
  | cons row rest inductionHypothesis =>
      cases rest with
      | nil => simp [marks, letters]
      | cons next others =>
          rw [marks_cons (by simp), List.flatMap_append, List.flatMap_cons, letters,
            inductionHypothesis]
          simp [Mark.text]

end Grid

/-- Exchanging a run of cells leaves what stands before and behind it. -/
theorem Buffer.spliceAt_append (front removed back marks : List Mark) {offset : Nat}
    (offset_eq : offset = front.length) :
    ((⟨front ++ (removed ++ back)⟩ : Buffer).spliceAt offset (some removed.length) marks).1 =
      ⟨front ++ (marks ++ back)⟩ := by
  subst offset_eq
  have start_eq : min front.length (front.length + (removed.length + back.length)) =
      front.length := by
    omega
  have stop_eq : min ((front.length : Int) + removed.length)
      ((front.length + (removed.length + back.length) : Nat) : Int) =
        ((front.length + removed.length : Nat) : Int) := by
    omega
  have kept_eq (size : Nat) : keptFrom size front.length
      ((front.length + removed.length : Nat) : Int) = front.length + removed.length := by
    unfold keptFrom
    have : ¬ ((front.length + removed.length : Nat) : Int) < 0 := by omega
    rw [if_neg this]
    simp only [Int.toNat_natCast]
    omega
  simp only [spliceAt, Buffer.size, List.length_append, start_eq, stop_eq, kept_eq,
    List.take_left', List.drop_length_add_append, List.drop_left', List.append_assoc]

namespace Program

/-- The view of a program shows its grid, and every edit is repeated on it. -/
structure Mirrored (program : Program) : Prop where
  immediate : program.immediate = true
  hasRows : program.grid ≠ []
  cells : program.view.cells = program.grid.marks

theorem mirrored_ofBuffer (buffer : Buffer) : (ofBuffer buffer true).Mirrored where
  immediate := rfl
  hasRows := Buffer.rowsOf_ne_nil buffer.cells
  cells := (Grid.marks_rowsOf buffer.cells).symm

/-- With immediate updates an edit exchanges a run of cells of the view. -/
theorem Mirrored.repeatOnView {program : Program} (mirrored : program.Mirrored)
    {front removed back : List Mark} (marks : List Mark) {offset deleted : Nat}
    (cells_eq : program.grid.marks = front ++ (removed ++ back))
    (offset_eq : offset = front.length) (deleted_eq : deleted = removed.length) :
    (program.repeatOnView offset deleted marks).1.cells = front ++ (marks ++ back) := by
  have view_eq : program.view = ⟨front ++ (removed ++ back)⟩ := by
    rw [← cells_eq, ← mirrored.cells]
  rw [Program.repeatOnView, if_pos mirrored.immediate, view_eq, deleted_eq]
  simp only [Buffer.spliceAt_append front removed back marks offset_eq]

/-! ## What every request keeps -/

private theorem Mirrored.replace [Cluster.Splitter] {program : Program}
    (mirrored : program.Mirrored) {location : Location} {length : Int} {text : Text}
    {revision : Revision} (accepted : program.replace location length text = .ok revision) :
    revision.program.Mirrored := by
  obtain ⟨line, deleted, found, col_nonneg, col_le, deleted_eq, spelled⟩ := replace_eq_ok accepted
  obtain ⟨above, below, grid_eq, row_eq⟩ := Grid.exists_append_of_row?_eq_some found
  -- The rows above and below the edited one are the same before and after.
  have edited : (Edit.exchange location deleted (Cluster.split text)).apply program.grid =
      above ++ Grid.exchange line location.col.toNat deleted (Cluster.split text) :: below := by
    rw [grid_eq, Edit.apply_exchange_append deleted (Cluster.split text) line below row_eq]
  obtain ⟨_, program_eq⟩ := spelled _ edited.symm
  have cut : line = line.take location.col.toNat ++
      ((line.drop location.col.toNat).take deleted ++
        line.drop (location.col.toNat + deleted)) := by
    rw [← List.drop_drop, List.take_append_drop, List.take_append_drop]
  have cells : program.grid.marks =
      (Grid.marksAbove above ++ (line.take location.col.toNat).map .letter) ++
        (((line.drop location.col.toNat).take deleted).map .letter ++
          ((line.drop (location.col.toNat + deleted)).map .letter ++ Grid.marksBelow below)) := by
    rw [grid_eq, Grid.marks_append_cons]
    conv_lhs => rw [cut]
    simp only [List.map_append, List.append_assoc]
  have offset : (Grid.flatOffset (above ++
      Grid.exchange line location.col.toNat deleted (Cluster.split text) :: below)
        location.row.toNat location.col.toNat) =
      (Grid.marksAbove above ++ (line.take location.col.toNat).map Mark.letter).length := by
    rw [Grid.flatOffset_append above _ _ (by omega)]
    simp only [List.length_append, List.length_map, List.length_take]
    omega
  have removed :
      deleted = (((line.drop location.col.toNat).take deleted).map Mark.letter).length := by
    simp only [List.length_map, List.length_take, List.length_drop]
    omega
  rw [program_eq]
  refine ⟨mirrored.immediate, by simp, ?_⟩
  rw [mirrored.repeatOnView _ cells offset removed, Grid.marks_append_cons, Grid.exchange]
  simp only [List.map_append, List.append_assoc]

private theorem Mirrored.addLine {program : Program} (mirrored : program.Mirrored)
    {before : Int} {revision : Revision} (accepted : program.addLine before = .ok revision) :
    revision.program.Mirrored := by
  obtain ⟨nonneg, le_length, spelled⟩ := addLine_eq_ok accepted
  have nothing : 0 = ([] : List Mark).length := rfl
  by_cases last : before.toNat = program.grid.length
  · -- Below the last row the break is put in behind all cells.
    obtain ⟨above, line, grid_eq⟩ :=
      (List.eq_nil_or_concat' program.grid).resolve_left mirrored.hasRows
    have edited : (Edit.newRow before).apply program.grid = above ++ line :: [[]] := by
      have before_eq : before = (above ++ [line]).length := by
        rw [← grid_eq]
        omega
      rw [grid_eq]
      simpa using Edit.apply_newRow_append [] before_eq
    obtain ⟨_, program_eq⟩ := spelled _ edited.symm
    have row_eq : before.toNat - 1 = above.length := by
      rw [last, grid_eq]
      simp
    have cells : program.grid.marks =
        (Grid.marksAbove above ++ line.map .letter) ++ ([] ++ []) := by
      rw [grid_eq, Grid.marks_append_cons]
      simp [Grid.marksBelow]
    have offset : Grid.flatOffset (above ++ line :: [[]]) (before.toNat - 1)
        (((above ++ line :: [[]])[before.toNat - 1]?).getD []).length =
          (Grid.marksAbove above ++ line.map Mark.letter).length := by
      rw [Grid.flatOffset_append above _ _ row_eq, row_eq]
      simp
    rw [program_eq]
    refine ⟨mirrored.immediate, by simp, ?_⟩
    simp only [if_pos last]
    rw [mirrored.repeatOnView _ cells offset nothing, Grid.marks_append_cons]
    simp [Grid.marksBelow]
  · -- Elsewhere it is put in before the cells of the row that moves down.
    have row_lt : before.toNat < program.grid.length := by omega
    obtain ⟨above, below, grid_eq, before_eq⟩ := Grid.exists_append_of_row?_eq_some
      (Grid.row?_eq_some_iff.mpr ⟨nonneg, List.getElem?_eq_getElem row_lt⟩)
    generalize program.grid[before.toNat] = line at grid_eq
    have edited : (Edit.newRow before).apply program.grid = above ++ [] :: line :: below := by
      rw [grid_eq, Edit.apply_newRow_append _ before_eq]
    obtain ⟨_, program_eq⟩ := spelled _ edited.symm
    have cells : program.grid.marks =
        Grid.marksAbove above ++ ([] ++ (line.map .letter ++ Grid.marksBelow below)) := by
      rw [grid_eq, Grid.marks_append_cons, List.nil_append]
    have offset : Grid.flatOffset (above ++ [] :: line :: below) before.toNat 0 =
        (Grid.marksAbove above).length := by
      rw [Grid.flatOffset_append above _ _ (by omega), Nat.add_zero]
    rw [program_eq]
    refine ⟨mirrored.immediate, by simp, ?_⟩
    simp only [if_neg last]
    rw [mirrored.repeatOnView _ cells offset nothing, Grid.marks_append_cons]
    simp [Grid.marksBelow]

/-- Every accepted request keeps the view in step. -/
theorem Mirrored.revise [Cluster.Splitter] {program : Program} (mirrored : program.Mirrored)
    {request : Request} {revision : Revision} (accepted : request.revise program = .ok revision) :
    revision.program.Mirrored := by
  cases request with
  | replace location length text => exact mirrored.replace accepted
  | addLine before => exact mirrored.addLine accepted

theorem Mirrored.afterAll [Cluster.Splitter] {program : Program} (mirrored : program.Mirrored)
    (requests : List Request) : (program.afterAll requests).Mirrored :=
  afterAll_induction mirrored (fun kept accepted => kept.revise accepted) requests

/-! ## What readers of the view see -/

theorem view_text_eq {program : Program} (cells : program.view.cells = program.grid.marks) :
    program.view.text = program.text := by
  rw [Buffer.text, cells, Grid.flatMap_text_marks]
  rfl

/-- Redrawing gives a view that shows the grid. -/
@[simp]
theorem cells_updateView (program : Program) :
    program.updateView.1.view.cells = program.grid.marks := by
  have all : Buffer.keptFrom program.view.size 0 program.view.size = program.view.size := by
    unfold Buffer.keptFrom
    rw [if_neg (by omega)]
    simp
  simp only [updateView, Buffer.spliceAt, Nat.zero_min, all, List.take_zero, List.nil_append]
  simp [Buffer.size]

theorem updateView_eq_self {program : Program}
    (cells : program.view.cells = program.grid.marks) : program.updateView.1 = program := by
  have view_eq : program.updateView.1.view = program.view := by
    have := cells_updateView program
    rw [← cells] at this
    exact congrArg Buffer.mk this
  calc
    program.updateView.1 = { program with view := program.updateView.1.view } := rfl
    _ = program := by rw [view_eq]

/-- With immediate updates the view of a program shows its grid after any
requests, accepted or refused, with any arguments: its cells are the rows with
a line break between them. So it spells the text of the program, it has the
rows of the grid, and redrawing it changes nothing. -/
theorem view_shows_grid_afterAll [Cluster.Splitter] (buffer : Buffer) (requests : List Request) :
    ((ofBuffer buffer true).afterAll requests).view.cells =
        ((ofBuffer buffer true).afterAll requests).grid.marks ∧
      ((ofBuffer buffer true).afterAll requests).view.text =
        ((ofBuffer buffer true).afterAll requests).text ∧
      ((ofBuffer buffer true).afterAll requests).view.rows =
        ((ofBuffer buffer true).afterAll requests).grid ∧
      ((ofBuffer buffer true).afterAll requests).updateView.1 =
        (ofBuffer buffer true).afterAll requests := by
  have mirrored := (mirrored_ofBuffer buffer).afterAll requests
  refine ⟨mirrored.cells, view_text_eq mirrored.cells, ?_, updateView_eq_self mirrored.cells⟩
  rw [Buffer.rows, mirrored.cells]
  exact Grid.rowsOf_marks mirrored.hasRows

end Program

end Palimpsest
