import Palimpsest.Program
import Palimpsest.Proofs.Grid.Displacement

/-!
# Requests

A program is changed by requests only: to replace letters at a location, or to
add a row. A request with senseless arguments is refused and changes nothing.
One that is accepted comes to an edit of the grid, which depends on the grid
alone; the view and the remembered entry point never have a say in it. What
every accepted request keeps is kept by every list of requests.
-/

namespace Palimpsest

/-- What can be asked of a program. -/
inductive Request
  /-- Exchange letters at a location for those of a text. -/
  | replace (location : Location) (length : Int) (text : Text)
  /-- Put in an empty row before the row with the given number. -/
  | addLine (before : Int)
  deriving DecidableEq, Repr

namespace Request

/-- Carry out a request. -/
def revise [Cluster.Splitter] (request : Request) (program : Program) : Except Failure Revision :=
  match request with
  | .replace location length text => program.replace location length text
  | .addLine before => program.addLine before

/-- The edit that a request comes to on a grid, unless it is refused there. No
more letters are exchanged than the row has. -/
def edit? [Cluster.Splitter] (request : Request) (grid : Grid) : Option Edit :=
  match request with
  | .replace location length text =>
    match grid.row? location.row with
    | none => none
    | some line =>
      if 0 ≤ location.col ∧ location.col ≤ line.length then
        some (.exchange location (min length.toNat (line.length - location.col.toNat))
          (Cluster.split text))
      else none
  | .addLine before =>
    if 0 ≤ before ∧ before ≤ grid.length then some (.newRow before) else none

end Request

namespace Program

/-- The program after a request, whether it is accepted or refused. -/
def after [Cluster.Splitter] (program : Program) (request : Request) : Program :=
  match request.revise program with
  | .ok revision => revision.program
  | .error _ => program

/-- The program after a list of requests. -/
def afterAll [Cluster.Splitter] (program : Program) (requests : List Request) : Program :=
  requests.foldl after program

@[simp]
theorem afterAll_nil [Cluster.Splitter] (program : Program) : program.afterAll [] = program :=
  rfl

theorem afterAll_append [Cluster.Splitter] (program : Program) (first second : List Request) :
    program.afterAll (first ++ second) = (program.afterAll first).afterAll second :=
  List.foldl_append

/-- What holds at the beginning and is kept by every accepted request holds
after any requests. -/
theorem afterAll_induction [Cluster.Splitter] {motive : Program → Prop} {program : Program}
    (initial : motive program)
    (kept : ∀ {before : Program} {request : Request} {revision : Revision},
      motive before → request.revise before = .ok revision → motive revision.program)
    (requests : List Request) : motive (program.afterAll requests) := by
  induction requests generalizing program with
  | nil => exact initial
  | cons request rest inductionHypothesis =>
      apply inductionHypothesis
      unfold after
      split
      · rename_i revision accepted
        exact kept initial accepted
      · exact initial

/-! ## Accepted requests -/

/-- The grid after a replacement is the edited grid. -/
private theorem set_eq_apply {grid : Grid} {location : Location} {line : Row} (deleted : Nat)
    (letters : List Letter) (found : grid.row? location.row = some line) :
    grid.set location.row.toNat (Grid.exchange line location.col.toNat deleted letters) =
      (Edit.exchange location deleted letters).apply grid := by
  rcases Grid.row?_eq_some_iff.mp found with ⟨_, lineAt⟩
  rcases List.getElem?_eq_some_iff.mp lineAt with ⟨row_lt, rfl⟩
  rw [Edit.apply, List.modify_eq_take_cons_drop row_lt, List.set_eq_take_append_cons_drop,
    if_pos row_lt]

/-- An accepted replacement, spelled out. -/
theorem replace_eq_ok [Cluster.Splitter] {program : Program} {location : Location} {length : Int}
    {text : Text} {revision : Revision}
    (accepted : program.replace location length text = .ok revision) :
    ∃ line deleted, program.grid.row? location.row = some line ∧ 0 ≤ location.col ∧
      location.col ≤ line.length ∧
      deleted = min length.toNat (line.length - location.col.toNat) ∧
      ∀ grid, grid = (Edit.exchange location deleted (Cluster.split text)).apply program.grid →
        revision.inserted = (Cluster.split text).length ∧
        revision.program = {
          grid := grid
          view := (program.repeatOnView
            (grid.flatOffset location.row.toNat location.col.toNat) deleted
            ((Cluster.split text).map .letter)).1
          immediate := program.immediate
          entry := entryAfterEdit program.entry location.row grid } := by
  unfold replace at accepted
  split at accepted
  · contradiction
  · rename_i line found
    split at accepted
    · rename_i inside
      refine ⟨line, _, found, inside.1, inside.2, rfl, ?_⟩
      rintro grid rfl
      rw [← set_eq_apply _ _ found]
      rw [← Except.ok.inj accepted]
      exact ⟨rfl, rfl⟩
    · contradiction

/-- An accepted new row, spelled out. -/
theorem addLine_eq_ok {program : Program} {before : Int} {revision : Revision}
    (accepted : program.addLine before = .ok revision) :
    0 ≤ before ∧ before ≤ program.grid.length ∧
      ∀ grid, grid = (Edit.newRow before).apply program.grid →
        revision.inserted = 0 ∧
        revision.program = {
          grid := grid
          view := (program.repeatOnView
            (if before.toNat = program.grid.length then
              grid.flatOffset (before.toNat - 1) (((grid[before.toNat - 1]?).getD []).length)
            else grid.flatOffset before.toNat 0) 0 [.newline]).1
          immediate := program.immediate
          entry := program.entry.map fun location =>
            if before ≤ location.row then location.shift 1 0 else location } := by
  unfold addLine at accepted
  split at accepted
  · rename_i inside
    refine ⟨inside.1, inside.2, ?_⟩
    rintro grid rfl
    rw [← Except.ok.inj accepted]
    exact ⟨rfl, rfl⟩
  · contradiction

end Program

namespace Request

/-- The letters that a request puts in are the clusters of a text. -/
theorem exists_text_of_edit?_eq [Cluster.Splitter] {request : Request} {grid : Grid}
    {place : Location} {deleted : Nat} {letters : List Letter}
    (edit_eq : request.edit? grid = some (.exchange place deleted letters)) :
    ∃ length text, request = .replace place length text ∧ letters = Cluster.split text := by
  cases request with
  | replace location length text =>
      simp only [edit?] at edit_eq
      split at edit_eq
      · cases edit_eq
      · split at edit_eq
        · cases edit_eq
          exact ⟨length, text, rfl, rfl⟩
        · cases edit_eq
  | addLine before =>
      simp only [edit?] at edit_eq
      split at edit_eq
      · cases edit_eq
      · cases edit_eq

/-- An accepted request comes to an edit of the grid and leaves the update mode
as it is. -/
theorem edit?_of_revise_eq_ok [Cluster.Splitter] {request : Request} {program : Program}
    {revision : Revision} (accepted : request.revise program = .ok revision) :
    ∃ edit, request.edit? program.grid = some edit ∧ edit.Applies program.grid ∧
      revision.program.grid = edit.apply program.grid ∧
      revision.program.immediate = program.immediate := by
  cases request with
  | replace location length text =>
      obtain ⟨line, deleted, found, col_nonneg, col_le, deleted_eq, spelled⟩ :=
        Program.replace_eq_ok accepted
      obtain ⟨_, program_eq⟩ := spelled _ rfl
      refine ⟨.exchange location deleted (Cluster.split text), ?_, ?_, ?_, ?_⟩
      · simp [edit?, found, col_nonneg, col_le, deleted_eq]
      · refine ⟨line, found, col_nonneg, ?_⟩
        omega
      · rw [program_eq]
      · rw [program_eq]
  | addLine before =>
      obtain ⟨nonneg, le_length, spelled⟩ := Program.addLine_eq_ok accepted
      obtain ⟨_, program_eq⟩ := spelled _ rfl
      refine ⟨.newRow before, ?_, ⟨nonneg, le_length⟩, ?_, ?_⟩
      · simp [edit?, nonneg, le_length]
      · rw [program_eq]
      · rw [program_eq]

end Request

end Palimpsest
