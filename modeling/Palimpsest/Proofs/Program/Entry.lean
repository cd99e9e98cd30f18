import Palimpsest.Cluster.Unicode
import Palimpsest.Proofs.Grid.Entry
import Palimpsest.Proofs.Program.Request

/-!
# The remembered entry point

A program remembers its entry point. Replacements look it up again unless they
take place below it, and that is exact: after any replacements the remembered
entry point is the one that a scan of the grid finds. New rows never look it up,
they only move it, and that is exact as long as the new row does not let a header
count that did not count before. In any case what is remembered is a letter of a
word.
-/

namespace Palimpsest.Program

/-- The remembered entry point is the one that a scan of the grid finds. -/
def EntryCurrent (program : Program) : Prop :=
  program.entry = program.grid.entry

/-! ## Replacements -/

/-- An edit below the entry point cannot move it. -/
theorem EntryCurrent.entryAfterEdit_eq {program : Program} (current : program.EntryCurrent)
    {above below : List Row} {line edited : Row} {row : Int}
    (grid_eq : program.grid = above ++ line :: below) (row_eq : row = above.length) :
    entryAfterEdit program.entry row (above ++ edited :: below) =
      Grid.entry (above ++ edited :: below) := by
  unfold EntryCurrent at current
  cases remembered : program.entry with
  | none => rfl
  | some location =>
      simp only [entryAfterEdit]
      split
      · rfl
      · rename_i belowEntry
        rw [current, grid_eq] at remembered
        exact (Grid.entry_append_of_lt _ remembered (by omega)).symm

theorem EntryCurrent.replace [Cluster.Splitter] {program : Program} (current : program.EntryCurrent)
    {location : Location} {length : Int} {text : Text} {revision : Revision}
    (accepted : program.replace location length text = .ok revision) :
    revision.program.EntryCurrent := by
  obtain ⟨line, deleted, found, _, _, _, spelled⟩ := replace_eq_ok accepted
  obtain ⟨above, below, grid_eq, row_eq⟩ := Grid.exists_append_of_row?_eq_some found
  have edited : (Edit.exchange location deleted (Cluster.split text)).apply program.grid =
      above ++ Grid.exchange line location.col.toNat deleted (Cluster.split text) :: below := by
    rw [grid_eq, Edit.apply_exchange_append deleted (Cluster.split text) line below row_eq]
  obtain ⟨_, program_eq⟩ := spelled _ edited.symm
  rw [program_eq]
  exact current.entryAfterEdit_eq grid_eq row_eq

theorem EntryCurrent.after_replace [Cluster.Splitter] {program : Program}
    (current : program.EntryCurrent) (location : Location) (length : Int) (text : Text) :
    (program.after (.replace location length text)).EntryCurrent := by
  unfold after
  split
  · rename_i accepted
    exact current.replace accepted
  · exact current

/-- After any replacements, accepted or refused, the entry point that a program
remembers is the one that a scan of its grid finds. -/
theorem entry_eq_scan_after_replacements [Cluster.Splitter] (buffer : Buffer) (immediate : Bool)
    (replacements : List (Location × Int × Text)) :
    ((ofBuffer buffer immediate).afterAll (replacements.map fun (location, length, text) =>
        .replace location length text)).entry =
      ((ofBuffer buffer immediate).afterAll (replacements.map fun (location, length, text) =>
        .replace location length text)).grid.entry := by
  have current : (ofBuffer buffer immediate).EntryCurrent := rfl
  revert current
  generalize ofBuffer buffer immediate = program
  intro current
  induction replacements generalizing program with
  | nil => exact current
  | cons replacement rest inductionHypothesis =>
      exact inductionHypothesis _ (current.after_replace _ _ _)

/-! ## New rows -/

/-- A new row takes the remembered entry point with it. -/
theorem entry_of_addLine_eq_ok {program : Program} {before : Int} {revision : Revision}
    (accepted : program.addLine before = .ok revision) :
    (Edit.newRow before).Applies program.grid ∧
      revision.program.grid = (Edit.newRow before).apply program.grid ∧
      revision.program.entry = program.entry.map (Edit.newRow before).displace := by
  obtain ⟨nonneg, le_length, spelled⟩ := addLine_eq_ok accepted
  obtain ⟨_, program_eq⟩ := spelled _ rfl
  rw [program_eq]
  exact ⟨⟨nonneg, le_length⟩, rfl, rfl⟩

/-- After a new row the remembered entry point is the one that a scan finds,
except when the row lets a header count that did not count before and the first
word below that header is another one than the entry point. -/
theorem entry_eq_scan_after_addLine_iff {program : Program} {before : Int} {revision : Revision}
    (current : program.entry = program.grid.entry)
    (accepted : program.addLine before = .ok revision) :
    revision.program.entry = revision.program.grid.entry ↔
      (program.grid.Reveals before →
        program.grid.nextWord ⟨before + 1, 0⟩ = program.grid.entry) := by
  obtain ⟨applies, grid_eq, entry_eq⟩ := entry_of_addLine_eq_ok accepted
  rw [grid_eq, entry_eq, current]
  by_cases reveals : program.grid.Reveals before
  · rw [Grid.entry_newRow_of_reveals applies reveals,
      (Option.map_injective (Edit.displace_newRow_injective before)).eq_iff]
    constructor
    · intro same _
      exact same.symm
    · intro same
      exact (same reveals).symm
  · rw [Grid.entry_newRow_of_not_reveals applies reveals]
    exact ⟨fun _ revealed => absurd revealed reveals, fun _ => rfl⟩

theorem entry_eq_scan_after_addLine_above_header :
    let program := Program.load "x\n-- volute\n\n-- volute\nh".toList false
    program.entry = some ⟨4, 0⟩ ∧ (program.after (.addLine 3)).entry = some ⟨5, 0⟩ ∧
      (program.after (.addLine 3)).entry = (program.after (.addLine 3)).grid.entry := by
  intro program
  have accepted : ∃ revision, program.addLine 3 = .ok revision ∧
      program.after (.addLine 3) = revision.program :=
    ⟨_, rfl, rfl⟩
  obtain ⟨revision, accepted, after_eq⟩ := accepted
  refine ⟨by decide +kernel, by decide +kernel, ?_⟩
  rw [after_eq]
  apply (entry_eq_scan_after_addLine_iff (by decide +kernel) accepted).mpr
  intro reveals
  exact absurd reveals (by decide +kernel)

/-- The second row is a header below a row with letters. A new row between the
two lets it count, but the program keeps to the header further down, or goes on
without an entry point. -/
theorem new_row_reveals_header_unnoticed :
    let headed := Program.load "x\n-- volute\n\n-- volute\nh".toList false
    let headless := Program.load "x\n-- volute\nh".toList false
    (headed.entry = headed.grid.entry ∧
      (headed.after (.addLine 1)).grid.text = "x\n\n-- volute\n\n-- volute\nh".toList ∧
      (headed.after (.addLine 1)).entry = some ⟨5, 0⟩ ∧
      (headed.after (.addLine 1)).grid.entry = some ⟨4, 0⟩) ∧
    (headless.entry = headless.grid.entry ∧
      (headless.after (.addLine 1)).grid.text = "x\n\n-- volute\nh".toList ∧
      (headless.after (.addLine 1)).entry = none ∧
      (headless.after (.addLine 1)).grid.entry = some ⟨3, 0⟩) := by
  decide +kernel

/-! ## Words at the entry point -/

/-- The remembered entry point is a good place in its row. -/
def EntersAt (good : Row → Int → Prop) (program : Program) : Prop :=
  ∀ entry, program.entry = some entry →
    ∃ line, program.grid.row? entry.row = some line ∧ good line entry.col

section EntersAt

variable {good : Row → Int → Prop} {program : Program} {revision : Revision}

private theorem EntersAt.replace [Cluster.Splitter]
    (scanned : ∀ {grid : Grid} {entry : Location}, grid.entry = some entry →
      ∃ line, grid.row? entry.row = some line ∧ good line entry.col)
    (enters : program.EntersAt good)
    {location : Location} {length : Int} {text : Text}
    (accepted : program.replace location length text = .ok revision) :
    revision.program.EntersAt good := by
  obtain ⟨line, deleted, found, _, _, _, spelled⟩ := replace_eq_ok accepted
  obtain ⟨_, program_eq⟩ := spelled _ rfl
  have row_nonneg := (Grid.row?_eq_some_iff.mp found).1
  rw [program_eq]
  intro entry entered
  simp only at entered ⊢
  cases remembered : program.entry with
  | none =>
      rw [remembered] at entered
      exact scanned entered
  | some old =>
      rw [remembered] at entered
      simp only [entryAfterEdit] at entered
      split at entered
      · exact scanned entered
      · -- The edit is in another row.
        rename_i belowEntry
        cases entered
        rw [Edit.row?_apply_exchange_of_ne row_nonneg (by omega)]
        exact enters entry remembered

private theorem EntersAt.addLine (enters : program.EntersAt good) {before : Int}
    (accepted : program.addLine before = .ok revision) : revision.program.EntersAt good := by
  obtain ⟨⟨nonneg, le_length⟩, grid_eq, entry_eq⟩ := entry_of_addLine_eq_ok accepted
  intro entry entered
  rw [entry_eq] at entered
  rcases Option.map_eq_some_iff.mp entered with ⟨old, remembered, rfl⟩
  obtain ⟨line, lineAt, holds⟩ := enters old remembered
  refine ⟨line, ?_, ?_⟩
  · rw [grid_eq, ← lineAt]
    simp only [Edit.displace]
    split
    · rename_i below
      exact Edit.row?_apply_newRow_succ nonneg le_length below
    · rename_i above
      exact Edit.row?_apply_newRow_of_lt le_length (by omega)
  · simp only [Edit.displace]
    split
    · simpa using holds
    · exact holds

/-- What is true in the row of every entry point that a scan finds stays true of
the remembered one: its row is left alone unless the grid is scanned again. -/
theorem EntersAt.revise [Cluster.Splitter]
    (scanned : ∀ {grid : Grid} {entry : Location}, grid.entry = some entry →
      ∃ line, grid.row? entry.row = some line ∧ good line entry.col)
    (enters : program.EntersAt good) {request : Request}
    (accepted : request.revise program = .ok revision) : revision.program.EntersAt good := by
  cases request with
  | replace location length text => exact enters.replace scanned accepted
  | addLine before => exact enters.addLine accepted

end EntersAt

/-- The remembered entry point is a letter of a word. -/
def EntersInk (program : Program) : Prop :=
  ∀ entry, program.entry = some entry → program.grid.HasInk entry

theorem entersInk_ofBuffer (buffer : Buffer) (immediate : Bool) :
    (ofBuffer buffer immediate).EntersInk :=
  fun _ entered => Grid.hasInk_of_entry_eq_some entered

theorem entersInk_iff {program : Program} :
    program.EntersInk ↔ program.EntersAt Grid.InkAt := by
  unfold EntersInk EntersAt
  simp only [Grid.hasInk_iff]

/-- Every accepted request keeps the entry point on a letter of a word. -/
theorem EntersInk.revise [Cluster.Splitter] {program : Program} (enters : program.EntersInk)
    {request : Request} {revision : Revision} (accepted : request.revise program = .ok revision) :
    revision.program.EntersInk := by
  rw [entersInk_iff] at enters ⊢
  apply enters.revise _ accepted
  intro grid entry entered
  exact Grid.hasInk_iff.mp (Grid.hasInk_of_entry_eq_some entered)

theorem EntersInk.afterAll [Cluster.Splitter] {program : Program} (enters : program.EntersInk)
    (requests : List Request) : (program.afterAll requests).EntersInk :=
  afterAll_induction enters (fun kept accepted => kept.revise accepted) requests

end Palimpsest.Program
