import Palimpsest.Proofs.Grid.Words
import Palimpsest.Proofs.Program.Entry

/-!
# Click handlers

The entry point that a program remembers may be another one than a scan of its
grid finds, but it always begins a row: only blanks stand before it. The walk
for click handlers therefore starts at the beginning of a maximal word, whatever
has been done to the program, and finds exactly the maximal words from there on
that begin with the lead of a handler.
-/

namespace Palimpsest

namespace Grid

variable {grid : Grid} {location entry : Location}

/-- The first letter of its row that is part of a word stands at the location. -/
def OpensRow (grid : Grid) (location : Location) : Prop :=
  grid.HasInk location ∧ ∀ col, col < location.col → ¬ grid.HasInk ⟨location.row, col⟩

theorem OpensRow.startsWord (opens : grid.OpensRow location) : grid.StartsWord location := by
  refine ⟨opens.1, ?_⟩
  have earlier := opens.2 (location.col - 1) (by omega)
  simpa [Location.right, Location.shift, Int.sub_eq_add_neg] using earlier

/-- Before the first letter of a word its row has blanks. -/
theorem OpensRow.exists_blank (opens : grid.OpensRow location) {col : Int} (col_nonneg : 0 ≤ col)
    (before : col < location.col) :
    ∃ letter, grid.letter? ⟨location.row, col⟩ = some letter ∧ isInk letter = false := by
  rcases hasInk_iff.mp opens.1 with ⟨row, rowAt, _, _, letterAt, _⟩
  rcases List.getElem?_eq_some_iff.mp letterAt with ⟨col_lt, _⟩
  have inside : col.toNat < row.length := by omega
  have found : grid.letter? ⟨location.row, col⟩ = some row[col.toNat] :=
    letter?_eq_some_iff.mpr ⟨row, rowAt, col_nonneg, List.getElem?_eq_getElem inside⟩
  refine ⟨row[col.toNat], found, ?_⟩
  rw [← Bool.not_eq_true]
  intro inked
  exact opens.2 col before ⟨_, found, inked⟩

/-- Looked for from the start of a row, the next word begins its row. -/
theorem opensRow_of_nextWord_eq_some {row : Int}
    (next : grid.nextWord ⟨row, 0⟩ = some location) : grid.OpensRow location := by
  obtain ⟨ink, leads, first⟩ := nextWord_eq_some_iff.mp next
  refine ⟨ink, ?_⟩
  intro col before earlier
  have col_nonneg : 0 ≤ col := earlier.nonneg.2
  have behind : (⟨row, 0⟩ : Location).Leads ⟨location.row, col⟩ := by
    simp only [Location.Leads] at leads ⊢
    omega
  have back := first _ earlier behind
  simp only [Location.Leads] at back
  omega

theorem opensRow_of_entry_eq_some (entered : grid.entry = some entry) : grid.OpensRow entry := by
  rw [entry_eq_bind] at entered
  rcases Option.bind_eq_some_iff.mp entered with ⟨index, _, next⟩
  exact opensRow_of_nextWord_eq_some next

/-- A column of a row is the first one with a letter of a word. -/
def FirstInkAt (line : Row) (col : Int) : Prop :=
  InkAt line col ∧ ∀ earlier, earlier < col → ¬ InkAt line earlier

theorem opensRow_iff :
    grid.OpensRow location ↔
      ∃ line, grid.row? location.row = some line ∧ FirstInkAt line location.col := by
  unfold OpensRow
  simp only [hasInk_iff]
  constructor
  · rintro ⟨⟨line, lineAt, inked⟩, first⟩
    refine ⟨line, lineAt, inked, ?_⟩
    intro earlier before inkedEarlier
    exact first earlier before ⟨line, lineAt, inkedEarlier⟩
  · rintro ⟨line, lineAt, inked, first⟩
    refine ⟨⟨line, lineAt, inked⟩, ?_⟩
    rintro earlier before ⟨other, otherAt, inkedEarlier⟩
    rw [lineAt] at otherAt
    cases otherAt
    exact first earlier before inkedEarlier

end Grid

namespace Program

/-- The remembered entry point begins its row. -/
theorem opensRow_entry_afterAll [Cluster.Splitter] (buffer : Buffer) (immediate : Bool)
    (requests : List Request) {entry : Location}
    (entered : ((ofBuffer buffer immediate).afterAll requests).entry = some entry) :
    ((ofBuffer buffer immediate).afterAll requests).grid.OpensRow entry := by
  have scanned : ∀ {grid : Grid} {found : Location}, grid.entry = some found →
      ∃ line, grid.row? found.row = some line ∧ Grid.FirstInkAt line found.col :=
    fun found => Grid.opensRow_iff.mp (Grid.opensRow_of_entry_eq_some found)
  have initial : (ofBuffer buffer immediate).EntersAt Grid.FirstInkAt :=
    fun _ found => scanned found
  have kept := afterAll_induction initial
    (fun enters accepted => enters.revise scanned accepted) requests
  exact Grid.opensRow_iff.mpr (kept entry entered)

/-- Whatever has been asked of a program, its entry point, if there is one, is a
letter of a word with nothing but blanks before it in its row. The walk from
there over the words comes to an end, and the click handlers are, in reading
order and each once, the places of the maximal words from the entry point on
whose text begins with the lead of a handler; without an entry point there are
none. -/
theorem click_handlers_are_words_from_entry [Cluster.Splitter] (buffer : Buffer) (immediate : Bool)
    (requests : List Request) :
    let program := (ofBuffer buffer immediate).afterAll requests
    (∀ entry, program.entry = some entry →
      program.grid.HasInk entry ∧
        ∀ col, 0 ≤ col → col < entry.col →
          ∃ letter, program.grid.letter? ⟨entry.row, col⟩ = some letter ∧
            Grid.isInk letter = false) ∧
    program.grid.Visits program.entry (program.grid.wordsFrom program.entry) ∧
    (∀ location, location ∈ program.clickHandlers ↔
      ∃ entry word, program.entry = some entry ∧ entry.Leads location ∧
        program.grid.IsWord location word ∧ Grid.clickLead <+: word.text) ∧
    program.clickHandlers.Pairwise Location.Before ∧
    (program.entry = none → program.clickHandlers = []) := by
  intro program
  have opens : ∀ entry, program.entry = some entry → program.grid.OpensRow entry :=
    fun _ entered => opensRow_entry_afterAll buffer immediate requests entered
  have starts : ∀ entry, program.entry = some entry → program.grid.StartsWord entry :=
    fun entry entered => (opens entry entered).startsWord
  have visits : program.grid.Visits program.entry (program.grid.wordsFrom program.entry) :=
    Grid.visits_wordsFrom fun entry entered => (opens entry entered).1
  refine ⟨?_, visits, ?_, ?_, ?_⟩
  · intro entry entered
    refine ⟨(opens entry entered).1, ?_⟩
    intro col col_nonneg before
    exact (opens entry entered).exists_blank col_nonneg before
  · intro location
    simp only [clickHandlers, Grid.clickHandlersFrom, List.mem_map, List.mem_filter,
      List.isPrefixOf_iff_prefix, visits.mem_iff starts]
    constructor
    · rintro ⟨⟨place, word⟩, ⟨⟨entry, entered, leads, isWord⟩, handles⟩, rfl⟩
      exact ⟨entry, word, entered, leads, isWord, handles⟩
    · rintro ⟨entry, word, entered, leads, isWord, handles⟩
      exact ⟨(location, word), ⟨⟨entry, entered, leads, isWord⟩, handles⟩, rfl⟩
  · exact ((visits.pairwise_before starts).filter _).map Prod.fst fun _ _ before => before
  · intro nowhere
    rw [clickHandlers, nowhere]
    rfl

end Program

end Palimpsest
