import Mathlib.Data.List.Sort
import Palimpsest.Proofs.Program.ClickHandlers

/-!
# Searching and the list of words

The words of a grid can be listed without walking: in every row, the columns where a
run of letters without blanks begins, each with its run. A list that goes forward in
reading order is determined by its members, so the walk over a grid comes to this list,
and a search finds the first word of the list with the text that is asked for.
-/

namespace Palimpsest

/-! ## Reading order -/

namespace Location

/-- Going forward in reading order is strict. -/
theorem not_before_self (location : Location) : ¬ location.Before location := by
  unfold Before
  omega

theorem Before.not_before {first second : Location} (before : first.Before second) :
    ¬ second.Before first := by
  unfold Before at before ⊢
  omega

end Location

namespace Grid

/-- One word of a grid begins before another. -/
def Earlier (pair later : Location × Word) : Prop :=
  pair.1.Before later.1

instance : Std.Irrefl Earlier :=
  ⟨fun pair => pair.1.not_before_self⟩

instance : Std.Antisymm Earlier :=
  ⟨fun _ _ before back => absurd back before.not_before⟩

/-! ## The list of words -/

/-- Whether a row has a letter of a word in a column. -/
def inkIn (row : Row) (col : Nat) : Bool :=
  row[col]?.any isInk

/-- Whether a maximal run of letters without blanks begins in a column of a row. -/
def opensRun (row : Row) : Nat → Bool
  | 0 => inkIn row 0
  | col + 1 => inkIn row (col + 1) && !inkIn row col

/-- The maximal runs of letters without blanks in the row with the given number. -/
def wordsOfRow (index : Nat) (row : Row) : List (Location × Word) :=
  ((List.range row.length).filter (opensRun row)).map fun (col : Nat) =>
    (⟨index, col⟩, ⟨(row.drop col).takeWhile isInk⟩)

/-- The maximal runs of letters without blanks in all rows, from the top down and in
every row from left to right. -/
def wordList (grid : Grid) : List (Location × Word) :=
  (List.range grid.length).flatMap fun index => wordsOfRow index (grid[index]?.getD [])

variable {grid : Grid} {row : Row} {index col : Nat} {location : Location} {word : Word}

theorem inkIn_iff : inkIn row col = true ↔ InkAt row col := by
  simp [inkIn, InkAt, Option.any_eq_true]

theorem lt_length_of_opensRun (opens : opensRun row col = true) : col < row.length := by
  have inked : inkIn row col = true := by
    cases col with
    | zero => exact opens
    | succ col => exact (Bool.and_eq_true_iff.mp opens).1
  rcases (inkIn_iff.mp inked).2 with ⟨letter, letterAt, _⟩
  exact (List.getElem?_eq_some_iff.mp letterAt).1

theorem row?_of_lt (inside : index < grid.length) :
    grid.row? index = some (grid[index]?.getD []) := by
  rw [row?_eq_some_iff]
  simp [inside]

/-- A word begins in a row of the grid and in a column. -/
theorem StartsWord.exists_eq (starts : grid.StartsWord location) :
    ∃ index col : Nat, location = ⟨index, col⟩ ∧ index < grid.length := by
  have ⟨row_nonneg, col_nonneg⟩ := starts.1.nonneg
  rcases hasInk_iff.mp starts.1 with ⟨line, lineAt, _⟩
  have inside := lt_length_of_row?_eq_some lineAt
  refine ⟨location.row.toNat, location.col.toNat, ?_, by omega⟩
  rw [Int.toNat_of_nonneg row_nonneg, Int.toNat_of_nonneg col_nonneg]

/-- In a row that exists, runs begin where words do. -/
theorem opensRun_iff (rowAt : grid.row? index = some row) :
    opensRun row col = true ↔ grid.StartsWord ⟨index, col⟩ := by
  have ink (across : Int) : grid.HasInk ⟨index, across⟩ ↔ InkAt row across := by
    simp [hasInk_iff, rowAt]
  unfold StartsWord
  rw [Location.right, Location.shift, Int.add_zero, ink, ink, ← inkIn_iff]
  cases col with
  | zero =>
      have outside : ¬ InkAt row (((0 : Nat) : Int) + -1) := fun inked => absurd inked.1 (by decide)
      simp only [opensRun, outside, not_false_eq_true, and_true]
  | succ col =>
      rw [Int.natCast_succ, Int.add_neg_cancel_right, ← inkIn_iff]
      simp [opensRun]

/-- A run is what is read where it begins. -/
theorem takeWhile_eq_readWord (rowAt : grid.row? index = some row) :
    (⟨(row.drop col).takeWhile isInk⟩ : Word) = grid.readWord ⟨index, col⟩ := by
  have letters : grid.lettersAt ⟨index, col⟩ = row.drop col :=
    lettersAt_of_row?_eq_some rowAt (Int.natCast_nonneg col)
  rw [readWord, letters]

theorem mem_wordsOfRow_iff :
    (location, word) ∈ wordsOfRow index row ↔
      ∃ col : Nat, opensRun row col = true ∧ location = ⟨index, col⟩ ∧
        word = ⟨(row.drop col).takeWhile isInk⟩ := by
  simp only [wordsOfRow, List.mem_map, List.mem_filter, List.mem_range, Prod.mk.injEq]
  constructor
  · rintro ⟨col, ⟨_, opens⟩, rfl, rfl⟩
    exact ⟨col, opens, rfl, rfl⟩
  · rintro ⟨col, opens, rfl, rfl⟩
    exact ⟨col, ⟨lt_length_of_opensRun opens, opens⟩, rfl, rfl⟩

/-- The list has the maximal words of the grid and nothing else. -/
theorem mem_wordList_iff : (location, word) ∈ grid.wordList ↔ grid.IsWord location word := by
  simp only [wordList, List.mem_flatMap, List.mem_range, mem_wordsOfRow_iff, isWord_iff]
  constructor
  · rintro ⟨index, inside, col, opens, rfl, rfl⟩
    have rowAt := row?_of_lt inside
    exact ⟨(opensRun_iff rowAt).mp opens, takeWhile_eq_readWord rowAt⟩
  · rintro ⟨starts, rfl⟩
    obtain ⟨index, col, rfl, inside⟩ := starts.exists_eq
    have rowAt := row?_of_lt inside
    exact ⟨index, inside, col, (opensRun_iff rowAt).mpr starts, rfl,
      (takeWhile_eq_readWord rowAt).symm⟩

theorem pairwise_wordsOfRow (index : Nat) (row : Row) :
    (wordsOfRow index row).Pairwise Earlier := by
  refine (List.pairwise_lt_range.filter _).map _ ?_
  intro col later left
  exact .inr ⟨rfl, Int.ofNat_lt.mpr left⟩

/-- The list goes forward in reading order. -/
theorem pairwise_wordList (grid : Grid) : grid.wordList.Pairwise Earlier := by
  refine List.pairwise_flatMap.mpr ⟨fun index _ => pairwise_wordsOfRow index _, ?_⟩
  refine List.pairwise_lt_range.imp ?_
  rintro index lower above ⟨location, word⟩ member ⟨other, otherWord⟩ otherMember
  obtain ⟨_, _, rfl, _⟩ := mem_wordsOfRow_iff.mp member
  obtain ⟨_, _, rfl, _⟩ := mem_wordsOfRow_iff.mp otherMember
  exact .inl (Int.ofNat_lt.mpr above)

/-! ## The walk -/

/-- The walk over a grid begins at its first word and is never cut off. -/
theorem visits_words (grid : Grid) : grid.Visits (grid.nextWord ⟨0, 0⟩) grid.words :=
  visits_wordsFrom fun _ next => hasInk_of_nextWord_eq_some next

/-- It comes to the list of words. -/
theorem words_eq_wordList (grid : Grid) : grid.words = grid.wordList := by
  have visits := grid.visits_words
  have starts (first : Location) (next : grid.nextWord ⟨0, 0⟩ = some first) :
      grid.StartsWord first :=
    (opensRow_of_nextWord_eq_some next).startsWord
  have forward : grid.words.Pairwise Earlier := visits.pairwise_before starts
  refine forward.eq_of_mem_iff grid.pairwise_wordList ?_
  rintro ⟨location, word⟩
  rw [visits.mem_iff starts, mem_wordList_iff]
  constructor
  · rintro ⟨_, _, _, isWord⟩
    exact isWord
  · intro isWord
    have ink := (isWord_iff.mp isWord).1.1
    have behind : (⟨0, 0⟩ : Location).Leads location := by
      have := ink.nonneg
      simp only [Location.Leads]
      omega
    obtain ⟨first, next, leads⟩ := exists_nextWord_leads ink behind
    exact ⟨first, next, leads, isWord⟩

/-! ## Searches -/

/-- The location is that of the first word in the list whose text is wanted. -/
def IsFirstWord (grid : Grid) (wanted : Text → Prop) (location : Location) : Prop :=
  ∃ before word behind, grid.wordList = before ++ (location, word) :: behind ∧
    wanted word.text ∧ ∀ pair ∈ before, ¬ wanted pair.2.text

section Search

variable {accepts : Text → Bool} {wanted : Text → Prop}
  (agree : ∀ text, accepts text = true ↔ wanted text)
include agree

/-- A search that succeeds finds the first word that it accepts. -/
theorem search_eq_some_iff :
    (grid.words.find? fun found => accepts found.2.text).map Prod.fst = some location ↔
      grid.IsFirstWord wanted location := by
  rw [words_eq_wordList, Option.map_eq_some_iff]
  simp only [List.find?_eq_some_iff_append, Bool.not_eq_true', ← Bool.not_eq_true, agree]
  constructor
  · rintro ⟨⟨_, word⟩, ⟨accepted, before, behind, list_eq, others⟩, rfl⟩
    exact ⟨before, word, behind, list_eq, accepted, others⟩
  · rintro ⟨before, word, behind, list_eq, accepted, others⟩
    exact ⟨(location, word), ⟨accepted, before, behind, list_eq, others⟩, rfl⟩

/-- A search fails when it accepts no word. -/
theorem search_eq_none_iff :
    (grid.words.find? fun found => accepts found.2.text).map Prod.fst = none ↔
      ∀ pair ∈ grid.wordList, ¬ wanted pair.2.text := by
  rw [words_eq_wordList, Option.map_eq_none_iff]
  simp only [List.find?_eq_none, agree]

end Search

/-- The list of words has the maximal words of the grid in reading order. The walk of a
search ends with exactly these words visited, each of them once. So a search for a lead
finds the first word of the list that begins with it, without a lead the first word at
all, and a search for a label the first word that reads like it; where the list has no
such word, the search finds nothing. -/
theorem search_follows_word_list (grid : Grid) :
    (∀ location word, (location, word) ∈ grid.wordList ↔ grid.IsWord location word) ∧
    grid.wordList.Pairwise Earlier ∧
    grid.Visits (grid.nextWord ⟨0, 0⟩) grid.wordList ∧
    grid.words = grid.wordList ∧
    (∀ lead location, grid.findLead lead = some location ↔
      grid.IsFirstWord (lead <+: ·) location) ∧
    (∀ lead, grid.findLead lead = none ↔ ∀ pair ∈ grid.wordList, ¬ lead <+: pair.2.text) ∧
    grid.findLead [] = grid.wordList.head?.map Prod.fst ∧
    (∀ label location, grid.findWord label = some location ↔
      grid.IsFirstWord (· = label) location) ∧
    ∀ label, grid.findWord label = none ↔ ∀ pair ∈ grid.wordList, pair.2.text ≠ label := by
  refine ⟨fun _ _ => mem_wordList_iff, grid.pairwise_wordList,
    grid.words_eq_wordList ▸ grid.visits_words, grid.words_eq_wordList, ?_, ?_, ?_, ?_, ?_⟩
  · intro lead location
    exact search_eq_some_iff fun _ => List.isPrefixOf_iff_prefix
  · intro lead
    exact search_eq_none_iff fun _ => List.isPrefixOf_iff_prefix
  · rw [findLead, words_eq_wordList]
    cases grid.wordList with
    | nil => rfl
    | cons pair rest => simp
  · intro label location
    exact search_eq_some_iff fun text => beq_iff_eq (a := text)
  · intro label
    exact search_eq_none_iff fun text => beq_iff_eq (a := text)

end Grid

end Palimpsest
