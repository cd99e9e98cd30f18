import Palimpsest.Proofs.Grid.Displacement
import Mathlib.Data.List.TakeWhile

/-!
# Words in reading order

A grid is read row by row. The next word from a place is the first letter of a
word at or behind it, and this determines it. A walk over words that begins at
the first letter of a word visits the maximal words from there on, each once and
in reading order. Walks are cut off after a number of steps; `Visits` is the walk
without that bound, and the number of letters is bound enough never to be felt.
-/

namespace Palimpsest

/-! ## Reading order -/

namespace Location

/-- One location stands at another or before it in reading order. -/
def Leads (location other : Location) : Prop :=
  location.row < other.row ∨ location.row = other.row ∧ location.col ≤ other.col

instance (location other : Location) : Decidable (location.Leads other) :=
  inferInstanceAs (Decidable (_ ∨ _))

/-- One location stands before another in reading order. -/
def Before (location other : Location) : Prop :=
  location.row < other.row ∨ location.row = other.row ∧ location.col < other.col

variable {first second third : Location}

theorem Leads.refl (location : Location) : location.Leads location :=
  .inr ⟨rfl, Int.le_refl _⟩

theorem Leads.trans (leads : first.Leads second) (further : second.Leads third) :
    first.Leads third := by
  unfold Leads at leads further ⊢
  omega

theorem Before.trans_leads (before : first.Before second) (leads : second.Leads third) :
    first.Before third := by
  unfold Before at before ⊢
  unfold Leads at leads
  omega

theorem Leads.antisymm (leads : first.Leads second) (back : second.Leads first) :
    first = second := by
  rcases first with ⟨firstRow, firstCol⟩
  rcases second with ⟨secondRow, secondCol⟩
  simp only [Leads, Location.mk.injEq] at leads back ⊢
  omega

theorem right_row (location : Location) (columns : Int) :
    (location.right columns).row = location.row :=
  Int.add_zero _

theorem right_col (location : Location) (columns : Int) :
    (location.right columns).col = location.col + columns :=
  rfl

theorem right_sub_col (location : Location) (col : Int) :
    location.right (col - location.col) = ⟨location.row, col⟩ := by
  simp only [right, shift, mk.injEq]
  omega

theorem right_comm (location : Location) (columns others : Int) :
    (location.right columns).right others = (location.right others).right columns := by
  simp only [right, shift, Int.add_right_comm]

theorem leads_right (location : Location) (columns : Nat) :
    location.Leads (location.right columns) := by
  rw [Leads, right_row, right_col]
  omega

/-- The nearest location that is not before the first row or column, going forward
in reading order. -/
def clamp (location : Location) : Location :=
  if location.row < 0 then ⟨0, 0⟩ else ⟨location.row, max location.col 0⟩

theorem clamp_nonneg (location : Location) : 0 ≤ location.clamp.row ∧ 0 ≤ location.clamp.col := by
  unfold clamp
  split
  · exact ⟨Int.le_refl 0, Int.le_refl 0⟩
  · constructor <;> simp only <;> omega

theorem leads_clamp (location : Location) : location.Leads location.clamp := by
  unfold clamp
  split
  · exact .inl ‹_›
  · exact .inr ⟨rfl, Int.le_max_left _ _⟩

theorem Leads.clamp (leads : first.Leads second) (row_nonneg : 0 ≤ second.row)
    (col_nonneg : 0 ≤ second.col) : first.clamp.Leads second := by
  unfold Location.clamp
  unfold Leads at leads ⊢
  split <;> simp only <;> omega

end Location

namespace Grid

variable {grid : Grid} {location found other : Location}

/-! ## The next word -/

/-- In a row nothing is passed over on the way to the first letter of a word. -/
theorem exists_inkFrom_le {row : Row} {col across : Nat} {letter : Letter}
    (letterAt : row[across]? = some letter) (inked : isInk letter = true) (behind : col ≤ across) :
    ∃ found, inkFrom row col = some found ∧ found ≤ across := by
  have shifted : (row.drop col)[across - col]? = some letter := by
    rw [List.getElem?_drop, Nat.add_sub_cancel' behind, letterAt]
  cases indexed : (row.drop col).findIdx? isInk with
  | none =>
      have blank := List.findIdx?_eq_none_iff.mp indexed letter (List.mem_of_getElem? shifted)
      rw [inked] at blank
      contradiction
  | some index =>
      refine ⟨col + index, by rw [inkFrom, indexed, Option.map_some], ?_⟩
      obtain ⟨_, _, passed⟩ := List.findIdx?_eq_some_iff_getElem.mp indexed
      by_contra beyond
      rcases List.getElem?_eq_some_iff.mp shifted with ⟨_, letter_eq⟩
      apply passed (across - col) (by omega)
      rw [letter_eq, inked]

/-- Nor is anything passed over in a list of rows. -/
theorem exists_seek_leads (index col : Nat) {rows : List Row} {down across : Nat} {row : Row}
    {letter : Letter} (rowAt : rows[down]? = some row) (letterAt : row[across]? = some letter)
    (inked : isInk letter = true) (behind : down = 0 → col ≤ across) :
    ∃ found, seek index col rows = some found ∧ found.Leads ⟨(index + down : Nat), across⟩ := by
  induction rows generalizing index col down with
  | nil => simp at rowAt
  | cons line rest inductionHypothesis =>
      rw [seek]
      cases down with
      | zero =>
          have line_eq : line = row := by simpa using rowAt
          obtain ⟨first, inkFrom_eq, first_le⟩ :=
            exists_inkFrom_le letterAt inked (behind rfl)
          rw [line_eq, inkFrom_eq]
          exact ⟨_, rfl, .inr ⟨rfl, Int.ofNat_le.mpr first_le⟩⟩
      | succ down =>
          cases inkFrom line col with
          | some first =>
              refine ⟨_, rfl, .inl ?_⟩
              simp only
              omega
          | none =>
              have shifted : index + 1 + down = index + (down + 1) := by omega
              rw [← shifted]
              exact inductionHypothesis _ _ (by simpa using rowAt) fun _ => Nat.zero_le across

/-- Looking from a place before the first row or column is looking from the start
of the grid or of the row. -/
theorem nextWord_clamp (grid : Grid) (location : Location) :
    grid.nextWord location.clamp = grid.nextWord location := by
  unfold nextWord Location.clamp
  by_cases above : location.row < 0
  · simp [above]
  · have column : (max location.col 0).toNat = location.col.toNat := by omega
    simp [above, column]

/-- The next word stands behind the place from which it is looked for. -/
theorem leads_of_nextWord_eq_some (row_nonneg : 0 ≤ location.row) (col_nonneg : 0 ≤ location.col)
    (next : grid.nextWord location = some found) : location.Leads found := by
  rw [nextWord_of_nonneg row_nonneg] at next
  cases rows : grid.drop location.row.toNat with
  | nil => simp [rows, seek] at next
  | cons row rest =>
      rw [rows] at next
      unfold seek at next
      split at next
      · rename_i across inked
        have := le_of_inkFrom_eq_some inked
        cases next
        right
        constructor <;> simp only <;> omega
      · have := le_row_of_seek_eq_some next
        left
        omega

/-- The next word stands at or before every letter of a word that is not before
the place from which it is looked for. -/
theorem exists_nextWord_leads (ink : grid.HasInk other) (leads : location.Leads other) :
    ∃ found, grid.nextWord location = some found ∧ found.Leads other := by
  have ⟨row_nonneg, col_nonneg⟩ := ink.nonneg
  rcases ink with ⟨letter, letterFound, inked⟩
  rcases letter?_eq_some_iff.mp letterFound with ⟨row, rowFound, _, letterAt⟩
  rcases row?_eq_some_iff.mp rowFound with ⟨_, rowAt⟩
  have ⟨clampedRow, _⟩ := location.clamp_nonneg
  have leads : location.clamp.Leads other := leads.clamp row_nonneg col_nonneg
  have start_le : location.clamp.row.toNat ≤ other.row.toNat := by
    unfold Location.Leads at leads
    omega
  have rowBelow : (grid.drop location.clamp.row.toNat)[other.row.toNat -
      location.clamp.row.toNat]? = some row := by
    rw [List.getElem?_drop, Nat.add_sub_cancel' start_le, rowAt]
  have behind : other.row.toNat - location.clamp.row.toNat = 0 →
      location.clamp.col.toNat ≤ other.col.toNat := by
    unfold Location.Leads at leads
    omega
  obtain ⟨found, sought, foundLeads⟩ := exists_seek_leads location.clamp.row.toNat
    location.clamp.col.toNat rowBelow letterAt inked behind
  refine ⟨found, ?_, ?_⟩
  · rw [← nextWord_clamp, nextWord_of_nonneg clampedRow, sought]
  · rwa [Nat.add_sub_cancel' start_le, Int.toNat_of_nonneg row_nonneg,
      Int.toNat_of_nonneg col_nonneg] at foundLeads

theorem leads_nextWord (next : grid.nextWord location = some found) : location.Leads found := by
  have ⟨row_nonneg, col_nonneg⟩ := location.clamp_nonneg
  rw [← nextWord_clamp] at next
  exact location.leads_clamp.trans (leads_of_nextWord_eq_some row_nonneg col_nonneg next)

/-- The next word is the first letter of a word at or behind the place from which
it is looked for. -/
theorem nextWord_eq_some_iff :
    grid.nextWord location = some found ↔
      grid.HasInk found ∧ location.Leads found ∧
        ∀ other, grid.HasInk other → location.Leads other → found.Leads other := by
  constructor
  · intro next
    refine ⟨hasInk_of_nextWord_eq_some next, leads_nextWord next, ?_⟩
    intro other ink leads
    obtain ⟨least, least_eq, leastLeads⟩ := exists_nextWord_leads ink leads
    rw [next] at least_eq
    cases least_eq
    exact leastLeads
  · rintro ⟨ink, leads, first⟩
    obtain ⟨least, least_eq, leastLeads⟩ := exists_nextWord_leads ink leads
    have back := first least (hasInk_of_nextWord_eq_some least_eq)
      (leads_nextWord least_eq)
    rw [least_eq, leastLeads.antisymm back]

/-- There is no next word where every letter of a word stands before the place from
which it is looked for. -/
theorem nextWord_eq_none_iff :
    grid.nextWord location = none ↔ ∀ other, grid.HasInk other → ¬ location.Leads other := by
  constructor
  · intro nothing other ink leads
    obtain ⟨found, next, _⟩ := exists_nextWord_leads ink leads
    rw [nothing] at next
    cases next
  · intro passed
    cases next : grid.nextWord location with
    | none => rfl
    | some found =>
        exact absurd (leads_nextWord next) (passed found (hasInk_of_nextWord_eq_some next))

/-- Two places have the same next word when the same letters of words stand before
them. -/
theorem nextWord_congr {first second : Location}
    (same : ∀ other, grid.HasInk other → (first.Leads other ↔ second.Leads other)) :
    grid.nextWord first = grid.nextWord second := by
  apply Option.ext
  intro found
  simp only [nextWord_eq_some_iff]
  constructor
  · rintro ⟨ink, leads, least⟩
    exact ⟨ink, (same found ink).mp leads,
      fun other inked behind => least other inked ((same other inked).mpr behind)⟩
  · rintro ⟨ink, leads, least⟩
    exact ⟨ink, (same found ink).mpr leads,
      fun other inked behind => least other inked ((same other inked).mp behind)⟩

/-- Two places of a row have the same next word exactly when no word has a letter
between them. -/
theorem nextWord_eq_iff {row first second : Int} (ordered : first ≤ second) :
    grid.nextWord ⟨row, first⟩ = grid.nextWord ⟨row, second⟩ ↔
      ∀ col, first ≤ col → col < second → ¬ grid.HasInk ⟨row, col⟩ := by
  constructor
  · intro same col reached passed ink
    have leads : Location.Leads ⟨row, first⟩ ⟨row, col⟩ := .inr ⟨rfl, reached⟩
    obtain ⟨found, next, foundLeads⟩ := exists_nextWord_leads ink leads
    rw [same] at next
    rcases (leads_nextWord next).trans foundLeads with above | ⟨_, behind⟩
    · exact absurd above (Int.lt_irrefl row)
    · exact absurd passed (Int.not_lt.mpr behind)
  · intro blank
    apply nextWord_congr
    intro other ink
    constructor
    · rintro (above | ⟨rfl, reached⟩)
      · exact .inl above
      · exact .inr ⟨rfl, Int.not_lt.mp fun passed => blank other.col reached passed ink⟩
    · rintro (above | ⟨rfl, reached⟩)
      · exact .inl above
      · exact .inr ⟨rfl, Int.le_trans ordered reached⟩

/-- The same holds in whichever order the two places stand. -/
theorem nextWord_eq_iff_between {first second : Location} (level : first.row = second.row) :
    grid.nextWord first = grid.nextWord second ↔
      ∀ col, min first.col second.col ≤ col → col < max first.col second.col →
        ¬ grid.HasInk ⟨first.row, col⟩ := by
  rcases first with ⟨row, first⟩
  rcases second with ⟨_, second⟩
  obtain rfl : row = _ := level
  rcases Int.le_total first second with ordered | ordered
  · simp only [Int.min_eq_left ordered, Int.max_eq_right ordered]
    exact nextWord_eq_iff ordered
  · simp only [Int.min_eq_right ordered, Int.max_eq_left ordered]
    rw [eq_comm]
    exact nextWord_eq_iff ordered

/-! ## Maximal words -/

/-- A word without blanks stands at the location and cannot be made longer on
either side. -/
structure IsWord (grid : Grid) (location : Location) (word : Word) : Prop where
  nonempty : word.letters ≠ []
  unbroken : ∀ letter ∈ word.letters, isInk letter = true
  stands : word.letters <+: grid.lettersAt location
  opens : ¬ grid.HasInk (location.right (-1))
  closes : ¬ grid.HasInk (location.right word.length)

/-- A maximal word begins at the location. -/
def StartsWord (grid : Grid) (location : Location) : Prop :=
  grid.HasInk location ∧ ¬ grid.HasInk (location.right (-1))

theorem lettersAt_right (col_nonneg : 0 ≤ location.col) (across : Nat) :
    grid.lettersAt (location.right across) = (grid.lettersAt location).drop across := by
  have columns : (location.col + across).toNat = location.col.toNat + across := by omega
  have inside : ¬ location.col < 0 := by omega
  have insideToo : ¬ location.col + across < 0 := by omega
  simp only [lettersAt, Location.right, Location.shift_row, Location.shift_col, Int.add_zero,
    if_neg inside, if_neg insideToo, columns, List.drop_drop]

/-- Letters that begin what stands at a location stand there one after the other. -/
theorem letter?_right_of_prefix {letters : List Letter}
    (stands : letters <+: grid.lettersAt location) {across : Nat}
    (inside : across < letters.length) :
    grid.letter? (location.right across) = letters[across]? := by
  have col_nonneg : 0 ≤ location.col := by
    by_contra outside
    have nothing : grid.lettersAt location = [] := if_pos (by omega)
    rw [nothing, List.prefix_nil] at stands
    simp [stands] at inside
  rcases stands with ⟨rest, rest_eq⟩
  rw [letter?, lettersAt_right col_nonneg, List.head?_drop, ← rest_eq,
    List.getElem?_append_left inside]

/-- Every letter that is read with a word is part of it. -/
theorem hasInk_right_of_lt {across : Nat} (inside : across < (grid.readWord location).length) :
    grid.HasInk (location.right across) := by
  have letterAt : grid.letter? (location.right across) =
      (grid.readWord location).letters[across]? :=
    letter?_right_of_prefix (List.takeWhile_prefix isInk) inside
  rw [List.getElem?_eq_getElem inside] at letterAt
  exact ⟨_, letterAt, List.mem_takeWhile_imp (List.getElem_mem inside)⟩

/-- Where a word is read together with the blanks behind it, nothing but blanks
follows the first place without a letter of the word. -/
theorem not_hasInk_of_lt_readWordAndBlanks {before across : Nat}
    (blank : ¬ grid.HasInk (location.right before)) (behind : before ≤ across)
    (inside : across < (grid.readWordAndBlanks location).length) :
    ¬ grid.HasInk (location.right across) := by
  have past : (grid.readWord location).length ≤ across := by
    by_contra short
    exact blank (hasInk_right_of_lt (by omega))
  have letters_eq : (grid.readWordAndBlanks location).letters = (grid.readWord location).letters ++
      ((grid.lettersAt location).dropWhile isInk).takeWhile fun letter => !isInk letter :=
    rfl
  have stands : (grid.readWordAndBlanks location).letters <+: grid.lettersAt location := by
    conv_rhs => rw [← List.takeWhile_append_dropWhile (p := isInk) (l := grid.lettersAt location)]
    exact (List.prefix_append_right_inj _).mpr (List.takeWhile_prefix _)
  have letterAt : grid.letter? (location.right across) =
      (grid.readWordAndBlanks location).letters[across]? :=
    letter?_right_of_prefix stands inside
  rintro ⟨letter, found, inked⟩
  rw [letterAt, letters_eq, List.getElem?_append_right past] at found
  have uninked := List.mem_takeWhile_imp (List.mem_of_getElem? found)
  rw [inked] at uninked
  contradiction

/-- What is read at a location are the letters without a blank that stand there, up
to a place where no word has a letter. -/
theorem readWord_eq_iff {word : Word} :
    grid.readWord location = word ↔
      word.letters <+: grid.lettersAt location ∧
        (∀ letter ∈ word.letters, isInk letter = true) ∧
        ¬ grid.HasInk (location.right word.length) := by
  constructor
  · rintro rfl
    exact ⟨List.takeWhile_prefix isInk, fun _ member => List.mem_takeWhile_imp member,
      grid.not_hasInk_readWord_end location⟩
  · rintro ⟨stands, unbroken, closes⟩
    -- Neither of the two can end inside the other.
    have same : (grid.readWord location).length = word.length := by
      rcases Nat.lt_trichotomy word.length (grid.readWord location).length with
        shorter | equal | longer
      · exact absurd (hasInk_right_of_lt shorter) closes
      · exact equal.symm
      · have letterAt := letter?_right_of_prefix stands longer
        rw [List.getElem?_eq_getElem longer] at letterAt
        exact absurd ⟨_, letterAt, unbroken _ (List.getElem_mem longer)⟩
          (grid.not_hasInk_readWord_end location)
    have read : (grid.readWord location).letters <+: grid.lettersAt location :=
      List.takeWhile_prefix isInk
    have letters_eq : (grid.readWord location).letters = word.letters := by
      rw [List.prefix_iff_eq_take.mp stands, List.prefix_iff_eq_take.mp read]
      exact congrArg (fun count => (grid.lettersAt location).take count) same
    cases word
    exact congrArg Word.mk letters_eq

/-- Reading a word gives all of it when it begins there. -/
theorem isWord_iff {word : Word} :
    grid.IsWord location word ↔ grid.StartsWord location ∧ word = grid.readWord location := by
  constructor
  · intro isWord
    have read : grid.readWord location = word :=
      readWord_eq_iff.mpr ⟨isWord.stands, isWord.unbroken, isWord.closes⟩
    have positive : 0 < (grid.readWord location).length := by
      rw [read]
      exact List.length_pos_iff.mpr isWord.nonempty
    exact ⟨⟨hasInk_of_readWord_length_pos positive, isWord.opens⟩, read.symm⟩
  · rintro ⟨⟨ink, opens⟩, rfl⟩
    obtain ⟨stands, unbroken, closes⟩ := readWord_eq_iff.mp (Eq.refl (grid.readWord location))
    exact {
      nonempty := List.length_pos_iff.mp ink.readWord_length_pos
      unbroken := unbroken
      stands := stands
      opens := opens
      closes := closes }

/-- The next word behind a word is the beginning of a maximal word. -/
theorem startsWord_of_nextWord_eq_some
    (next : grid.nextWord (location.right (grid.readWord location).length) = some found) :
    grid.StartsWord found := by
  have ⟨ink, leads, first⟩ := nextWord_eq_some_iff.mp next
  refine ⟨ink, ?_⟩
  intro earlier
  by_cases behind : (location.right (grid.readWord location).length).Leads (found.right (-1))
  · have back := first _ earlier behind
    simp only [Location.Leads, Location.right, Location.shift_row, Location.shift_col] at back
    omega
  · -- Only the place right behind the word has none of its letters before it.
    have place : location.right (grid.readWord location).length = found := by
      apply leads.antisymm
      simp only [Location.Leads, Location.right, Location.shift_row, Location.shift_col]
        at leads behind ⊢
      omega
    exact grid.not_hasInk_readWord_end location (place ▸ ink)

/-- No maximal word begins inside another one. -/
theorem StartsWord.eq_or_end_leads (starts : grid.StartsWord other)
    (leads : location.Leads other) :
    other = location ∨ (location.right (grid.readWord location).length).Leads other := by
  by_contra neither
  rw [not_or] at neither
  rcases neither with ⟨apart, inside⟩
  have inside : other.row = location.row ∧ location.col < other.col ∧
      other.col < location.col + (grid.readWord location).length := by
    rcases location with ⟨row, col⟩
    rcases other with ⟨otherRow, otherCol⟩
    simp only [Location.Leads, Location.right, Location.shift, Location.mk.injEq]
      at leads apart inside ⊢
    omega
  have ink : grid.HasInk (location.right ((other.col - location.col - 1).toNat : Nat)) :=
    hasInk_right_of_lt (by omega)
  have place : location.right ((other.col - location.col - 1).toNat : Nat) = other.right (-1) := by
    simp only [Location.right, Location.shift, Location.mk.injEq]
    omega
  exact starts.2 (place ▸ ink)

/-! ## The walk without a bound -/

/-- What a walk from a location on visits: it goes from word to word and stops
where there is no next one. -/
inductive Visits (grid : Grid) : Option Location → List (Location × Word) → Prop
  | stop : Visits grid none []
  | visit {location : Location} {rest : List (Location × Word)}
      (onward : Visits grid
        (grid.nextWord (location.right (grid.readWord location).length)) rest) :
      Visits grid (some location) ((location, grid.readWord location) :: rest)

/-- The number of letters before a location in reading order. -/
def lettersBefore (grid : Grid) (location : Location) : Nat :=
  letterCount (grid.take location.row.toNat) + location.col.toNat

theorem letterCount_append (above below : List Row) :
    letterCount (above ++ below) = letterCount above + letterCount below := by
  induction above with
  | nil => simp [letterCount]
  | cons row rest inductionHypothesis =>
      rw [List.cons_append, letterCount, letterCount, inductionHypothesis, Nat.add_assoc]

theorem letterCount_take_le (grid : Grid) {count more : Nat} (le : count ≤ more) :
    letterCount (grid.take count) ≤ letterCount (grid.take more) := by
  have split : grid.take more = grid.take count ++ (grid.take more).drop count := by
    have front : (grid.take more).take count = grid.take count := by
      rw [List.take_take, Nat.min_eq_left le]
    rw [← front, List.take_append_drop]
  rw [split, letterCount_append]
  exact Nat.le_add_right _ _

/-- A letter is counted with the rows down to its own. -/
theorem HasInk.lettersBefore_lt (ink : grid.HasInk location) :
    grid.lettersBefore location < letterCount (grid.take (location.row.toNat + 1)) := by
  rcases ink with ⟨letter, letterFound, _⟩
  rcases letter?_eq_some_iff.mp letterFound with ⟨row, rowFound, _, letterAt⟩
  rcases row?_eq_some_iff.mp rowFound with ⟨_, rowAt⟩
  rcases List.getElem?_eq_some_iff.mp letterAt with ⟨col_lt, _⟩
  rw [List.take_add_one, rowAt, letterCount_append, lettersBefore]
  simp only [Option.toList_some, letterCount]
  omega

theorem HasInk.lettersBefore_lt_letterCount (ink : grid.HasInk location) :
    grid.lettersBefore location < grid.letterCount := by
  have counted := letterCount_take_le grid (Nat.le_max_left (location.row.toNat + 1) grid.length)
  rw [List.take_of_length_le (Nat.le_max_right _ _)] at counted
  exact Nat.lt_of_lt_of_le ink.lettersBefore_lt counted

/-- Going forward takes letters along. -/
theorem HasInk.lettersBefore_lt_of_before (ink : grid.HasInk location) (ahead : grid.HasInk other)
    (before : location.Before other) : grid.lettersBefore location < grid.lettersBefore other := by
  have ⟨row_nonneg, col_nonneg⟩ := ink.nonneg
  have ⟨otherRow_nonneg, otherCol_nonneg⟩ := ahead.nonneg
  rcases before with above | ⟨level, left⟩
  · have counted := letterCount_take_le grid
      (show location.row.toNat + 1 ≤ other.row.toNat by omega)
    have := ink.lettersBefore_lt
    simp only [lettersBefore] at this ⊢
    omega
  · simp only [lettersBefore, level]
    omega

/-- Behind a word that is not empty a walk has come forward. -/
theorem HasInk.before_of_nextWord (ink : grid.HasInk location)
    (next : grid.nextWord (location.right (grid.readWord location).length) = some found) :
    location.Before found := by
  have leads := leads_nextWord next
  have positive := ink.readWord_length_pos
  simp only [Location.Leads, Location.Before, Location.right, Location.shift_row,
    Location.shift_col] at leads ⊢
  omega

/-- A walk with as many steps as there are letters left is not cut off. -/
theorem visits_walk {bound : Nat} {start : Option Location}
    (ink : ∀ location, start = some location →
      grid.HasInk location ∧ grid.letterCount < bound + grid.lettersBefore location) :
    grid.Visits start (grid.walk bound start) := by
  induction bound generalizing start with
  | zero =>
      cases start with
      | none => exact .stop
      | some location =>
          have ⟨inked, exhausted⟩ := ink location rfl
          have := inked.lettersBefore_lt_letterCount
          omega
  | succ bound inductionHypothesis =>
      cases start with
      | none => exact .stop
      | some location =>
          have ⟨inked, enough⟩ := ink location rfl
          apply Visits.visit
          apply inductionHypothesis
          intro found next
          have ahead := hasInk_of_nextWord_eq_some next
          have := inked.lettersBefore_lt_of_before ahead (inked.before_of_nextWord next)
          exact ⟨ahead, by omega⟩

/-- The walk over the words from a letter of a word on is never cut off. -/
theorem visits_wordsFrom {start : Option Location}
    (ink : ∀ location, start = some location → grid.HasInk location) :
    grid.Visits start (grid.wordsFrom start) := by
  apply visits_walk
  intro location start_eq
  exact ⟨ink location start_eq, by omega⟩

namespace Visits

variable {start : Option Location} {visited : List (Location × Word)}

/-- A walk from the beginning of a maximal word on visits all maximal words that
begin there or further on, and nothing else. -/
theorem mem_iff (visits : grid.Visits start visited)
    (starts : ∀ location, start = some location → grid.StartsWord location)
    {pair : Location × Word} :
    pair ∈ visited ↔
      ∃ first, start = some first ∧ first.Leads pair.1 ∧ grid.IsWord pair.1 pair.2 := by
  induction visits with
  | stop => simp
  | @visit location rest onward inductionHypothesis =>
      have further := inductionHypothesis fun found next => startsWord_of_nextWord_eq_some next
      rw [List.mem_cons, further]
      constructor
      · rintro (rfl | ⟨next, next_eq, leads, isWord⟩)
        · exact ⟨location, rfl, .refl location, isWord_iff.mpr ⟨starts location rfl, rfl⟩⟩
        · have behind := (location.leads_right _).trans (leads_nextWord next_eq)
          exact ⟨location, rfl, behind.trans leads, isWord⟩
      · rintro ⟨first, first_eq, leads, isWord⟩
        cases first_eq
        obtain ⟨startsThere, read⟩ := isWord_iff.mp isWord
        rcases startsThere.eq_or_end_leads leads with here | behind
        · left
          exact Prod.ext here (read.trans (congrArg grid.readWord here))
        · right
          obtain ⟨next, next_eq, nextLeads⟩ := exists_nextWord_leads startsThere.1 behind
          exact ⟨next, next_eq, nextLeads, isWord⟩

/-- A walk goes forward from word to word. -/
theorem pairwise_before (visits : grid.Visits start visited)
    (starts : ∀ location, start = some location → grid.StartsWord location) :
    visited.Pairwise fun pair later => pair.1.Before later.1 := by
  induction visits with
  | stop => exact .nil
  | @visit location rest onward inductionHypothesis =>
      have further : ∀ found,
          grid.nextWord (location.right (grid.readWord location).length) = some found →
            grid.StartsWord found :=
        fun _ next => startsWord_of_nextWord_eq_some next
      refine .cons ?_ (inductionHypothesis further)
      intro later member
      obtain ⟨next, next_eq, leads, _⟩ := (onward.mem_iff further).mp member
      exact ((starts location rfl).1.before_of_nextWord next_eq).trans_leads leads

end Visits

end Grid

/-! ## Behind an edit -/

namespace Edit

variable {edit : Edit} {location : Location}

/-- What lies before a location lies before everything behind it. -/
theorem Precedes.of_leads {other : Location} (precedes : edit.Precedes location)
    (leads : location.Leads other) : edit.Precedes other := by
  cases edit with
  | exchange place deleted letters =>
      simp only [Precedes, Location.Leads] at precedes leads ⊢
      omega
  | newRow before =>
      simp only [Precedes, Location.Leads] at precedes leads ⊢
      omega

/-- An edit before a word moves its end along with its beginning. -/
theorem displace_right (precedes : edit.Precedes location) (length : Nat) :
    edit.displace (location.right length) = (edit.displace location).right length := by
  cases edit with
  | exchange place deleted letters =>
      simp only [Precedes] at precedes
      simp only [displace, Location.right_row, Location.right_col]
      by_cases same : place.row = location.row
      · rw [if_pos ⟨same, by omega⟩, if_pos ⟨same, by omega⟩, Location.right_comm]
      · rw [if_neg (fun both => same both.1), if_neg (fun both => same both.1)]
  | newRow before =>
      have below : before ≤ location.row := precedes
      simp only [displace, Location.right_row, if_pos below]
      simp only [Location.right, Location.shift, Int.add_right_comm]

end Edit

end Palimpsest
