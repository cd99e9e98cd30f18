import Palimpsest.Grid.Entry
import Mathlib.Data.List.Basic

/-!
# Places on a grid

Whatever a search of a grid finds is a letter of the grid that is part of a
word. In a grid of moderate extent every such place, and every other place in
or next to a row, is short enough to be written down. These are the facts that
the behaviour of threads rests on; nothing here depends on how a grid has come
about.
-/

namespace Palimpsest.Grid

/-! ## Rows and letters -/

theorem row?_eq_some_iff {grid : Grid} {row : Int} {line : Row} :
    grid.row? row = some line ↔ 0 ≤ row ∧ grid[row.toNat]? = some line := by
  unfold row?
  split
  · simp only [reduceCtorEq, false_iff, not_and]
    omega
  · simp only [iff_and_self]
    omega

/-- A row that exists has a number below the number of rows. -/
theorem lt_length_of_row?_eq_some {grid : Grid} {row : Int} {line : Row}
    (found : grid.row? row = some line) : row < grid.length := by
  rcases row?_eq_some_iff.mp found with ⟨_, found⟩
  rcases List.getElem?_eq_some_iff.mp found with ⟨bound, _⟩
  omega

/-- A row that exists divides the others into those above and those below. -/
theorem exists_append_of_row?_eq_some {grid : Grid} {row : Int} {line : Row}
    (found : grid.row? row = some line) :
    ∃ above below, grid = above ++ line :: below ∧ row = above.length := by
  rcases row?_eq_some_iff.mp found with ⟨row_nonneg, lineAt⟩
  rcases List.getElem?_eq_some_iff.mp lineAt with ⟨row_lt, rfl⟩
  refine ⟨grid.take row.toNat, grid.drop (row.toNat + 1), ?_, ?_⟩
  · rw [← List.drop_eq_getElem_cons row_lt, List.take_append_drop]
  · simp only [List.length_take]
    omega

/-- In a row that exists the letters from a column on are what is left of the
row there. -/
theorem lettersAt_of_row?_eq_some {grid : Grid} {location : Location} {line : Row}
    (found : grid.row? location.row = some line) (col_nonneg : 0 ≤ location.col) :
    grid.lettersAt location = line.drop location.col.toNat := by
  have : ¬ location.col < 0 := by omega
  simp [lettersAt, found, this]

/-- A letter stands in an existing row and in one of its columns. -/
theorem letter?_eq_some_iff {grid : Grid} {location : Location} {letter : Letter} :
    grid.letter? location = some letter ↔
      ∃ row, grid.row? location.row = some row ∧ 0 ≤ location.col ∧
        row[location.col.toNat]? = some letter := by
  unfold letter? lettersAt
  split
  · rename_i col_neg
    simp only [List.head?_nil, reduceCtorEq, false_iff, not_exists, not_and]
    omega
  · rename_i col_nonneg
    cases found : grid.row? location.row with
    | none => simp
    | some line =>
        simp only [Option.getD_some, List.head?_drop, Option.some.injEq, exists_eq_left',
          iff_and_self]
        omega

/-- A letter that is part of a word stands at the location. -/
def HasInk (grid : Grid) (location : Location) : Prop :=
  ∃ letter, grid.letter? location = some letter ∧ isInk letter = true

/-- A letter that is part of a word stands in a column of a row. -/
def InkAt (row : Row) (col : Int) : Prop :=
  0 ≤ col ∧ ∃ letter, row[col.toNat]? = some letter ∧ isInk letter = true

/-- Whether a letter is part of a word is seen in its row. -/
theorem hasInk_iff {grid : Grid} {location : Location} :
    grid.HasInk location ↔
      ∃ line, grid.row? location.row = some line ∧ InkAt line location.col := by
  constructor
  · rintro ⟨letter, found, inked⟩
    rcases letter?_eq_some_iff.mp found with ⟨line, lineAt, col_nonneg, letterAt⟩
    exact ⟨line, lineAt, col_nonneg, letter, letterAt, inked⟩
  · rintro ⟨line, lineAt, col_nonneg, letter, letterAt, inked⟩
    exact ⟨letter, letter?_eq_some_iff.mpr ⟨line, lineAt, col_nonneg, letterAt⟩, inked⟩

/-- The word read where a word has a letter is not empty. -/
theorem HasInk.readWord_length_pos {grid : Grid} {location : Location}
    (ink : grid.HasInk location) : 0 < (grid.readWord location).length := by
  rcases ink with ⟨letter, found, inked⟩
  unfold letter? at found
  unfold readWord Word.length
  cases letters : grid.lettersAt location with
  | nil => simp [letters] at found
  | cons first rest =>
      have first_eq : first = letter := by simpa [letters] using found
      simp [first_eq, inked]

/-- Where a word with letters is read, its first letter stands. -/
theorem hasInk_of_readWord_length_pos {grid : Grid} {location : Location}
    (positive : 0 < (grid.readWord location).length) : grid.HasInk location := by
  unfold readWord Word.length at positive
  unfold HasInk letter?
  cases letters : grid.lettersAt location with
  | nil => simp [letters] at positive
  | cons first rest =>
      refine ⟨first, rfl, ?_⟩
      by_contra blank
      simp [letters, blank] at positive

/-- So it does where the word spells anything. -/
theorem hasInk_of_readWord_text_ne_nil {grid : Grid} {location : Location}
    (spelled : (grid.readWord location).text ≠ []) : grid.HasInk location := by
  apply hasInk_of_readWord_length_pos
  apply List.length_pos_iff.mpr
  intro empty
  exact spelled (congrArg List.flatten empty)

/-- The letter behind the longest front part with accepted letters is not accepted. -/
theorem accepts_of_getElem?_length_takeWhile {accepts : Letter → Bool} {letters : List Letter}
    {letter : Letter} (behind : letters[(letters.takeWhile accepts).length]? = some letter) :
    accepts letter = false := by
  induction letters with
  | nil => simp at behind
  | cons first rest inductionHypothesis =>
      by_cases accepted : accepts first = true
      · apply inductionHypothesis
        simpa [accepted] using behind
      · simp only [List.takeWhile_cons_of_neg accepted, List.length_nil, List.getElem?_cons_zero,
          Option.some.injEq] at behind
        rw [← behind]
        simpa using accepted

/-- Reading a word stops at a place where no word has a letter. -/
theorem not_hasInk_readWord_end (grid : Grid) (location : Location) :
    ¬ grid.HasInk (location.right (grid.readWord location).length) := by
  rintro ⟨letter, found, inked⟩
  rcases letter?_eq_some_iff.mp found with ⟨line, lineAt, col_nonneg, letterAt⟩
  simp only [Location.right, Location.shift_row, Location.shift_col, Int.add_zero]
    at lineAt col_nonneg letterAt
  by_cases before : location.col < 0
  · have nothing : (grid.readWord location).length = 0 := by
      simp [readWord, lettersAt, before, Word.length]
    omega
  · have columns : (location.col + (grid.readWord location).length).toNat =
        location.col.toNat + (grid.readWord location).length := by
      omega
    rw [columns, ← List.getElem?_drop, readWord, Word.length,
      lettersAt_of_row?_eq_some lineAt (by omega)] at letterAt
    rw [accepts_of_getElem?_length_takeWhile letterAt] at inked
    contradiction

/-- A word is no longer than what is left of its row. -/
theorem length_readWord_le (grid : Grid) (location : Location) :
    (grid.readWord location).length ≤ (grid.lettersAt location).length :=
  (List.takeWhile_sublist isInk).length_le

/-- A word with the blanks behind it is no longer than what is left of its row. -/
theorem length_readWordAndBlanks_le (grid : Grid) (location : Location) :
    (grid.readWordAndBlanks location).length ≤ (grid.lettersAt location).length := by
  have blanks : (((grid.lettersAt location).dropWhile isInk).takeWhile
      fun letter => !isInk letter).length ≤ ((grid.lettersAt location).dropWhile isInk).length :=
    (List.takeWhile_sublist _).length_le
  have whole := congrArg List.length
    (List.takeWhile_append_dropWhile (p := isInk) (l := grid.lettersAt location))
  simp only [readWordAndBlanks, Word.length, List.length_append] at whole ⊢
  omega

/-- Letters do not stand before the first row or the first column. -/
theorem HasInk.nonneg {grid : Grid} {location : Location} (ink : grid.HasInk location) :
    0 ≤ location.row ∧ 0 ≤ location.col := by
  rcases ink with ⟨letter, found, _⟩
  rcases letter?_eq_some_iff.mp found with ⟨line, lineAt, col_nonneg, _⟩
  exact ⟨(row?_eq_some_iff.mp lineAt).1, col_nonneg⟩

theorem HasInk.isValid {grid : Grid} {location : Location} (ink : grid.HasInk location) :
    grid.isValid location = true := by
  rcases ink with ⟨letter, found, _⟩
  simp [Grid.isValid, found]

/-! ## What searches find -/

theorem inkFrom_eq_some {row : Row} {col found : Nat} (inked : inkFrom row col = some found) :
    ∃ letter, row[found]? = some letter ∧ isInk letter = true := by
  rcases Option.map_eq_some_iff.mp inked with ⟨index, indexed, rfl⟩
  obtain ⟨bound, inkAt, _⟩ := List.findIdx?_eq_some_iff_getElem.mp indexed
  refine ⟨(row.drop col)[index], ?_, inkAt⟩
  rw [← List.getElem?_drop, List.getElem?_eq_getElem bound]

/-- Looking through rows finds a letter of a word in one of them. -/
theorem seek_eq_some {index col : Nat} {rows : List Row} {found : Location}
    (sought : seek index col rows = some found) :
    ∃ (down across : Nat) (row : Row) (letter : Letter),
      found = ⟨(index + down : Nat), across⟩ ∧ rows[down]? = some row ∧
        row[across]? = some letter ∧ isInk letter = true := by
  induction rows generalizing index col with
  | nil => simp [seek] at sought
  | cons row rest inductionHypothesis =>
      unfold seek at sought
      split at sought
      · rename_i across inked
        obtain ⟨letter, letterAt, isInk⟩ := inkFrom_eq_some inked
        exact ⟨0, across, row, letter, (Option.some.inj sought).symm, rfl, letterAt, isInk⟩
      · obtain ⟨down, across, line, letter, rfl, lineAt, letterAt, isInk⟩ :=
          inductionHypothesis sought
        refine ⟨down + 1, across, line, letter, ?_, by simpa using lineAt, letterAt, isInk⟩
        simp only [Location.mk.injEq, and_true]
        omega

/-- The next word begins with a letter of a word. -/
theorem hasInk_of_nextWord_eq_some {grid : Grid} {location found : Location}
    (next : grid.nextWord location = some found) : grid.HasInk found := by
  have reached : ∃ start col, seek start col (grid.drop start) = some found := by
    unfold nextWord at next
    split at next
    · exact ⟨0, 0, by simpa using next⟩
    · exact ⟨_, _, next⟩
  rcases reached with ⟨start, col, sought⟩
  obtain ⟨down, across, line, letter, rfl, lineAt, letterAt, inked⟩ := seek_eq_some sought
  rw [List.getElem?_drop] at lineAt
  exact ⟨letter, letter?_eq_some_iff.mpr
    ⟨line, row?_eq_some_iff.mpr ⟨Int.natCast_nonneg _, lineAt⟩, Int.natCast_nonneg _, letterAt⟩,
    inked⟩

/-- A walk that starts at a letter of a word only visits such letters. -/
theorem hasInk_of_mem_walk {grid : Grid} {bound : Nat} {start : Option Location}
    (startInk : ∀ location, start = some location → grid.HasInk location)
    {visited : Location × Word} (member : visited ∈ grid.walk bound start) :
    grid.HasInk visited.1 := by
  induction bound generalizing start with
  | zero => simp [walk] at member
  | succ bound inductionHypothesis =>
      cases start with
      | none => simp [walk] at member
      | some location =>
          rcases List.mem_cons.mp member with rfl | later
          · exact startInk location rfl
          · exact inductionHypothesis (fun _ next => hasInk_of_nextWord_eq_some next) later

/-- The words of a grid begin with letters of words. -/
theorem hasInk_of_mem_words {grid : Grid} {visited : Location × Word}
    (member : visited ∈ grid.words) : grid.HasInk visited.1 :=
  hasInk_of_mem_walk (fun _ next => hasInk_of_nextWord_eq_some next) member

theorem hasInk_of_findLead_eq_some {grid : Grid} {lead : Text} {found : Location}
    (search : grid.findLead lead = some found) : grid.HasInk found := by
  rcases Option.map_eq_some_iff.mp search with ⟨visited, first, rfl⟩
  exact hasInk_of_mem_words (List.mem_of_find?_eq_some first)

theorem hasInk_of_findWord_eq_some {grid : Grid} {label : Text} {found : Location}
    (search : grid.findWord label = some found) : grid.HasInk found := by
  rcases Option.map_eq_some_iff.mp search with ⟨visited, first, rfl⟩
  exact hasInk_of_mem_words (List.mem_of_find?_eq_some first)

theorem hasInk_of_entry_eq_some {grid : Grid} {found : Location}
    (entered : grid.entry = some found) : grid.HasInk found := by
  unfold entry at entered
  split at entered
  · contradiction
  · exact hasInk_of_nextWord_eq_some entered

/-- A walk reads the words that it visits. -/
theorem snd_of_mem_walk {grid : Grid} {bound : Nat} {start : Option Location}
    {visited : Location × Word} (member : visited ∈ grid.walk bound start) :
    visited.2 = grid.readWord visited.1 := by
  induction bound generalizing start with
  | zero => simp [walk] at member
  | succ bound inductionHypothesis =>
      cases start with
      | none => simp [walk] at member
      | some location =>
          rcases List.mem_cons.mp member with rfl | later
          · rfl
          · exact inductionHypothesis later

/-- Words that handle clicks are not empty, wherever the walk starts. -/
theorem hasInk_of_mem_clickHandlersFrom {grid : Grid} {start : Option Location}
    {handler : Location} (member : handler ∈ grid.clickHandlersFrom start) :
    grid.HasInk handler := by
  obtain ⟨visited, kept, rfl⟩ := List.mem_map.mp member
  obtain ⟨walked, leads⟩ := List.mem_filter.mp kept
  rw [snd_of_mem_walk walked] at leads
  apply hasInk_of_readWord_text_ne_nil
  intro empty
  rw [empty] at leads
  contradiction

/-! ## Moderate extent -/

/-- A grid has a moderate extent when its letters and rows together can be
counted with a digit to spare. -/
def Moderate (grid : Grid) : Prop :=
  grid.letterCount + grid.length < Nat.pow 10 (Numeral.digitLimit - 1)

instance (grid : Grid) : Decidable grid.Moderate :=
  inferInstanceAs (Decidable (_ < _))

/-- No row has more letters than its grid. -/
theorem length_le_letterCount {grid : Grid} {line : Row} (member : line ∈ grid) :
    line.length ≤ grid.letterCount := by
  induction grid with
  | nil => simp at member
  | cons first rest inductionHypothesis =>
      rcases List.mem_cons.mp member with rfl | later
      · simp [letterCount]
      · have := inductionHypothesis later
        simp only [letterCount]
        omega

/-- The least number that is too long is ten times the bound for moderate
grids. The powers are never evaluated: the limit stays a variable here. -/
private theorem pow_eq_pow_pred_mul {limit : Nat} (positive : 0 < limit) :
    Nat.pow 10 limit = Nat.pow 10 (limit - 1) * 10 := by
  cases limit with
  | zero => contradiction
  | succ limit => rfl

theorem Moderate.fits {grid : Grid} (moderate : grid.Moderate) {number : Int}
    (nonneg : 0 ≤ number) (bound : number ≤ grid.letterCount + grid.length + 2) :
    Numeral.fits number = true := by
  have spare : Nat.pow 10 Numeral.digitLimit = Nat.pow 10 (Numeral.digitLimit - 1) * 10 :=
    pow_eq_pow_pred_mul (by decide)
  unfold Moderate at moderate
  unfold Numeral.fits Numeral.bound
  rw [decide_eq_true_eq, spare]
  omega

/-- In a grid of moderate extent a place up to one step outside of a row can be
written down. -/
theorem Moderate.location_fits {grid : Grid} (moderate : grid.Moderate) {location : Location}
    {line : Row} (found : grid.row? location.row = some line) (col_nonneg : 0 ≤ location.col)
    (col_le : location.col ≤ line.length + 1) : location.fits = true := by
  rcases row?_eq_some_iff.mp found with ⟨row_nonneg, lineAt⟩
  have row_lt := lt_length_of_row?_eq_some found
  have length_le := length_le_letterCount (List.mem_of_getElem? lineAt)
  unfold Location.fits
  rw [Bool.and_eq_true]
  exact ⟨moderate.fits (by omega) (by omega), moderate.fits (by omega) (by omega)⟩

/-- In a grid of moderate extent the place of a letter can be written down. -/
theorem Moderate.fits_of_isValid {grid : Grid} (moderate : grid.Moderate) {location : Location}
    (valid : grid.isValid location = true) : location.fits = true := by
  obtain ⟨letter, found⟩ := Option.isSome_iff_exists.mp valid
  rcases letter?_eq_some_iff.mp found with ⟨line, lineAt, col_nonneg, letterAt⟩
  rcases List.getElem?_eq_some_iff.mp letterAt with ⟨col_lt, _⟩
  exact moderate.location_fits lineAt col_nonneg (by omega)

end Palimpsest.Grid
