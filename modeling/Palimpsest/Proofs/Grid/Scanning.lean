import Palimpsest.Proofs.Grid.Words

/-!
# Scanning a grid

Reading a word goes along its row letter by letter, once over the letters of the word and
once more over the blanks behind it; looking for the next word goes along the row and
from the end of each row to the start of the one below. `Scans` and `Seeks` are these
loops, one step at a time and without a bound on the number of steps. From every place,
inside the grid or not, each of them ends in exactly one way, and what they end with is
told by the letters of the grid alone.
-/

namespace Palimpsest.Grid

variable {grid : Grid} {location : Location} {accepts : Letter → Bool} {line row : Row}
  {letters : List Letter} {col stop : Nat} {result : Option Location}

/-! ## Runs of letters -/

/-- The letters stand one after the other from the location on and are accepted, and the
letter behind them, if there is one, is not. -/
structure IsRun (grid : Grid) (accepts : Letter → Bool) (location : Location)
    (letters : List Letter) : Prop where
  stands : ∀ across : Nat, across < letters.length →
    grid.letter? (location.right across) = letters[across]?
  accepted : ∀ letter ∈ letters, accepts letter = true
  ends : ∀ letter, grid.letter? (location.right letters.length) = some letter →
    accepts letter = false

theorem letter?_right (col_nonneg : 0 ≤ location.col) (across : Nat) :
    grid.letter? (location.right across) = (grid.lettersAt location)[across]? := by
  rw [letter?, lettersAt_right col_nonneg, List.head?_drop]

theorem lettersAt_of_col_neg (before : location.col < 0) : grid.lettersAt location = [] :=
  if_pos before

theorem letter?_right_zero_of_col_neg (before : location.col < 0) :
    grid.letter? (location.right (0 : Nat)) = none := by
  have here : location.right (0 : Nat) = location := by simp [Location.right, Location.shift]
  rw [here, letter?, lettersAt_of_col_neg before, List.head?_nil]

/-- A run is a front part of what stands at its location. One that begins before the
first column would have its first letter there. -/
theorem IsRun.isPrefix (run : grid.IsRun accepts location letters) :
    letters <+: grid.lettersAt location := by
  rw [List.prefix_iff_getElem?]
  intro across inside
  have found := run.stands across inside
  rw [List.getElem?_eq_getElem inside] at found
  by_cases before : location.col < 0
  · have first := run.stands 0 (by omega)
    rw [letter?_right_zero_of_col_neg before, List.getElem?_eq_getElem (by omega)] at first
    cases first
  · rwa [letter?_right (by omega)] at found

theorem takeWhile_eq_of_isRun (run : grid.IsRun accepts location letters) :
    (grid.lettersAt location).takeWhile accepts = letters := by
  obtain ⟨rest, split⟩ := run.isPrefix
  rw [← split, List.takeWhile_append_of_pos run.accepted]
  cases rest with
  | nil => simp
  | cons letter others =>
      have inside : 0 ≤ location.col := by
        by_contra before
        rw [lettersAt_of_col_neg (by omega)] at split
        simp at split
      have refused : accepts letter = false := by
        apply run.ends
        rw [letter?_right inside, ← split]
        simp
      simp [refused]

/-- From every place on there is exactly one run, which may be empty. -/
theorem isRun_iff :
    grid.IsRun accepts location letters ↔
      (grid.lettersAt location).takeWhile accepts = letters := by
  constructor
  · exact takeWhile_eq_of_isRun
  · rintro rfl
    refine ⟨?_, fun _ member => List.mem_takeWhile_imp member, ?_⟩
    · intro across inside
      exact letter?_right_of_prefix (List.takeWhile_prefix accepts) inside
    · intro letter behind
      by_cases before : location.col < 0
      · rw [lettersAt_of_col_neg before, List.takeWhile_nil, List.length_nil,
          letter?_right_zero_of_col_neg before] at behind
        cases behind
      · rw [letter?_right (by omega)] at behind
        exact accepts_of_getElem?_length_takeWhile behind

/-- What is read at a location is the run of letters without blanks there. -/
theorem isRun_readWord_iff :
    grid.IsRun isInk location letters ↔ grid.readWord location = ⟨letters⟩ := by
  rw [isRun_iff, readWord, Word.mk.injEq]

/-- Behind a word stands what is left of its row. -/
theorem lettersAt_right_readWord (grid : Grid) (location : Location) :
    grid.lettersAt (location.right (grid.readWord location).length) =
      (grid.lettersAt location).dropWhile isInk := by
  by_cases before : location.col < 0
  · have nothing : grid.lettersAt location = [] := lettersAt_of_col_neg before
    have here : location.right (grid.readWord location).length = location := by
      simp [readWord, nothing, Word.length, Location.right, Location.shift]
    rw [here, nothing, List.dropWhile_nil]
  · rw [lettersAt_right (by omega), readWord, Word.length]
    nth_rewrite 2 [← List.takeWhile_append_dropWhile (p := isInk) (l := grid.lettersAt location)]
    exact List.drop_left

/-- What is read behind a word is the run of blanks there. -/
theorem isRun_blanks_iff :
    grid.IsRun (fun letter => !isInk letter)
        (location.right (grid.readWord location).length) letters ↔
      grid.readWordAndBlanks location = ⟨(grid.readWord location).letters ++ letters⟩ := by
  rw [isRun_iff, lettersAt_right_readWord, readWordAndBlanks, Word.mk.injEq, readWord,
    List.append_cancel_left_eq]

/-- Where there is no letter, nothing is read. -/
theorem lettersAt_of_not_isValid (outside : grid.isValid location = false) :
    grid.lettersAt location = [] := by
  simpa [isValid, letter?] using outside

/-! ## Along a row -/

/-- Going along a row from a column on for as long as its letters are accepted, one
letter at a time, ends in the column `stop`. -/
inductive Scans (accepts : Letter → Bool) (row : Row) : (col stop : Nat) → Prop
  | finish {col : Nat} (ends : ∀ letter, row[col]? = some letter → accepts letter = false) :
      Scans accepts row col col
  | onward {col stop : Nat} {letter : Letter} (here : row[col]? = some letter)
      (accepted : accepts letter = true) (rest : Scans accepts row (col + 1) stop) :
      Scans accepts row col stop

theorem drop_of_getElem?_eq_some {letter : Letter} (here : row[col]? = some letter) :
    row.drop col = letter :: row.drop (col + 1) := by
  rcases List.getElem?_eq_some_iff.mp here with ⟨col_lt, rfl⟩
  exact List.drop_eq_getElem_cons col_lt

/-- The loop stops behind the longest accepted run, and nowhere else. -/
theorem scans_iff :
    Scans accepts row col stop ↔ stop = col + ((row.drop col).takeWhile accepts).length := by
  constructor
  · intro scans
    induction scans with
    | @finish col ends =>
        cases here : row[col]? with
        | none => simp [List.drop_eq_nil_of_le (List.getElem?_eq_none_iff.mp here)]
        | some letter => simp [drop_of_getElem?_eq_some here, ends letter here]
    | @onward col stop letter here accepted rest inductionHypothesis =>
        rw [drop_of_getElem?_eq_some here, List.takeWhile_cons_of_pos accepted, List.length_cons,
          inductionHypothesis]
        omega
  · rintro rfl
    generalize left : row.drop col = rest
    induction rest generalizing col with
    | nil =>
        apply Scans.finish
        intro letter here
        rw [drop_of_getElem?_eq_some here] at left
        cases left
    | cons letter rest inductionHypothesis =>
        have here : row[col]? = some letter := by rw [← List.head?_drop, left, List.head?_cons]
        rw [drop_of_getElem?_eq_some here] at left
        injection left with _ left
        by_cases accepted : accepts letter = true
        · rw [List.takeWhile_cons_of_pos accepted, List.length_cons, Nat.add_comm _ 1,
            ← Nat.add_assoc]
          exact .onward here accepted (inductionHypothesis left)
        · rw [List.takeWhile_cons_of_neg accepted]
          apply Scans.finish
          intro other otherHere
          rw [here] at otherHere
          cases otherHere
          simpa using accepted

/-- The first loop of reading ends behind the word. -/
theorem scans_readWord_iff (lineAt : grid.row? location.row = some line)
    (col_nonneg : 0 ≤ location.col) :
    Scans isInk line location.col.toNat stop ↔
      stop = location.col.toNat + (grid.readWord location).length := by
  rw [scans_iff, readWord, Word.length, lettersAt_of_row?_eq_some lineAt col_nonneg]

/-- The second one goes on from there and ends behind the blanks. -/
theorem scans_blanks_iff (lineAt : grid.row? location.row = some line)
    (col_nonneg : 0 ≤ location.col) :
    Scans (fun letter => !isInk letter) line
        (location.col.toNat + (grid.readWord location).length) stop ↔
      stop = location.col.toNat + (grid.readWordAndBlanks location).length := by
  have left : line.drop (location.col.toNat + (grid.readWord location).length) =
      (grid.lettersAt location).dropWhile isInk := by
    rw [← lettersAt_right_readWord, lettersAt_right col_nonneg,
      lettersAt_of_row?_eq_some lineAt col_nonneg, List.drop_drop]
  have length_eq : (grid.readWordAndBlanks location).length = (grid.readWord location).length +
      (((grid.lettersAt location).dropWhile isInk).takeWhile fun letter => !isInk letter).length :=
    List.length_append
  rw [scans_iff, left, length_eq, Nat.add_assoc]

/-! ## From row to row -/

/-- Looking for a letter of a word from a location on, one letter at a time and behind
the last letter of a row at the start of the row below, comes to a result. -/
inductive Seeks (grid : Grid) : Location → Option Location → Prop
  | past {location : Location} (below : grid.length ≤ location.row) : Seeks grid location none
  | found {location : Location} (ink : grid.HasInk location) :
      Seeks grid location (some location)
  | blank {location : Location} {letter : Letter} {result : Option Location}
      (here : grid.letter? location = some letter) (blank : isInk letter = false)
      (rest : Seeks grid (location.right 1) result) : Seeks grid location result
  | wrap {location : Location} {line : Row} {result : Option Location}
      (lineAt : grid.row? location.row = some line) (behind : line.length ≤ location.col)
      (rest : Seeks grid ⟨location.row + 1, 0⟩ result) : Seeks grid location result

/-- Whatever the loop comes to is the next word. -/
theorem Seeks.nextWord_eq (seeks : grid.Seeks location result) :
    grid.nextWord location = result := by
  induction seeks with
  | @past location below =>
      rw [nextWord_eq_none_iff]
      intro other ink leads
      obtain ⟨line, lineAt, _⟩ := hasInk_iff.mp ink
      have := lt_length_of_row?_eq_some lineAt
      unfold Location.Leads at leads
      omega
  | @found location ink =>
      exact nextWord_eq_some_iff.mpr ⟨ink, .refl location, fun _ _ leads => leads⟩
  | @blank location letter result here blank rest inductionHypothesis =>
      have passed : grid.nextWord ⟨location.row, location.col⟩ =
          grid.nextWord ⟨location.row, location.col + 1⟩ := by
        rw [nextWord_eq_iff (by omega)]
        rintro col reached notPassed ⟨other, otherHere, inked⟩
        obtain rfl : col = location.col := by omega
        cases here.symm.trans otherHere
        rw [blank] at inked
        cases inked
      rw [← inductionHypothesis]
      simpa [Location.right, Location.shift] using passed
  | @wrap location line result lineAt behind rest inductionHypothesis =>
      rw [← inductionHypothesis]
      apply nextWord_congr
      intro other ink
      obtain ⟨otherLine, otherLineAt, col_nonneg, letter, letterAt, _⟩ := hasInk_iff.mp ink
      rcases List.getElem?_eq_some_iff.mp letterAt with ⟨col_lt, _⟩
      have inside : other.row = location.row → other.col < location.col := by
        intro level
        rw [level, lineAt] at otherLineAt
        cases otherLineAt
        omega
      simp only [Location.Leads]
      omega

/-- In a row that exists the loop ends if it does so from the row below. -/
theorem exists_seeks_of_row {row : Nat} (lineAt : grid.row? row = some line)
    (below : ∃ result, grid.Seeks ⟨row + 1, 0⟩ result) (col : Nat) :
    ∃ result, grid.Seeks ⟨row, col⟩ result := by
  -- The letters left in the row become fewer with every step.
  induction left : line.length - col generalizing col with
  | zero =>
      obtain ⟨result, seeks⟩ := below
      exact ⟨result, .wrap lineAt (by simp only; omega) seeks⟩
  | succ left inductionHypothesis =>
      have inside : col < line.length := by omega
      have here : grid.letter? ⟨row, col⟩ = some (line.get ⟨col, inside⟩) :=
        letter?_eq_some_iff.mpr
          ⟨line, lineAt, Int.natCast_nonneg col, List.getElem?_eq_getElem inside⟩
      by_cases inked : isInk (line.get ⟨col, inside⟩) = true
      · exact ⟨_, .found ⟨_, here, inked⟩⟩
      · obtain ⟨result, seeks⟩ := inductionHypothesis (col + 1) (by omega)
        exact ⟨result, .blank here (by simpa using inked) seeks⟩

/-- The loop ends wherever it starts inside the first row and column. -/
theorem exists_seeks (grid : Grid) (row col : Nat) :
    ∃ result, grid.Seeks ⟨row, col⟩ result := by
  induction left : grid.length - row generalizing row col with
  | zero => exact ⟨none, .past (by simp only; omega)⟩
  | succ left inductionHypothesis =>
      have inside : row < grid.length := by omega
      have lineAt : grid.row? row = some grid[row] :=
        row?_eq_some_iff.mpr ⟨Int.natCast_nonneg row, List.getElem?_eq_getElem inside⟩
      exact exists_seeks_of_row lineAt (inductionHypothesis (row + 1) 0 (by omega)) col

/-- The loop comes to the next word, and to nothing else. -/
theorem seeks_clamp_iff : grid.Seeks location.clamp result ↔ grid.nextWord location = result := by
  rw [← nextWord_clamp]
  constructor
  · exact Seeks.nextWord_eq
  · rintro rfl
    have ⟨row_nonneg, col_nonneg⟩ := location.clamp_nonneg
    obtain ⟨result, seeks⟩ := grid.exists_seeks location.clamp.row.toNat location.clamp.col.toNat
    rw [Int.toNat_of_nonneg row_nonneg, Int.toNat_of_nonneg col_nonneg] at seeks
    rwa [seeks.nextWord_eq]

/-! ## Both scans -/

/-- At every location, reading gives the run of letters without blanks that stands there,
with the blanks behind it the run of blanks that follows as well, and nothing at all where
there is no letter. Looking for the next word finds the first letter of a word, in reading
order, at or behind the location, where a column before the first counts as the first and
a row before the first as the start of the grid; it finds nothing exactly where there is
no such letter. All three loops end, with these results and no others. -/
theorem scanning_reads_runs_and_finds_first_words (grid : Grid) (location : Location) :
    (∀ letters, grid.readWord location = ⟨letters⟩ ↔ grid.IsRun isInk location letters) ∧
    (∀ letters, grid.readWordAndBlanks location = ⟨(grid.readWord location).letters ++ letters⟩ ↔
      grid.IsRun (fun letter => !isInk letter)
        (location.right (grid.readWord location).length) letters) ∧
    (grid.isValid location = false →
      grid.readWord location = ⟨[]⟩ ∧ grid.readWordAndBlanks location = ⟨[]⟩) ∧
    (∀ found, grid.nextWord location = some found ↔
      grid.HasInk found ∧ location.clamp.Leads found ∧
        ∀ other, grid.HasInk other → location.clamp.Leads other → found.Leads other) ∧
    (grid.nextWord location = none ↔
      ∀ other, grid.HasInk other → ¬ location.clamp.Leads other) ∧
    (∀ line, grid.row? location.row = some line → 0 ≤ location.col →
      (∀ stop, Scans isInk line location.col.toNat stop ↔
        stop = location.col.toNat + (grid.readWord location).length) ∧
      ∀ stop, Scans (fun letter => !isInk letter) line
          (location.col.toNat + (grid.readWord location).length) stop ↔
        stop = location.col.toNat + (grid.readWordAndBlanks location).length) ∧
    ∀ result, grid.Seeks location.clamp result ↔ grid.nextWord location = result := by
  refine ⟨fun _ => isRun_readWord_iff.symm, fun _ => isRun_blanks_iff.symm, ?_, ?_, ?_, ?_,
    fun _ => seeks_clamp_iff⟩
  · intro outside
    simp [readWord, readWordAndBlanks, lettersAt_of_not_isValid outside]
  · intro found
    rw [← nextWord_clamp, nextWord_eq_some_iff]
  · rw [← nextWord_clamp, nextWord_eq_none_iff]
  · intro line lineAt col_nonneg
    exact ⟨fun _ => scans_readWord_iff lineAt col_nonneg,
      fun _ => scans_blanks_iff lineAt col_nonneg⟩

/-- Before the first column nothing is read; in it the loops stop behind the word and
behind the blank. -/
theorem scanning_reads_runs_and_finds_first_words_at_edge :
    let grid : Grid := [[['a'], [' '], ['b']]]
    (grid.readWord ⟨0, -1⟩ = ⟨[]⟩ ∧ grid.readWordAndBlanks ⟨0, -1⟩ = ⟨[]⟩) ∧
      (∀ stop, Scans isInk [['a'], [' '], ['b']] 0 stop ↔ stop = 1) ∧
      ∀ stop, Scans (fun letter => !isInk letter) [['a'], [' '], ['b']] 1 stop ↔ stop = 2 := by
  intro grid
  obtain ⟨_, _, outside, _⟩ := scanning_reads_runs_and_finds_first_words grid ⟨0, -1⟩
  obtain ⟨_, _, _, _, _, loops, _⟩ := scanning_reads_runs_and_finds_first_words grid ⟨0, 0⟩
  exact ⟨outside (by decide), loops [['a'], [' '], ['b']] (by decide) (by decide)⟩

end Palimpsest.Grid
