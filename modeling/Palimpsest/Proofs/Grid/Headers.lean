import Mathlib.Data.Nat.Find
import Palimpsest.Proofs.Grid.Entry
import Palimpsest.Proofs.Grid.Words
import Palimpsest.Proofs.Location.Code

/-!
# Headers and the entry point

A header has one of two forms, and the test for headers accepts these forms and nothing
else, although it never tries more than one way of taking a text apart. A row counts as
a header when it opens a paragraph and has a row below it. The scan finds the first row
that counts, and so the entry point is the first letter of a word further down.
-/

namespace Palimpsest

namespace Grid

/-! ## The forms of a header -/

/-- What may follow the name of the language in a header. -/
inductive RemarkText : Text → Prop
  | nothing : RemarkText []
  | behind {blank : Char} {rest : Text} (parted : Text.isBlank blank = true)
      (oneLine : Text.lineFeed ∉ rest) : RemarkText (blank :: rest)

/-- What a header reads: snails, or dashes with the name of the language. -/
inductive HeaderText : Text → Prop
  | snails {text : Text} (nonempty : text ≠ []) (only : ∀ c ∈ text, c = snail) : HeaderText text
  | dashes {dashes blanks remark : Text} (two : 2 ≤ dashes.length) (dashed : ∀ c ∈ dashes, c = '-')
      (parted : blanks ≠ []) (blank : ∀ c ∈ blanks, Text.isBlank c = true)
      (remarked : RemarkText remark) :
      HeaderText (dashes ++ (blanks ++ (languageName ++ remark)))

theorem isSnailHeader_iff {text : Text} :
    isSnailHeader text = true ↔ text ≠ [] ∧ ∀ c ∈ text, c = snail := by
  simp [isSnailHeader]

theorem isRemark_iff {text : Text} : isRemark text = true ↔ RemarkText text := by
  constructor
  · intro remarked
    cases text with
    | nil => exact .nothing
    | cons c rest =>
        simp only [isRemark, Bool.and_eq_true, List.all_eq_true, bne_iff_ne] at remarked
        exact .behind remarked.1 fun member => remarked.2 _ member rfl
  · rintro (_ | ⟨parted, oneLine⟩)
    · rfl
    · simp only [isRemark, Bool.and_eq_true, List.all_eq_true, bne_iff_ne]
      exact ⟨parted, fun c member same => oneLine (same ▸ member)⟩

/-- Blanks are no dashes and the name of the language begins with no blank, so in a
dashed header each part ends where the next one begins. -/
theorem isDashHeader_append {dashes blanks remark : Text} (dashed : ∀ c ∈ dashes, c = '-')
    (parted : blanks ≠ []) (blank : ∀ c ∈ blanks, Text.isBlank c = true) :
    isDashHeader (dashes ++ (blanks ++ (languageName ++ remark))) =
      (decide (2 ≤ dashes.length) && isRemark remark) := by
  have blankFirst : ∀ c ∈ (blanks ++ (languageName ++ remark)).head?, (c == '-') = false := by
    intro c first
    rw [List.head?_append_of_ne_nil _ parted] at first
    apply beq_eq_false_iff_ne.mpr
    rintro rfl
    exact absurd (blank _ (List.mem_of_mem_head? first)) (by decide)
  have nameFirst : ∀ c ∈ (languageName ++ remark).head?, Text.isBlank c = false := by
    rintro c ⟨⟩
    decide
  obtain ⟨dashes_eq, afterDashes_eq⟩ :=
    Text.span_append (fun c member => beq_iff_eq.mpr (dashed c member)) blankFirst
  obtain ⟨blanks_eq, afterBlanks_eq⟩ := Text.span_append blank nameFirst
  have named : languageName.isPrefixOf (languageName ++ remark) = true :=
    List.isPrefixOf_iff_prefix.mpr (List.prefix_append _ _)
  simp only [isDashHeader, dashes_eq, afterDashes_eq, blanks_eq, afterBlanks_eq, named,
    List.drop_left, List.isEmpty_eq_false_iff.mpr parted, Bool.not_false, Bool.and_true]

/-- The test for headers accepts the two forms. -/
theorem isHeader_iff {text : Text} : isHeader text = true ↔ HeaderText text := by
  rw [isHeader, Bool.or_eq_true]
  constructor
  · rintro (snails | dashed)
    · obtain ⟨nonempty, only⟩ := isSnailHeader_iff.mp snails
      exact .snails nonempty only
    · simp only [isDashHeader, Bool.and_eq_true, decide_eq_true_eq, Bool.not_eq_true',
        List.isEmpty_eq_false_iff, List.isPrefixOf_iff_prefix, isRemark_iff] at dashed
      obtain ⟨⟨⟨two, parted⟩, remark, name_eq⟩, remarked⟩ := dashed
      rw [← name_eq, List.drop_left] at remarked
      have only : ∀ c ∈ text.takeWhile (· == '-'), c = '-' := by
        intro c member
        simpa using List.mem_takeWhile_imp member
      have header := HeaderText.dashes two only parted
        (fun _ member => List.mem_takeWhile_imp member) remarked
      rwa [name_eq, List.takeWhile_append_dropWhile, List.takeWhile_append_dropWhile] at header
  · rintro (⟨nonempty, only⟩ | ⟨two, dashed, parted, blank, remarked⟩)
    · exact .inl (isSnailHeader_iff.mpr ⟨nonempty, only⟩)
    · right
      rw [isDashHeader_append dashed parted blank, isRemark_iff.mpr remarked]
      simpa using two

/-! ## Rows that count as headers -/

/-- The row with the given number counts as a header: it is not the last one, nothing
stands in the row above it, and it reads like a header. -/
structure Heads (grid : Grid) (index : Nat) : Prop where
  followed : index + 1 < grid.length
  opens : index = 0 ∨ grid[index - 1]? = some []
  reads : ∃ row, grid[index]? = some row ∧ HeaderText (rowText row)

/-- Of the rows from the one numbered `start` on, the one numbered `index` is the first
that counts as a header. -/
structure HeadsFirst (grid : Grid) (start index : Nat) : Prop where
  behind : start ≤ index
  heads : grid.Heads index
  first : ∀ earlier, start ≤ earlier → earlier < index → ¬ grid.Heads earlier

variable {grid : Grid} {start index : Nat}

/-- If any row counts, one is the first to do so. -/
theorem Heads.exists_headsFirst (heads : grid.Heads index) : ∃ first, grid.HeadsFirst 0 first := by
  classical
  have existsHeads : ∃ index, grid.Heads index := ⟨index, heads⟩
  exact ⟨Nat.find existsHeads, Nat.zero_le _, Nat.find_spec existsHeads,
    fun earlier _ before => Nat.find_min existsHeads before⟩

theorem HeadsFirst.unique {other : Nat} (first : grid.HeadsFirst start index)
    (again : grid.HeadsFirst start other) : index = other := by
  rcases Nat.lt_trichotomy index other with above | same | below
  · exact absurd first.heads (again.first index first.behind above)
  · exact same
  · exact absurd again.heads (first.first other again.behind below)

/-- The last row does not count, nor does anything behind it. -/
theorem not_headsFirst_of_length_le (last : grid.length ≤ start + 1) :
    ¬ grid.HeadsFirst start index := by
  intro first
  have := first.behind
  have := first.heads.followed
  omega

theorem Heads.headsFirst_iff (heads : grid.Heads start) :
    grid.HeadsFirst start index ↔ start = index := by
  have here : grid.HeadsFirst start start :=
    ⟨Nat.le_refl start, heads, fun earlier behind before => absurd behind (Nat.not_le.mpr before)⟩
  constructor
  · exact here.unique
  · rintro rfl
    exact here

/-- A row that does not count is passed over. -/
theorem headsFirst_iff_of_not_heads (plain : ¬ grid.Heads start) :
    grid.HeadsFirst start index ↔ grid.HeadsFirst (start + 1) index := by
  constructor
  · rintro ⟨behind, heads, first⟩
    have apart : start ≠ index := fun same => plain (same ▸ heads)
    exact ⟨by omega, heads, fun earlier later => first earlier (by omega)⟩
  · rintro ⟨behind, heads, first⟩
    refine ⟨by omega, heads, ?_⟩
    intro earlier later before
    by_cases same : start = earlier
    · exact same ▸ plain
    · exact first earlier (by omega) before

/-! ## The scan -/

theorem opensBelow_concat (opens : Bool) (above : List Row) (row : Row) :
    opensBelow opens (above ++ [row]) = row.isEmpty := by
  simp [opensBelow]

/-- Whether a row counts is seen from the rows above, from what it reads, and from
whether there are rows below. -/
theorem heads_append_cons_iff (above : List Row) (row : Row) (below : List Row) :
    Heads (above ++ row :: below) above.length ↔
      below ≠ [] ∧ (opensBelow true above && isHeader (rowText row)) = true := by
  have rowAt : (above ++ row :: below)[above.length]? = some row := by simp
  have opens_iff : opensBelow true above = true ↔
      above.length = 0 ∨ (above ++ row :: below)[above.length - 1]? = some [] := by
    rcases List.eq_nil_or_concat' above with rfl | ⟨front, last, rfl⟩
    · simp [opensBelow]
    · simp [opensBelow]
  rw [Bool.and_eq_true, opens_iff, isHeader_iff]
  constructor
  · rintro ⟨followed, opens, other, otherAt, header⟩
    rw [rowAt] at otherAt
    cases otherAt
    refine ⟨?_, opens, header⟩
    rintro rfl
    simp at followed
  · rintro ⟨more, opens, header⟩
    have := List.length_pos_iff.mpr more
    refine ⟨?_, opens, row, rowAt, header⟩
    simp only [List.length_append, List.length_cons]
    omega

theorem headerFrom_cons_of_ne_nil {opens : Bool} {row : Row} {rest : List Row} (more : rest ≠ []) :
    headerFrom index opens (row :: rest) =
      if opens && isHeader (rowText row) then some index
      else headerFrom (index + 1) row.isEmpty rest := by
  cases rest with
  | nil => exact absurd rfl more
  | cons next others => rfl

/-- A scan that has passed some rows finds the first row further down that counts. -/
theorem headerFrom_eq_some_iff (above below : List Row) :
    headerFrom above.length (opensBelow true above) below = some index ↔
      HeadsFirst (above ++ below) above.length index := by
  -- The rows that have been passed grow by one in every step; the last of them is all
  -- that the flag remembers.
  induction below generalizing above with
  | nil => exact iff_of_false nofun (not_headsFirst_of_length_le (by simp))
  | cons row rest inductionHypothesis =>
      by_cases last : rest = []
      · subst last
        exact iff_of_false nofun (not_headsFirst_of_length_le (by simp))
      · have here := heads_append_cons_iff above row rest
        rw [headerFrom_cons_of_ne_nil last]
        split
        · rename_i counts
          rw [Option.some.injEq, (here.mpr ⟨last, counts⟩).headsFirst_iff]
        · rename_i passed
          have further := inductionHypothesis (above ++ [row])
          rw [List.length_append, List.length_singleton, opensBelow_concat, List.append_assoc,
            List.singleton_append] at further
          rw [further, headsFirst_iff_of_not_heads fun heads => passed (here.mp heads).2]

/-! ## The entry point -/

/-- Down from the row below another, letters of words are those in lower rows. -/
theorem HasInk.leads_below_iff {other : Location} (ink : grid.HasInk other) :
    (⟨index + 1, 0⟩ : Location).Leads other ↔ index < other.row := by
  have := ink.nonneg.2
  simp only [Location.Leads]
  omega

theorem nextWord_below_eq_some_iff {location : Location} :
    grid.nextWord ⟨index + 1, 0⟩ = some location ↔
      index < location.row ∧ grid.HasInk location ∧
        ∀ other, grid.HasInk other → index < other.row → location.Leads other := by
  rw [nextWord_eq_some_iff]
  constructor
  · rintro ⟨ink, leads, first⟩
    exact ⟨ink.leads_below_iff.mp leads, ink,
      fun other otherInk below => first other otherInk (otherInk.leads_below_iff.mpr below)⟩
  · rintro ⟨below, ink, first⟩
    exact ⟨ink, ink.leads_below_iff.mpr below,
      fun other otherInk leads => first other otherInk (otherInk.leads_below_iff.mp leads)⟩

theorem nextWord_below_eq_none_iff :
    grid.nextWord ⟨index + 1, 0⟩ = none ↔ ∀ other, grid.HasInk other → other.row ≤ index := by
  rw [nextWord_eq_none_iff]
  constructor
  · intro passed other ink
    exact Int.not_lt.mp fun lower => passed other ink (ink.leads_below_iff.mpr lower)
  · intro above other ink leads
    exact absurd (ink.leads_below_iff.mp leads) (Int.not_lt.mpr (above other ink))

/-- The entry point is looked for below the first row that counts as a header. -/
theorem HeadsFirst.entry_eq (first : grid.HeadsFirst 0 index) :
    grid.entry = grid.nextWord ⟨index + 1, 0⟩ := by
  have scanned : headerFrom 0 true grid = some index := (headerFrom_eq_some_iff [] grid).mpr first
  rw [entry, scanned]

theorem entry_of_not_heads (headless : ∀ index, ¬ grid.Heads index) : grid.entry = none := by
  have scanned : headerFrom 0 true grid = none := by
    rw [Option.eq_none_iff_forall_ne_some]
    intro index found
    exact headless index ((headerFrom_eq_some_iff [] grid).mp found).heads
  rw [entry, scanned]

/-- The entry point is the first letter of a word, in reading order, in the rows below
the first row that counts as a header. There is none exactly where no row counts or no
word has a letter below. -/
theorem entry_is_first_word_below_header (grid : Grid) :
    (∀ location, grid.entry = some location ↔
      ∃ index, grid.HeadsFirst 0 index ∧ index < location.row ∧ grid.HasInk location ∧
        ∀ other, grid.HasInk other → index < other.row → location.Leads other) ∧
    (grid.entry = none ↔
      (∀ index, ¬ grid.Heads index) ∨
        ∃ index, grid.HeadsFirst 0 index ∧ ∀ other, grid.HasInk other → other.row ≤ index) := by
  by_cases headed : ∃ index, grid.Heads index
  · rcases headed with ⟨_, heads⟩
    obtain ⟨index, first⟩ := heads.exists_headsFirst
    have only (other : Nat) : grid.HeadsFirst 0 other ↔ other = index :=
      ⟨fun again => again.unique first, fun same => same ▸ first⟩
    have notHeadless : ¬ ∀ index, ¬ grid.Heads index := fun headless => headless _ heads
    simp only [first.entry_eq, only, exists_eq_left, notHeadless, false_or]
    exact ⟨fun _ => nextWord_below_eq_some_iff, nextWord_below_eq_none_iff⟩
  · have headless : ∀ index, ¬ grid.Heads index := fun index heads => headed ⟨index, heads⟩
    have nowhere (index : Nat) : ¬ grid.HeadsFirst 0 index := fun first => headless _ first.heads
    simp [entry_of_not_heads headless, headless, nowhere]

end Grid

end Palimpsest
