import Palimpsest.Proofs.Grid.Lines

/-!
# Loading texts

Line ends are folded in one pass over a text. This comes to the same as replacing
first every pair of carriage return and line feed and then every carriage return
that is left. Loading keeps the text that results: its lines are the rows, letter by
letter, and loading it again changes nothing.
-/

namespace Palimpsest

namespace Text

/-! ## Two passes in one -/

/-- The text with every occurrence of a pattern replaced. Occurrences are taken from
left to right and never overlap, and what is put in is not looked at again. -/
def replaceAll (pattern replacement : Text) : Text → Text
  | [] => []
  | c :: rest =>
    if pattern.isPrefixOf (c :: rest) then
      replacement ++ replaceAll pattern replacement (rest.drop (pattern.length - 1))
    else c :: replaceAll pattern replacement rest
termination_by text => text.length
decreasing_by
  · simp only [List.length_drop, List.length_cons]
    omega
  · simp

variable {pattern replacement rest : Text} {c : Char}

@[simp]
theorem replaceAll_nil : replaceAll pattern replacement [] = [] := by
  rw [replaceAll]

/-- An occurrence at the front is replaced as a whole. -/
theorem replaceAll_append (something : pattern ≠ []) :
    replaceAll pattern replacement (pattern ++ rest) =
      replacement ++ replaceAll pattern replacement rest := by
  cases pattern with
  | nil => exact absurd rfl something
  | cons first others => simp [replaceAll]

/-- A character where no occurrence begins is kept. -/
theorem replaceAll_cons_of_not_prefix (apart : ¬ pattern <+: c :: rest) :
    replaceAll pattern replacement (c :: rest) = c :: replaceAll pattern replacement rest := by
  rw [replaceAll, if_neg (by simpa using apart)]

/-- The text with every carriage return replaced by a line feed, once all pairs with a
line feed have been replaced. -/
def withLineFeeds (text : Text) : Text :=
  replaceAll [carriageReturn] [lineFeed] (replaceAll [carriageReturn, lineFeed] [lineFeed] text)

theorem withLineFeeds_pair (rest : Text) :
    withLineFeeds (carriageReturn :: lineFeed :: rest) = lineFeed :: withLineFeeds rest := by
  have paired : [carriageReturn, lineFeed] ≠ [] := List.cons_ne_nil _ _
  have different : carriageReturn ≠ lineFeed := by decide
  have plain : ¬ [carriageReturn] <+:
      lineFeed :: replaceAll [carriageReturn, lineFeed] [lineFeed] rest := by
    simpa using different
  calc withLineFeeds ([carriageReturn, lineFeed] ++ rest)
      = replaceAll [carriageReturn] [lineFeed]
          (lineFeed :: replaceAll [carriageReturn, lineFeed] [lineFeed] rest) := by
        rw [withLineFeeds, replaceAll_append paired, List.singleton_append]
    _ = lineFeed :: withLineFeeds rest := replaceAll_cons_of_not_prefix plain

theorem withLineFeeds_return (alone : lineFeed ∉ rest.head?) :
    withLineFeeds (carriageReturn :: rest) = lineFeed :: withLineFeeds rest := by
  have unpaired : ¬ [carriageReturn, lineFeed] <+: carriageReturn :: rest := by
    cases rest with
    | nil => simp
    | cons d others => simpa [eq_comm] using alone
  have single : [carriageReturn] ≠ [] := List.cons_ne_nil _ _
  calc withLineFeeds (carriageReturn :: rest)
      = replaceAll [carriageReturn] [lineFeed]
          ([carriageReturn] ++ replaceAll [carriageReturn, lineFeed] [lineFeed] rest) := by
        rw [withLineFeeds, replaceAll_cons_of_not_prefix unpaired, List.singleton_append]
    _ = lineFeed :: withLineFeeds rest := replaceAll_append single

theorem withLineFeeds_other (other : c ≠ carriageReturn) :
    withLineFeeds (c :: rest) = c :: withLineFeeds rest := by
  have unpaired : ¬ [carriageReturn, lineFeed] <+: c :: rest := by
    simp [other.symm]
  have plain : ¬ [carriageReturn] <+:
      c :: replaceAll [carriageReturn, lineFeed] [lineFeed] rest := by
    simpa using other.symm
  rw [withLineFeeds, replaceAll_cons_of_not_prefix unpaired, replaceAll_cons_of_not_prefix plain,
    withLineFeeds]

/-- The one pass does what the two passes do. -/
theorem foldLineEnds_eq_withLineFeeds (text : Text) : foldLineEnds text = withLineFeeds text := by
  have nothing : withLineFeeds [] = [] := by simp [withLineFeeds]
  fun_induction foldLineEnds text with
  | case1 => exact nothing.symm
  | case2 => rw [withLineFeeds_return (by simp), nothing]
  | case3 c other => rw [withLineFeeds_other other, nothing]
  | case4 rest inductionHypothesis => rw [withLineFeeds_pair, inductionHypothesis]
  | case5 d rest other inductionHypothesis =>
      rw [withLineFeeds_return (by simpa using other), inductionHypothesis]
  | case6 c d rest other inductionHypothesis =>
      rw [withLineFeeds_other other, inductionHypothesis]

end Text

/-! ## Cells and rows -/

namespace Buffer

/-- Every cell but a line break is a letter of a row, and there is one row more than
there are line breaks. -/
theorem length_add_one_eq (cells : List Mark) :
    cells.length + 1 = Grid.letterCount (rowsOf cells) + (rowsOf cells).length := by
  induction cells with
  | nil => rfl
  | cons mark rest inductionHypothesis =>
      cases mark with
      | newline =>
          simp only [rowsOf, Grid.letterCount, List.length_cons, List.length_nil]
          omega
      | letter letter =>
          cases rows : rowsOf rest with
          | nil => exact absurd rows (rowsOf_ne_nil rest)
          | cons row others =>
              rw [rows] at inductionHypothesis
              simp only [rowsOf, rows, Grid.letterCount, List.length_cons] at inductionHypothesis ⊢
              omega

/-- Loading is faithful and can be repeated. The buffer has the text with all its line
ends made line feeds, and the lines of that text are the rows. No letter is empty or
has a line end, the cells are the letters and a break between any two rows, and
loading what the buffer shows, or the text with line feeds, gives the same cells. -/
theorem load_is_faithful [Cluster.Splitter] (text : Text) :
    let buffer := load text
    buffer.text = text.withLineFeeds ∧
    buffer.rows.map Grid.rowText = text.withLineFeeds.splitOn Text.lineFeed ∧
    0 < buffer.rows.length ∧
    (∀ row ∈ buffer.rows, ∀ letter ∈ row,
      letter ≠ [] ∧ Text.lineFeed ∉ letter ∧ Text.carriageReturn ∉ letter) ∧
    buffer.size + 1 = Grid.letterCount buffer.rows + buffer.rows.length ∧
    load buffer.text = buffer ∧ load text.withLineFeeds = buffer := by
  intro buffer
  have rows_ne_nil : buffer.rows ≠ [] := rowsOf_ne_nil _
  have tidy : Grid.Tidy buffer.rows := Grid.tidy_rows_load text
  have text_eq : buffer.text = text.withLineFeeds := by
    rw [text_load, Text.foldLineEnds_eq_withLineFeeds]
  have again : load buffer.text = buffer := load_text_load text
  refine ⟨text_eq, ?_, List.length_pos_iff.mpr rows_ne_nil, ?_, length_add_one_eq _, again, ?_⟩
  · rw [← text_eq, ← Grid.text_rows, Grid.splitOn_text tidy rows_ne_nil]
  · intro row member letter inside
    have clustered := (Grid.mem_split_of_mem_rows_load member inside).1
    have oneLine := tidy row member letter inside
    refine ⟨Cluster.ne_nil_of_mem_split clustered, ?_, ?_⟩
    · exact fun among => (oneLine _ among).1 rfl
    · exact fun among => (oneLine _ among).2 rfl
  · rw [← text_eq, again]

end Buffer

end Palimpsest
