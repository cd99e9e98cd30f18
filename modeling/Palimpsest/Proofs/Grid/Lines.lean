import Palimpsest.Proofs.Program.Mirror

/-!
# Rows and lines

The text of a grid has a line feed between its rows. It can be cut into the rows
again as long as no letter has a line feed of its own. The letters of a loaded text
have none: line ends are folded into line feeds first, and a line feed that follows
no carriage return is a cluster by itself. Edits keep this up when they put in texts
without line ends, and they never take rows away.
-/

namespace Palimpsest

namespace Text

/-- A text without line ends. -/
def OneLine (text : Text) : Prop :=
  ∀ c ∈ text, c ≠ lineFeed ∧ c ≠ carriageReturn

instance (text : Text) : Decidable (OneLine text) :=
  List.decidableBAll (fun c => c ≠ lineFeed ∧ c ≠ carriageReturn) text

theorem OneLine.mono {part text : Text} (oneLine : OneLine text) (subset : part ⊆ text) :
    OneLine part :=
  fun c member => oneLine c (subset member)

@[simp]
theorem oneLine_nil : OneLine [] := by
  intro c member
  cases member

@[simp]
theorem oneLine_append_iff {first second : Text} :
    OneLine (first ++ second) ↔ OneLine first ∧ OneLine second :=
  List.forall_mem_append

@[simp]
theorem oneLine_cons_iff {c : Char} {rest : Text} :
    OneLine (c :: rest) ↔ (c ≠ lineFeed ∧ c ≠ carriageReturn) ∧ OneLine rest :=
  List.forall_mem_cons

theorem oneLine_flatten_iff {parts : List Text} :
    OneLine parts.flatten ↔ ∀ part ∈ parts, OneLine part := by
  induction parts with
  | nil => simp
  | cons first rest inductionHypothesis => simp [inductionHypothesis]

theorem oneLine_of_isDigit {digits : Text} (all : ∀ c ∈ digits, c.isDigit = true) :
    OneLine digits := by
  intro c member
  constructor
  · rintro rfl
    exact absurd (all _ member) (by decide)
  · rintro rfl
    exact absurd (all _ member) (by decide)

/-- Folding line ends leaves no carriage return. -/
theorem carriageReturn_notMem_foldLineEnds (text : Text) :
    carriageReturn ∉ foldLineEnds text := by
  have different : lineFeed ≠ carriageReturn := by decide
  fun_induction foldLineEnds text with
  | case1 => exact List.not_mem_nil
  | case2 => simpa using different.symm
  | case3 c other => simpa using Ne.symm other
  | case4 rest inductionHypothesis => simp [different.symm, inductionHypothesis]
  | case5 d rest other inductionHypothesis => simp [different.symm, inductionHypothesis]
  | case6 c d rest other inductionHypothesis => simp [Ne.symm other, inductionHypothesis]

/-- A text without carriage returns is left as it is. -/
theorem foldLineEnds_of_notMem {text : Text} (plain : carriageReturn ∉ text) :
    foldLineEnds text = text := by
  fun_induction foldLineEnds text with
  | case1 => rfl
  | case2 => simp at plain
  | case3 c other => rfl
  | case4 rest inductionHypothesis => simp at plain
  | case5 d rest other inductionHypothesis => simp at plain
  | case6 c d rest other inductionHypothesis =>
      rw [inductionHypothesis fun inside => plain (List.mem_cons_of_mem c inside)]

end Text

/-! ## Loaded texts -/

theorem Mark.text_ofCluster (cluster : Text) : (ofCluster cluster).text = cluster := by
  unfold ofCluster
  split
  · rename_i lineEnd
    exact lineEnd.symm
  · rfl

/-- A buffer shows the text that it has loaded, with its line ends folded. -/
theorem Buffer.text_load [Cluster.Splitter] (text : Text) :
    (Buffer.load text).text = Text.foldLineEnds text := by
  have cells : ∀ clusters : List Text,
      (clusters.map Mark.ofCluster).flatMap Mark.text = clusters.flatten := by
    intro clusters
    induction clusters with
    | nil => rfl
    | cons cluster rest inductionHypothesis =>
        rw [List.map_cons, List.flatMap_cons, inductionHypothesis, Mark.text_ofCluster]
        rfl
  rw [Buffer.text, Buffer.load, cells, Cluster.flatten_split]

/-- What a buffer shows can be loaded again: folded line ends are folded no further,
and the same text is cut into the same clusters. -/
theorem Buffer.load_text_load [Cluster.Splitter] (text : Text) :
    Buffer.load (Buffer.load text).text = Buffer.load text := by
  rw [text_load text, load, load,
    Text.foldLineEnds_of_notMem (Text.carriageReturn_notMem_foldLineEnds text)]

theorem Buffer.text_load_text [Cluster.Splitter] (text : Text) :
    (Buffer.load (Buffer.load text).text).text = (Buffer.load text).text := by
  rw [load_text_load]

/-! ## Numbers and locations -/

theorem Numeral.oneLine_text (number : Int) : Text.OneLine (Numeral.text number) := by
  have digits : ∀ n : Nat, Text.OneLine (Nat.toDigits 10 n) := fun n =>
    Text.oneLine_of_isDigit fun _ member =>
      Nat.isDigit_of_mem_toDigits (by decide) (by decide) member
  cases number with
  | ofNat n => exact digits n
  | negSucc n => exact Text.oneLine_cons_iff.mpr ⟨by decide, digits (n + 1)⟩

theorem Location.oneLine_text (location : Location) : Text.OneLine location.text :=
  Text.oneLine_append_iff.mpr ⟨Numeral.oneLine_text _,
    Text.oneLine_cons_iff.mpr ⟨by decide, Numeral.oneLine_text _⟩⟩

/-! ## Clusters -/

namespace Cluster

theorem oneLine_of_mem_split [Cluster.Splitter] {text cluster : Text} (oneLine : Text.OneLine text)
    (member : cluster ∈ split text) : Text.OneLine cluster :=
  oneLine.mono (subset_of_mem_split member)

end Cluster

/-! ## Grids -/

/-- Every letter of an edited grid has been there before or has been put in. A new row
has no letters. -/
theorem Edit.mem_of_mem_apply {edit : Edit} {grid : Grid} {row : Row} {letter : Letter}
    (member : row ∈ edit.apply grid) (inside : letter ∈ row) :
    (∃ line ∈ grid, letter ∈ line) ∨
      ∃ place deleted letters, edit = .exchange place deleted letters ∧ letter ∈ letters := by
  cases edit with
  | exchange place deleted letters =>
      obtain ⟨index, found⟩ := List.mem_iff_getElem?.mp member
      rw [Edit.apply, List.getElem?_modify] at found
      obtain ⟨line, lineAt, row_eq⟩ := Option.map_eq_some_iff.mp found
      have standing := List.mem_of_getElem? lineAt
      split at row_eq
      · rw [← row_eq, Grid.exchange, List.mem_append, List.mem_append] at inside
        rcases inside with (ahead | new) | behind
        · exact .inl ⟨line, standing, List.mem_of_mem_take ahead⟩
        · exact .inr ⟨place, deleted, letters, rfl, new⟩
        · exact .inl ⟨line, standing, List.mem_of_mem_drop behind⟩
      · exact .inl ⟨line, standing, row_eq ▸ inside⟩
  | newRow before =>
      rcases List.mem_append.mp member with above | below
      · exact .inl ⟨row, List.mem_of_mem_take above, inside⟩
      · rcases List.mem_cons.mp below with rfl | below
        · cases inside
        · exact .inl ⟨row, List.mem_of_mem_drop below, inside⟩

namespace Grid

/-- No letter has a line end. -/
def Tidy (grid : Grid) : Prop :=
  ∀ row ∈ grid, ∀ letter ∈ row, Text.OneLine letter

/-- The letters of rows are those between the line breaks. -/
theorem mem_of_mem_rowsOf {cells : List Mark} {row : Row} {letter : Letter}
    (member : row ∈ Buffer.rowsOf cells) (inside : letter ∈ row) : .letter letter ∈ cells := by
  induction cells generalizing row with
  | nil =>
      rw [Buffer.rowsOf, List.mem_singleton] at member
      rw [member] at inside
      cases inside
  | cons mark rest inductionHypothesis =>
      cases mark with
      | newline =>
          rw [Buffer.rowsOf] at member
          rcases List.mem_cons.mp member with rfl | later
          · cases inside
          · exact List.mem_cons_of_mem _ (inductionHypothesis later inside)
      | letter first =>
          rw [Buffer.rowsOf] at member
          cases rows : Buffer.rowsOf rest with
          | nil => exact absurd rows (Buffer.rowsOf_ne_nil rest)
          | cons row others =>
              simp only [rows, List.mem_cons] at member inductionHypothesis
              rcases member with rfl | later
              · rcases List.mem_cons.mp inside with rfl | behind
                · exact List.mem_cons_self
                · exact List.mem_cons_of_mem _ (inductionHypothesis (.inl rfl) behind)
              · exact List.mem_cons_of_mem _ (inductionHypothesis (.inr later) inside)

/-- The letters of a loaded text are clusters of it, none of them a line feed. -/
theorem mem_split_of_mem_rows_load [Cluster.Splitter] {text : Text} {row : Row} {letter : Letter}
    (member : row ∈ (Buffer.load text).rows) (inside : letter ∈ row) :
    letter ∈ Cluster.split (Text.foldLineEnds text) ∧ letter ≠ [Text.lineFeed] := by
  have cell := mem_of_mem_rowsOf member inside
  obtain ⟨cluster, clustered, mark_eq⟩ := List.mem_map.mp cell
  unfold Mark.ofCluster at mark_eq
  split at mark_eq
  · cases mark_eq
  · rename_i other
    cases mark_eq
    exact ⟨clustered, other⟩

/-- The letters of a loaded text have no line ends, whatever the line ends of the
text are. -/
theorem tidy_rows_load [Cluster.Splitter] (text : Text) : Tidy (Buffer.load text).rows := by
  intro row member letter inside
  obtain ⟨clustered, other⟩ := mem_split_of_mem_rows_load member inside
  have plain := Text.carriageReturn_notMem_foldLineEnds text
  rcases Cluster.alone_of_mem_split plain clustered with alone | free
  · exact absurd alone other
  · intro c among
    constructor
    · rintro rfl
      exact free among
    · rintro rfl
      exact plain (Cluster.subset_of_mem_split clustered among)

namespace Tidy

variable {grid : Grid}

theorem of_mem_lettersAt (tidy : grid.Tidy) {location : Location} {letter : Letter}
    (member : letter ∈ grid.lettersAt location) : Text.OneLine letter := by
  unfold lettersAt at member
  split at member
  · cases member
  · cases found : grid.row? location.row with
    | none => simp [found] at member
    | some line =>
        rw [found] at member
        exact tidy line (List.mem_of_getElem? (row?_eq_some_iff.mp found).2) letter
          (List.mem_of_mem_drop member)

theorem of_letterAt_eq_ok (tidy : grid.Tidy) {location : Location} {letter : Letter}
    (found : grid.letterAt location = .ok letter) : Text.OneLine letter := by
  unfold letterAt at found
  split at found
  · rename_i first head
    cases found
    exact tidy.of_mem_lettersAt (List.mem_of_head? head)
  · cases found

theorem readWord (tidy : grid.Tidy) (location : Location) :
    Text.OneLine (grid.readWord location).text :=
  Text.oneLine_flatten_iff.mpr fun _ member =>
    tidy.of_mem_lettersAt ((List.takeWhile_sublist _).subset member)

/-- Letters that are put in are as good as those that were there. -/
theorem apply (tidy : grid.Tidy) {edit : Edit}
    (put : ∀ place deleted letters, edit = .exchange place deleted letters →
      ∀ letter ∈ letters, Text.OneLine letter) : Tidy (edit.apply grid) := by
  intro row member letter inside
  rcases Edit.mem_of_mem_apply member inside with ⟨line, standing, old⟩ | ⟨_, _, _, edit_eq, new⟩
  · exact tidy line standing letter old
  · exact put _ _ _ edit_eq letter new

end Tidy

theorem oneLine_rowText {grid : Grid} (tidy : grid.Tidy) {row : Row} (member : row ∈ grid) :
    Text.OneLine (rowText row) :=
  Text.oneLine_flatten_iff.mpr (tidy row member)

/-- The text of a grid is cut into its rows at the line feeds. -/
theorem splitOn_text {grid : Grid} (tidy : grid.Tidy) (rows : grid ≠ []) :
    grid.text.splitOn Text.lineFeed = grid.map rowText := by
  apply List.splitOn_intercalate
  · intro line member
    obtain ⟨row, inside, rfl⟩ := List.mem_map.mp member
    exact fun lineEnd => (oneLine_rowText tidy inside _ lineEnd).1 rfl
  · exact fun none => rows (List.map_eq_nil_iff.mp none)

/-- There is one row more than there are line feeds in the text. -/
theorem length_eq_count_text {grid : Grid} (tidy : grid.Tidy) (rows : grid ≠ []) :
    grid.length = grid.text.count Text.lineFeed + 1 := by
  induction grid with
  | nil => exact absurd rfl rows
  | cons row rest inductionHypothesis =>
      have free : (rowText row).count Text.lineFeed = 0 :=
        List.count_eq_zero.mpr fun lineEnd =>
          (oneLine_rowText tidy List.mem_cons_self _ lineEnd).1 rfl
      cases rest with
      | nil => simp [text, free]
      | cons next others =>
          have below := inductionHypothesis
            (fun line member => tidy line (List.mem_cons_of_mem row member))
            (List.cons_ne_nil next others)
          rw [List.length_cons, below]
          simp [text, free, Nat.add_comm]

end Grid

/-- The rows of a buffer have the text of the buffer. -/
theorem Grid.text_rows (buffer : Buffer) : Grid.text buffer.rows = buffer.text := by
  rw [← Grid.flatMap_text_marks, Buffer.rows, Grid.marks_rowsOf]
  rfl

theorem Program.text_load [Cluster.Splitter] (text : Text) (immediate : Bool) :
    (Program.load text immediate).text = (Buffer.load text).text :=
  Grid.text_rows (.load text)

/-! ## Rows are never taken away -/

theorem Edit.length_le_apply {edit : Edit} {grid : Grid} (applies : edit.Applies grid) :
    grid.length ≤ (edit.apply grid).length := by
  cases edit with
  | exchange place deleted letters => simp [apply]
  | newRow before =>
      rcases applies with ⟨_, le_length⟩
      simp only [apply, List.length_append, List.length_take, List.length_cons, List.length_drop]
      omega

theorem Program.lineCount_le_afterAll [Cluster.Splitter] (program : Program)
    (requests : List Request) : program.lineCount ≤ (program.afterAll requests).lineCount := by
  apply afterAll_induction (motive := fun later => program.lineCount ≤ later.lineCount)
  · exact Nat.le_refl _
  · intro before request revision grown accepted
    obtain ⟨edit, _, applies, grid_eq, _⟩ := Request.edit?_of_revise_eq_ok accepted
    have longer := Edit.length_le_apply applies
    rw [← grid_eq] at longer
    exact Nat.le_trans grown longer

end Palimpsest
