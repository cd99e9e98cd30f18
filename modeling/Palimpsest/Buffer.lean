import Palimpsest.Cluster.Splitter
import Palimpsest.Fault

/-!
# Buffers

A buffer is the text that readers of a running program see: a flat run of
cells, each a letter or a line break. Loading a text cuts it into letters once;
later edits exchange cells and never cut again, so a letter put into a buffer
is taken as it is.
-/

namespace Palimpsest

/-- A letter: one cluster of a loaded text, or whatever text was put in one
cell. -/
abbrev Letter := Text

/-- One cell of a buffer. -/
inductive Mark
  | letter (letter : Letter)
  | newline
  deriving DecidableEq, Repr

namespace Mark

/-- The mark for a cluster of a loaded text. -/
def ofCluster (cluster : Text) : Mark :=
  if cluster = [Text.lineFeed] then .newline else .letter cluster

/-- The text that a mark stands for. -/
def text : Mark → Text
  | .letter cluster => cluster
  | .newline => [Text.lineFeed]

end Mark

/-- A flat run of cells. -/
structure Buffer where
  cells : List Mark
  deriving DecidableEq, Repr

/-- What an edit of a buffer did: where it took place, how many cells it meant
to remove and how many it put in. -/
structure Splice where
  offset : Nat
  removed : Int
  added : Nat
  deriving DecidableEq, Repr

namespace Buffer

/-- The buffer of a text, with every line end as a line break. -/
def load [Cluster.Splitter] (text : Text) : Buffer :=
  ⟨(Cluster.split (Text.foldLineEnds text)).map Mark.ofCluster⟩

/-- The text of a buffer. -/
def text (buffer : Buffer) : Text :=
  buffer.cells.flatMap Mark.text

/-- The number of cells. -/
def size (buffer : Buffer) : Nat :=
  buffer.cells.length

/-- The rows between the line breaks of a run of cells. There is always at
least one row. -/
def rowsOf : List Mark → List (List Letter)
  | [] => [[]]
  | .newline :: rest => [] :: rowsOf rest
  | .letter letter :: rest =>
    match rowsOf rest with
    | [] => [[letter]]
    | row :: rows => (letter :: row) :: rows

/-- There is always at least one row. -/
theorem rowsOf_ne_nil (cells : List Mark) : rowsOf cells ≠ [] := by
  cases cells with
  | nil => simp [rowsOf]
  | cons mark rest =>
    cases mark with
    | newline => simp [rowsOf]
    | letter letter => simp only [rowsOf]; split <;> simp

/-- The rows of a buffer. -/
def rows (buffer : Buffer) : List (List Letter) :=
  rowsOf buffer.cells

/-- The first cell kept after an edit that starts at `start` and is said to
stop at `stop`. A negative stop counts from the end, and no stop lies before
the start. -/
def keptFrom (size start : Nat) (stop : Int) : Nat :=
  let resolved := if stop < 0 then stop + size else stop
  max start resolved.toNat

/-- Exchange `length` cells from `offset` on, or all of them when no length is
given, for the given marks. An offset past the end means the end. -/
def spliceAt (buffer : Buffer) (offset : Nat) (length : Option Int) (marks : List Mark) :
    Buffer × Splice :=
  let start := min offset buffer.size
  let stop : Int :=
    match length with
    | none => buffer.size
    | some length => min (start + length) buffer.size
  (⟨buffer.cells.take start ++ marks ++ buffer.cells.drop (keptFrom buffer.size start stop)⟩,
    ⟨start, stop - start, marks.length⟩)

/-- Exchange cells as `spliceAt` does, refusing an offset before the start. -/
def splice (buffer : Buffer) (offset : Int) (length : Option Int) (marks : List Mark) :
    Except Failure (Buffer × Splice) :=
  if offset < 0 then
    .error (if Numeral.fits offset then .negativeOffset offset else .overlong)
  else .ok (buffer.spliceAt offset.toNat length marks)

end Buffer

end Palimpsest
