import Palimpsest.Buffer
import Palimpsest.Location.Code

/-!
# Grids

A program lives on a grid of letters, row by row. Words are the maximal runs of
letters without blanks inside one row. This file reads single words and finds
the next place where a word can be read; both accept every location, also one
outside the grid.
-/

namespace Palimpsest

/-- One row of letters. -/
abbrev Row := List Letter

/-- The rows of a program, top to bottom. -/
abbrev Grid := List Row

/-- A run of letters read from a row. -/
structure Word where
  letters : List Letter
  deriving DecidableEq, Repr

namespace Word

/-- The letters of a word joined. -/
def text (word : Word) : Text :=
  word.letters.flatten

/-- The number of letters. -/
def length (word : Word) : Nat :=
  word.letters.length

end Word

namespace Grid

/-- Whether a letter is part of a word. -/
def isInk (letter : Letter) : Bool :=
  !Text.hasBlank letter

/-- The row with the given number, when it exists. -/
def row? (grid : Grid) (row : Int) : Option Row :=
  if row < 0 then none else grid[row.toNat]?

/-- The letters of a row from a location on: nothing outside the rows or before
the first column. -/
def lettersAt (grid : Grid) (location : Location) : List Letter :=
  if location.col < 0 then []
  else ((grid.row? location.row).getD []).drop location.col.toNat

/-- The letter at a location, when there is one. -/
def letter? (grid : Grid) (location : Location) : Option Letter :=
  (grid.lettersAt location).head?

/-- Whether there is a letter at a location. -/
def isValid (grid : Grid) (location : Location) : Bool :=
  (grid.letter? location).isSome

/-- The word that is read from a location: the letters up to the next blank or
the end of the row. In the middle of a word this is the rest of it, on a blank
it is empty. -/
def readWord (grid : Grid) (location : Location) : Word :=
  ⟨(grid.lettersAt location).takeWhile isInk⟩

/-- The word that is read from a location together with the blanks that follow
it in its row. -/
def readWordAndBlanks (grid : Grid) (location : Location) : Word :=
  let letters := grid.lettersAt location
  let rest := letters.dropWhile isInk
  ⟨letters.takeWhile isInk ++ rest.takeWhile fun letter => !isInk letter⟩

/-- The first column from `col` on where a row has a letter that is part of a
word. -/
def inkFrom (row : Row) (col : Nat) : Option Nat :=
  ((row.drop col).findIdx? isInk).map (col + ·)

/-- Look through rows, the first of them numbered `index` and taken from column
`col` on, for a letter that is part of a word. -/
def seek (index col : Nat) : List Row → Option Location
  | [] => none
  | row :: rest =>
    match inkFrom row col with
    | some found => some ⟨index, found⟩
    | none => seek (index + 1) 0 rest

/-- The first letter at or after a location, in reading order, that is part of
a word. A column before the first counts as the first, and a row before the
first as the start of the grid. -/
def nextWord (grid : Grid) (location : Location) : Option Location :=
  if location.row < 0 then seek 0 0 grid
  else seek location.row.toNat location.col.toNat (grid.drop location.row.toNat)

/-- The text of one row. -/
def rowText (row : Row) : Text :=
  row.flatten

/-- The text of the grid: its rows with a line feed between them. -/
def text (grid : Grid) : Text :=
  ((grid.map rowText).intersperse [Text.lineFeed]).flatten

/-- The cells of a buffer that shows the grid: its rows with a line break
between them. -/
def marks : Grid → List Mark
  | [] => []
  | [row] => row.map .letter
  | row :: rest => row.map .letter ++ .newline :: marks rest

/-- The numbers from which on rows cannot even be asked for. -/
def rowNumberBound : Int := 9223372036854775808

/-- A row asked for by number. Negative numbers count from the last row. -/
def rowAt (grid : Grid) (row : Int) : Except Failure Row :=
  if row < -rowNumberBound ∨ rowNumberBound ≤ row then .error .unreachableRow
  else
    match grid.row? (if row < 0 then row + grid.length else row) with
    | some found => .ok found
    | none => .error .noSuchRow

/-- The letter at a location, or the fault of having none. -/
def letterAt (grid : Grid) (location : Location) : Except Failure Letter :=
  match grid.letter? location with
  | some letter => .ok letter
  | none => .error (.ofCause (.noLetter location))

/-- The position of a location in the buffer that shows the grid: every row
above counts its letters and one break. -/
def flatOffset (grid : Grid) (row col : Nat) : Nat :=
  (grid.take row).foldr (fun line offset => line.length + 1 + offset) col

/-! ## Rows and cells -/

/-- A row that is not the last is followed by a line break. -/
theorem marks_cons {row : Row} {rest : Grid} (rest_ne_nil : rest ≠ []) :
    marks (row :: rest) = row.map .letter ++ .newline :: marks rest := by
  cases rest with
  | nil => exact absurd rfl rest_ne_nil
  | cons next others => rfl

/-- Cells taken apart into rows and put together again are the same cells. -/
theorem marks_rowsOf (cells : List Mark) : marks (Buffer.rowsOf cells) = cells := by
  induction cells with
  | nil => rfl
  | cons mark rest inductionHypothesis =>
    cases mark with
    | newline =>
      rw [Buffer.rowsOf, marks_cons (Buffer.rowsOf_ne_nil rest), inductionHypothesis]
      rfl
    | letter letter =>
      rw [Buffer.rowsOf]
      cases rows : Buffer.rowsOf rest with
      | nil => exact absurd rows (Buffer.rowsOf_ne_nil rest)
      | cons row others =>
        rw [rows] at inductionHypothesis
        rw [← inductionHypothesis]
        cases others <;> simp [marks]

/-- The row before a line break is the first row. -/
theorem rowsOf_letters_append (row : Row) (cells : List Mark) :
    Buffer.rowsOf (row.map .letter ++ .newline :: cells) = row :: Buffer.rowsOf cells := by
  induction row with
  | nil => rfl
  | cons letter rest inductionHypothesis => simp [Buffer.rowsOf, inductionHypothesis]

/-- Letters without a line break are one row. -/
theorem rowsOf_letters (row : Row) : Buffer.rowsOf (row.map .letter) = [row] := by
  induction row with
  | nil => rfl
  | cons letter rest inductionHypothesis => simp [Buffer.rowsOf, inductionHypothesis]

/-- The cells that show a grid have the rows of the grid. -/
theorem rowsOf_marks {grid : Grid} (grid_ne_nil : grid ≠ []) :
    Buffer.rowsOf (marks grid) = grid := by
  induction grid with
  | nil => exact absurd rfl grid_ne_nil
  | cons row rest inductionHypothesis =>
    cases rest with
    | nil => simpa [marks] using rowsOf_letters row
    | cons next others =>
      rw [marks_cons (by simp), rowsOf_letters_append, inductionHypothesis (by simp)]

end Grid

end Palimpsest
