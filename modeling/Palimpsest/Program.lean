import Palimpsest.Grid.Entry

/-!
# Programs

A program is a grid of letters with the buffer that shows it. All edits go
through `replace` and `addLine`. With immediate updates every edit is repeated
on the buffer at once; otherwise the buffer is redrawn as a whole by
`updateView`. The entry point is remembered and looked up again only when an
edit can have moved it.
-/

namespace Palimpsest

/-- A grid, the buffer that shows it, and the remembered entry point. -/
structure Program where
  grid : Grid
  view : Buffer
  immediate : Bool
  entry : Option Location
  deriving DecidableEq, Repr

/-- The result of an edit: the program afterwards, the number of letters put
in, and what was done to the buffer, if anything. -/
structure Revision where
  program : Program
  inserted : Nat
  splice : Option Splice
  deriving DecidableEq, Repr

namespace Program

variable [Cluster.Splitter]

/-- The program that a buffer shows. -/
def ofBuffer (view : Buffer) (immediate : Bool) : Program where
  grid := view.rows
  view := view
  immediate := immediate
  entry := Grid.entry view.rows

/-- The program of a text. -/
def load (text : Text) (immediate : Bool) : Program :=
  ofBuffer (.load text) immediate

/-- The text of the grid. -/
def text (program : Program) : Text :=
  program.grid.text

/-- The number of rows. -/
def lineCount (program : Program) : Nat :=
  program.grid.length

/-- Where the words begin that handle clicks. -/
def clickHandlers (program : Program) : List Location :=
  program.grid.clickHandlersFrom program.entry

/-- Repeat an edit of the grid on the buffer, when updates are immediate. -/
def repeatOnView (program : Program) (offset deleted : Nat) (marks : List Mark) :
    Buffer × Option Splice :=
  if program.immediate then
    let repeated := program.view.spliceAt offset (some deleted) marks
    (repeated.1, some repeated.2)
  else (program.view, none)

/-- The entry point after an edit in the given row. An edit below the entry
point cannot move it. -/
def entryAfterEdit (entry : Option Location) (row : Int) (grid : Grid) : Option Location :=
  match entry with
  | none => grid.entry
  | some location => if row ≤ location.row then grid.entry else entry

/-- Exchange `length` letters at a location for the letters of `text`. A
negative length counts as zero, and no more is removed than the row holds from
there on. The location must lie in a row or at its end. -/
def replace (program : Program) (location : Location) (length : Int) (text : Text) :
    Except Failure Revision :=
  match program.grid.row? location.row with
  | none => .error (.ofCause (.noRow location.row))
  | some line =>
    if 0 ≤ location.col ∧ location.col ≤ line.length then
      let row := location.row.toNat
      let col := location.col.toNat
      let letters := Cluster.split text
      let deleted := min length.toNat (line.length - col)
      let edited := line.take col ++ letters ++ line.drop (col + deleted)
      let grid : Grid := program.grid.set row edited
      let repeated := program.repeatOnView (grid.flatOffset row col) deleted (letters.map .letter)
      .ok {
        program := {
          program with
          grid := grid
          view := repeated.1
          entry := entryAfterEdit program.entry location.row grid }
        inserted := letters.length
        splice := repeated.2 }
    else .error (.ofCause (.outsideRow location))

/-- Insert an empty row before the given one; the number of rows stands for the
place after the last. An entry point at or below the new row moves down. -/
def addLine (program : Program) (before : Int) : Except Failure Revision :=
  if 0 ≤ before ∧ before ≤ program.grid.length then
    let row := before.toNat
    let grid : Grid := program.grid.take row ++ [] :: program.grid.drop row
    let offset :=
      if row = program.grid.length then
        grid.flatOffset (row - 1) (((grid[row - 1]?).getD []).length)
      else grid.flatOffset row 0
    let repeated := program.repeatOnView offset 0 [.newline]
    .ok {
      program := {
        program with
        grid := grid
        view := repeated.1
        entry := program.entry.map fun location =>
          if before ≤ location.row then location.shift 1 0 else location }
      inserted := 0
      splice := repeated.2 }
  else .error (.ofCause (.noRowBefore before))

/-- Redraw the buffer from the grid. -/
def updateView (program : Program) : Program × Splice :=
  let redrawn := program.view.spliceAt 0 none program.grid.marks
  ({ program with view := redrawn.1 }, redrawn.2)

end Program

end Palimpsest
