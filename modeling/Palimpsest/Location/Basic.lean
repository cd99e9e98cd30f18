import Palimpsest.Text.Numeral

/-!
# Locations

A location names a place on the grid by row and column, both counted from zero.
It may lie outside the grid, also before its first row or column. People and
programs see a location as the text `row:column`, counted from one.
-/

namespace Palimpsest

/-- A row and a column, counted from zero. -/
structure Location where
  row : Int
  col : Int
  deriving DecidableEq, Repr, Inhabited

namespace Location

/-- The location a number of rows down and columns to the right. -/
def shift (location : Location) (rows columns : Int) : Location :=
  ⟨location.row + rows, location.col + columns⟩

/-- The location a number of columns to the right. -/
def right (location : Location) (columns : Int) : Location :=
  location.shift 0 columns

/-- The shown form of a location: row and column counted from one, with a
colon between them. -/
def text (location : Location) : Text :=
  Numeral.text (location.row + 1) ++ ':' :: Numeral.text (location.col + 1)

/-- Whether both numbers of the shown form are short enough to be written. -/
def fits (location : Location) : Bool :=
  Numeral.fits (location.row + 1) && Numeral.fits (location.col + 1)

/-- The shown form as a string. -/
protected def toString (location : Location) : String :=
  String.ofList location.text

@[simp]
theorem shift_row (location : Location) (rows columns : Int) :
    (location.shift rows columns).row = location.row + rows :=
  rfl

@[simp]
theorem shift_col (location : Location) (rows columns : Int) :
    (location.shift rows columns).col = location.col + columns :=
  rfl

end Location

end Palimpsest
