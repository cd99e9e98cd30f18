import Palimpsest.Grid.Search

/-!
# The entry point

The executable part of a post follows a header: a row of snails, or a dashed
line with the name of the language. A header must open a paragraph, and it is
never the last row. Execution starts at the first word below the first header,
and the words from there on that begin with `MOUSE` handle clicks.
-/

namespace Palimpsest.Grid

/-- The snail. -/
def snail : Char := Char.ofNat 0x1f40c

/-- The name of the language in a header. -/
def languageName : Text := ['v', 'o', 'l', 'u', 't', 'e']

/-- How words begin that handle clicks. -/
def clickLead : Text := ['M', 'O', 'U', 'S', 'E']

/-- A row of one or more snails. -/
def isSnailHeader (text : Text) : Bool :=
  !text.isEmpty && text.all (· == snail)

/-- What may follow the name in a dashed header: nothing, or a blank and then
anything without a line feed. -/
def isRemark : Text → Bool
  | [] => true
  | c :: rest => Text.isBlank c && rest.all (· != Text.lineFeed)

/-- At least two dashes, at least one blank, the name, and a remark. -/
def isDashHeader (text : Text) : Bool :=
  let afterDashes := text.dropWhile (· == '-')
  let afterBlanks := afterDashes.dropWhile Text.isBlank
  decide (2 ≤ (text.takeWhile (· == '-')).length) &&
    !(afterDashes.takeWhile Text.isBlank).isEmpty &&
    languageName.isPrefixOf afterBlanks &&
    isRemark (afterBlanks.drop languageName.length)

/-- Whether the text of a row makes it a header. -/
def isHeader (text : Text) : Bool :=
  isSnailHeader text || isDashHeader text

/-- Scan rows, the first of them numbered `index`, for a header. The flag says
whether the first of them opens a paragraph. The last row is never looked at. -/
def headerFrom (index : Nat) (opens : Bool) : List Row → Option Nat
  | [] => none
  | [_] => none
  | row :: rest =>
    if opens && isHeader (rowText row) then some index
    else headerFrom (index + 1) row.isEmpty rest

/-- The entry point: the first word below the first header. -/
def entry (grid : Grid) : Option Location :=
  match headerFrom 0 true grid with
  | none => none
  | some index => grid.nextWord ⟨index + 1, 0⟩

/-- Where the words from a location on begin that handle clicks. -/
def clickHandlersFrom (grid : Grid) (start : Option Location) : List Location :=
  ((grid.wordsFrom start).filter fun found => clickLead.isPrefixOf found.2.text).map Prod.fst

end Palimpsest.Grid
