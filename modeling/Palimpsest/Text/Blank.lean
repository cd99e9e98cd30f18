import Palimpsest.Text.Basic

/-!
# Blanks

Two character classes. `isBlank` decides where words end: it holds of the
white space of every script and of the four information separators. `isPadding`
is the smaller class that may stand around a numeral.
-/

namespace Palimpsest.Text

/-- White space: it ends a word and is never part of one. -/
def isBlank (c : Char) : Bool :=
  let n := c.toNat
  (9 ≤ n && n ≤ 13) || (28 ≤ n && n ≤ 32) || n == 0x85 || n == 0xa0 || n == 0x1680 ||
    (0x2000 ≤ n && n ≤ 0x200a) || n == 0x2028 || n == 0x2029 || n == 0x202f ||
    n == 0x205f || n == 0x3000

/-- White space that is ignored around a numeral. The information separators
U+001C to U+001F are blank without being padding. -/
def isPadding (c : Char) : Bool :=
  isBlank c && !(decide (28 ≤ c.toNat) && decide (c.toNat ≤ 31))

/-- A text counts as blank as soon as one of its characters is. -/
def hasBlank (text : Text) : Bool :=
  text.any isBlank

/-- The text without the padding at both of its ends. -/
def trimPadding (text : Text) : Text :=
  ((text.dropWhile isPadding).reverse.dropWhile isPadding).reverse

end Palimpsest.Text
