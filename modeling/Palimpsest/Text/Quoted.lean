import Palimpsest.Text.Printable

/-!
# Quoted texts

Messages show a text between quotes. Single quotes are used unless the text
holds a single quote and no double quote. The quote in use and the backslash
are escaped by a backslash, the common line controls by their letters, and
every other unprintable character by its code point in lower-case hexadecimal.
-/

namespace Palimpsest.Text

/-- The single quote. -/
def singleQuote : Char := Char.ofNat 39

/-- The double quote. -/
def doubleQuote : Char := Char.ofNat 34

/-- The backslash. -/
def backslash : Char := Char.ofNat 92

/-- The lower-case hexadecimal digit for a number below sixteen. -/
def hexDigit (n : Nat) : Char :=
  Char.ofNat (if n < 10 then 48 + n else 87 + n)

/-- The last `width` hexadecimal digits of a number. -/
def hexDigits : (width : Nat) → (n : Nat) → Text
  | 0, _ => []
  | width + 1, n => hexDigits width (n / 16) ++ [hexDigit (n % 16)]

/-- The quote that goes around a text. -/
def quoteFor (text : Text) : Char :=
  if text.contains singleQuote && !text.contains doubleQuote then doubleQuote else singleQuote

/-- A character as it stands between the given quotes. -/
def quotedChar (quote : Char) (c : Char) : Text :=
  let n := c.toNat
  if c = quote ∨ c = backslash then [backslash, c]
  else if n = 9 then [backslash, 't']
  else if n = 10 then [backslash, 'n']
  else if n = 13 then [backslash, 'r']
  else if isPrintable c then [c]
  else if n < 0x100 then backslash :: 'x' :: hexDigits 2 n
  else if n < 0x10000 then backslash :: 'u' :: hexDigits 4 n
  else backslash :: 'U' :: hexDigits 8 n

/-- A text between quotes, with everything that needs it escaped. -/
def quoted (text : Text) : Text :=
  let quote := quoteFor text
  quote :: (text.flatMap (quotedChar quote) ++ [quote])

/-- A list of texts in quotes, between brackets. -/
def quotedList (texts : List Text) : Text :=
  '[' :: ((texts.map quoted).intersperse [',', ' ']).flatten ++ [']']

end Palimpsest.Text
