import Palimpsest.Text.Blank
import Palimpsest.Text.Digit

/-!
# Numerals

Integers are unbounded, but no more than `digitLimit` digits are ever read or
written. Writing is plain decimal with a minus sign. Two readers accept more:
`read?` takes a whole text with padding, a sign, digits of any script and
single underscores between digits, and `leading?` takes the integer that a text
begins with.
-/

namespace Palimpsest.Numeral

/-- The number of digits that can be read or written at most. -/
def digitLimit : Nat := 4300

/-- The least natural number with too many digits. -/
def bound : Nat := Nat.pow 10 digitLimit

/-- Whether an integer is short enough to be written. -/
def fits (n : Int) : Bool :=
  decide (n.natAbs < bound)

/-- The decimal text of an integer. -/
def text : Int → Text
  | .ofNat n => Nat.toDigits 10 n
  | .negSucc n => '-' :: Nat.toDigits 10 (n + 1)

/-- Whether a numeral is negative, and what follows its optional sign. -/
def splitSign : Text → Bool × Text
  | '-' :: rest => (true, rest)
  | '+' :: rest => (false, rest)
  | rest => (false, rest)

/-- A natural number with a sign put before it. -/
def signed (negative : Bool) (n : Nat) : Int :=
  if negative then -(n : Int) else n

/-- The number that a list of digit values spells, most significant first. -/
def ofDigits (digits : List Nat) : Nat :=
  digits.foldl (fun value digit => 10 * value + digit) 0

/-- The digit values of a non-empty run of digits, where a single underscore
may stand between two digits. -/
def digitRun? : Text → Option (List Nat)
  | [] => none
  | [c] => (Text.digitValue? c).map fun digit => [digit]
  | c :: d :: rest =>
    if d = '_' then
      match Text.digitValue? c, digitRun? rest with
      | some digit, some digits => some (digit :: digits)
      | _, _ => none
    else
      match Text.digitValue? c, digitRun? (d :: rest) with
      | some digit, some digits => some (digit :: digits)
      | _, _ => none

/-- The integer that a whole text spells, or nothing when the text is no
numeral or has too many digits. -/
def read? (source : Text) : Option Int :=
  let signAndDigits := splitSign (Text.trimPadding source)
  match digitRun? signAndDigits.2 with
  | none => none
  | some digits =>
    if digits.length ≤ digitLimit then
      some (signed signAndDigits.1 (ofDigits digits))
    else none

/-- The sign and the decimal digits that a text begins with, after any blanks.
There is nothing when no digit stands there. -/
def leading? (source : Text) : Option (Bool × Text) :=
  let signAndRest := splitSign (source.dropWhile Text.isBlank)
  let digits := signAndRest.2.takeWhile Char.isDigit
  if digits.isEmpty then none else some (signAndRest.1, digits)

end Palimpsest.Numeral
