import Palimpsest.Binary.Shortest

/-!
# Writing binary numbers

A binary number is written as its shortest decimal. It stands positionally when
its first digit lies between the fourth place behind the point and the
sixteenth before it, otherwise with an exponent, and it always shows that it is
no plain integer. What is not finite is spelled by words that depend on where
the number is shown.
-/

namespace Palimpsest.Binary

/-- The words for numbers that are not finite. -/
structure Wording where
  infinite : String
  undefined : String
  deriving DecidableEq, Repr

/-- An exponent, with a sign and at least two digits. -/
def exponentText (exponent : Int) : Text :=
  let digits := Numeral.text exponent.natAbs
  (if exponent < 0 then '-' else '+') ::
    (if digits.length < 2 then '0' :: digits else digits)

/-- A decimal number that spells `digits` with so many of them before the
point. -/
def positionalText (digits : Text) (before : Int) : Text :=
  if before ≤ 0 then '0' :: '.' :: (List.replicate (-before).toNat '0' ++ digits)
  else
    let whole := digits.take before.toNat
    let fraction := digits.drop before.toNat
    whole ++ List.replicate (before.toNat - whole.length) '0' ++
      '.' :: (if fraction.isEmpty then ['0'] else fraction)

/-- A natural number times a power of ten, without needless zeros. -/
def decimalText (mantissa : Nat) (exponent : Int) : Text :=
  let digits := Numeral.text mantissa
  let significant := (digits.reverse.dropWhile (· == '0')).reverse
  let before : Int := digits.length + exponent
  if significant.isEmpty then ['0', '.', '0']
  else if -4 < before ∧ before ≤ 16 then positionalText significant before
  else
    let fraction := significant.drop 1
    significant.take 1 ++ (if fraction.isEmpty then [] else '.' :: fraction) ++
      'e' :: exponentText (before - 1)

/-- A text with the sign of a number before it. -/
def withSign (negative : Bool) (body : Text) : String :=
  String.ofList (if negative then '-' :: body else body)

/-- The text of a binary number. -/
def text (wording : Wording) : Binary → String
  | .finite negative steps unit =>
    if steps = 0 then withSign negative ['0', '.', '0']
    else
      let decimal := shortest steps unit
      withSign negative (decimalText decimal.1 decimal.2)
  | .infinite negative => withSign negative wording.infinite.toList
  | .undefined => wording.undefined

end Palimpsest.Binary
