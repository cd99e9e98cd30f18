import Palimpsest.Text.Numeral

/-!
# Binary numbers

A number that is not written as a plain integer stands for the nearest binary
number with 53 significant bits, a half going to the even neighbour. Numbers
beyond the largest of them stand for infinity, and numbers close enough to zero
for zero; both keep their sign. All decisions are made in exact arithmetic.
-/

namespace Palimpsest

/-- A binary number: so many steps of a power of two, an infinity, or the result
of an operation that has none. -/
inductive Binary
  | finite (negative : Bool) (steps : Nat) (unit : Int)
  | infinite (negative : Bool)
  | undefined
  deriving DecidableEq, Repr

namespace Binary

/-! ## The format -/

/-- The least number of steps that has all significant bits. -/
def leastSteps : Nat := Nat.pow 2 52

/-- The exponent of the smallest unit. -/
def leastUnit : Int := -1074

/-- The exponent of the largest unit. -/
def greatestUnit : Int := 971

/-! ## Rounding -/

/-- The integer nearest to a quotient, a half going to the even neighbour. -/
def roundDiv (dividend divisor : Nat) : Nat :=
  let quotient := dividend / divisor
  let twice := 2 * (dividend % divisor)
  if twice < divisor then quotient
  else if divisor < twice then quotient + 1
  else quotient + quotient % 2

/-- The exponent of the highest power of two that is not above a quotient. -/
def magnitude (dividend divisor : Nat) : Int :=
  let guess : Int := (Nat.log2 dividend : Int) - Nat.log2 divisor
  let isBelow :=
    if 0 ≤ guess then dividend < divisor * Nat.pow 2 guess.toNat
    else dividend * Nat.pow 2 (-guess).toNat < divisor
  if isBelow then guess - 1 else guess

/-- The number of steps of the given unit that is nearest to a quotient. -/
def stepsIn (unit : Int) (dividend divisor : Nat) : Nat :=
  roundDiv (dividend * Nat.pow 2 (-unit).toNat) (divisor * Nat.pow 2 unit.toNat)

/-- The binary number with so many steps, which is infinite when its unit is too
large. -/
def ofSteps (negative : Bool) (steps : Nat) (unit : Int) : Binary :=
  if greatestUnit < unit then .infinite negative else .finite negative steps unit

/-- The binary number nearest to a positive quotient. Rounding up may take one
bit more, which the next unit has. -/
def ofQuotient (negative : Bool) (dividend divisor : Nat) : Binary :=
  let unit := max (magnitude dividend divisor - 52) leastUnit
  let steps := stepsIn unit dividend divisor
  if steps = 2 * leastSteps then ofSteps negative leastSteps (unit + 1)
  else ofSteps negative steps unit

/-- The binary number nearest to a natural number times a power of ten.
Exponents out of all proportion are settled by the number of digits alone. -/
def ofDecimal (negative : Bool) (mantissa : Nat) (exponent : Int) : Binary :=
  let places : Int := (Numeral.text mantissa).length + exponent
  if mantissa = 0 ∨ places < -330 then .finite negative 0 leastUnit
  else if 310 < places then .infinite negative
  else
    ofQuotient negative (mantissa * Nat.pow 10 exponent.toNat) (Nat.pow 10 (-exponent).toNat)

/-! ## What a binary number is -/

/-- Whether a number is zero, of either sign. -/
def isZero : Binary → Bool
  | .finite _ steps _ => steps == 0
  | _ => false

/-- The integer that a number is, if it is one. -/
def whole? : Binary → Option Int
  | .finite negative steps unit =>
    let amount := steps * Nat.pow 2 unit.toNat
    let part := Nat.pow 2 (-unit).toNat
    if amount % part = 0 then some (Numeral.signed negative (amount / part)) else none
  | _ => none

end Binary

end Palimpsest
