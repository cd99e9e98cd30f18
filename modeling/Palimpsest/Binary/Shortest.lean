import Palimpsest.Binary.Basic

/-!
# Shortest decimals

The decimal that stands for a binary number is the one with the fewest digits
that rounds to it; of several such decimals it is the nearest, and of two that
are equally near the one with the even last digit. The numbers that round to a
binary number form an interval, which reaches halfway to its neighbours and
contains its ends exactly when the number of steps is even. A decimal is
compared with the ends by multiplying crosswise.
-/

namespace Palimpsest.Binary

/-- The numbers that round to a binary number, as numerators over one
denominator. -/
structure Interval where
  low : Nat
  center : Nat
  high : Nat
  denominator : Nat
  closed : Bool
  deriving DecidableEq, Repr

/-- The interval of a positive binary number. The neighbour below the least
number of steps lies only half as far away, unless the unit is the smallest. -/
def interval (steps : Nat) (unit : Int) : Interval :=
  let quarter := Nat.pow 2 unit.toNat
  let gap := if steps = leastSteps ∧ leastUnit < unit then quarter else 2 * quarter
  { low := 4 * steps * quarter - gap
    center := 4 * steps * quarter
    high := 4 * steps * quarter + 2 * quarter
    denominator := 4 * Nat.pow 2 (-unit).toNat
    closed := steps % 2 == 0 }

namespace Interval

/-- Whether `digits` times a power of ten lies in an interval. -/
def contains (interval : Interval) (exponent : Int) (digits : Nat) : Bool :=
  let value := digits * Nat.pow 10 exponent.toNat * interval.denominator
  let scale := Nat.pow 10 (-exponent).toNat
  if interval.closed then
    decide (interval.low * scale ≤ value) && decide (value ≤ interval.high * scale)
  else
    decide (interval.low * scale < value) && decide (value < interval.high * scale)

/-- The multiple of a power of ten that is nearest to the center, if it or its
neighbour on the other side of the center lies in the interval. -/
def nearestAt? (interval : Interval) (exponent : Int) : Option Nat :=
  let scaled := interval.center * Nat.pow 10 (-exponent).toNat
  let step := interval.denominator * Nat.pow 10 exponent.toNat
  let below := scaled / step
  let isNearer := 2 * scaled < (2 * below + 1) * step
  let isTie := 2 * scaled = (2 * below + 1) * step
  if interval.contains exponent below then
    if interval.contains exponent (below + 1) then
      if isNearer ∨ isTie ∧ below % 2 = 0 then some below else some (below + 1)
    else some below
  else if interval.contains exponent (below + 1) then some (below + 1)
  else none

/-- The number of places that the center has before the point; places that are
empty behind the point count down from zero. -/
def places (interval : Interval) : Int :=
  if interval.denominator ≤ interval.center then
    (Numeral.text (interval.center / interval.denominator)).length
  else 1 - (Numeral.text (interval.denominator / interval.center)).length

end Interval

/-- The most digits that the shortest decimal can have. -/
def mostDigits : Nat := 17

/-- The digits and the exponent of the shortest decimal of a positive binary
number: grids of more and more digits are tried in turn. -/
def shortest (steps : Nat) (unit : Int) : Nat × Int :=
  let interval := interval steps unit
  let places := interval.places
  let found := (List.range mostDigits).findSome? fun (count : Nat) =>
    let exponent : Int := places - (count + 1)
    (interval.nearestAt? exponent).map fun digits => (digits, exponent)
  found.getD (steps, 0)

end Palimpsest.Binary
