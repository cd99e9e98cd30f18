import Palimpsest.Text.Basic

/-!
# Operators

The operators that the math operation knows. Equality compares values as texts;
the others work on unbounded integers, with one for true and zero for false.
Conjunction takes the bits of the two's complement form, in which a negative
number has infinitely many leading ones.
-/

namespace Palimpsest

/-- Operators on two integers. -/
inductive BinaryOperator
  | less
  | greater
  | plus
  | conjunction
  deriving DecidableEq, Repr

/-- All operators. -/
inductive Operator
  | equal
  | isZero
  | binary (operator : BinaryOperator)
  deriving DecidableEq, Repr

/-- The operator that a character picks. -/
def Operator.ofChar? : Char → Option Operator
  | '=' => some .equal
  | '!' => some .isZero
  | '<' => some (.binary .less)
  | '>' => some (.binary .greater)
  | '+' => some (.binary .plus)
  | '&' => some (.binary .conjunction)
  | _ => none

/-- One for true and zero for false. -/
def ofTruth (condition : Bool) : Int :=
  if condition then 1 else 0

/-- The bits that two integers share. -/
def conjoin : Int → Int → Int
  | .ofNat m, .ofNat n => .ofNat (m &&& n)
  | .ofNat m, .negSucc n => .ofNat (m ^^^ (m &&& n))
  | .negSucc m, .ofNat n => .ofNat (n ^^^ (n &&& m))
  | .negSucc m, .negSucc n => .negSucc (m ||| n)

/-- The result of an operator on two integers. -/
def BinaryOperator.apply : BinaryOperator → Int → Int → Int
  | .less, x, y => ofTruth (decide (x < y))
  | .greater, x, y => ofTruth (decide (y < x))
  | .plus, x, y => x + y
  | .conjunction, x, y => conjoin x y

/-- Whether a value counts as true in a branch: neither empty nor a plain zero. -/
def isTrue (value : Text) : Bool :=
  !(value.isEmpty || value == ['0'])

end Palimpsest
