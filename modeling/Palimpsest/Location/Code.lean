import Palimpsest.Fault

/-!
# Locations and numbers as values

Programs keep locations and numbers in memory as texts. Writing refuses numbers
with too many digits. Reading a location takes exactly one colon with an
integer on either side and refuses everything else as a fault; reading a number
takes the integer that a value starts with.
-/

namespace Palimpsest

namespace Numeral

/-- The text of an integer that is short enough to be written. -/
def encode (n : Int) : Except Failure Text :=
  if fits n then .ok (text n) else .error .overlong

/-- The integer that a value starts with. -/
def decode (value : Text) : Except Failure Int :=
  match leading? value with
  | none => .error (.ofCause (.notANumber value))
  | some (negative, digits) =>
    if digits.length ≤ digitLimit then .ok (signed negative (Nat.ofDigitChars 10 digits 0))
    else .error (.overlongNumeral digits.length)

end Numeral

namespace Location

/-- The text of a location whose numbers are short enough to be written. -/
def encode (location : Location) : Except Failure Text :=
  if location.fits then .ok location.text else .error .overlong

/-- The two sides of the only colon of a text. -/
def sides? (value : Text) : Option (Text × Text) :=
  match value.dropWhile (· != ':') with
  | [] => none
  | _ :: after =>
    if after.contains ':' then none else some (value.takeWhile (· != ':'), after)

/-- The location that a text shows. -/
def read? (value : Text) : Option Location :=
  match sides? value with
  | none => none
  | some (left, right) =>
    match Numeral.read? left, Numeral.read? right with
    | some row, some col => some ⟨row - 1, col - 1⟩
    | _, _ => none

/-- The location that a value in memory shows; any other value is at fault. -/
def decode (value : Text) : Except Failure Location :=
  match read? value with
  | some location => .ok location
  | none => .error (.ofCause (.notALocation value))

end Location

end Palimpsest
