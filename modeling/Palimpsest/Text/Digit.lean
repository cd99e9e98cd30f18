import Palimpsest.Text.Basic

/-!
# Decimal digits

The decimal digits of every script come in runs of ten consecutive code points,
from the digit zero to the digit nine. A run is named here by its digit zero.
Other numeric characters, such as superscripts and circled numbers, are no
digits. The runs are those of Unicode 14.0; scripts that have got digits since
are left out.
-/

namespace Palimpsest.Text

/-- The digit zero of every script that has decimal digits. -/
def digitZeros : List Nat :=
  [0x30, 0x660, 0x6f0, 0x7c0, 0x966, 0x9e6, 0xa66, 0xae6, 0xb66, 0xbe6, 0xc66, 0xce6,
   0xd66, 0xde6, 0xe50, 0xed0, 0xf20, 0x1040, 0x1090, 0x17e0, 0x1810, 0x1946, 0x19d0,
   0x1a80, 0x1a90, 0x1b50, 0x1bb0, 0x1c40, 0x1c50, 0xa620, 0xa8d0, 0xa900, 0xa9d0, 0xa9f0,
   0xaa50, 0xabf0, 0xff10, 0x104a0, 0x10d30, 0x11066, 0x110f0, 0x11136, 0x111d0, 0x112f0,
   0x11450, 0x114d0, 0x11650, 0x116c0, 0x11730, 0x118e0, 0x11950, 0x11c50, 0x11d50,
   0x11da0, 0x16a60, 0x16ac0, 0x16b50, 0x1d7ce, 0x1d7d8, 0x1d7e2, 0x1d7ec, 0x1d7f6,
   0x1e140, 0x1e2f0, 0x1e950, 0x1fbf0]

/-- The value of a decimal digit of any script. -/
def digitValue? (c : Char) : Option Nat :=
  (digitZeros.find? fun nought => decide (nought ≤ c.toNat) && decide (c.toNat < nought + 10)).map
    (c.toNat - ·)

/-- Whether a character is a decimal digit of some script. -/
def isDecimal (c : Char) : Bool :=
  (digitValue? c).isSome

/-- A digit stands for a number below ten. -/
theorem digitValue?_lt {c : Char} {value : Nat} (known : digitValue? c = some value) :
    value < 10 := by
  obtain ⟨nought, found, rfl⟩ := Option.map_eq_some_iff.1 known
  have bounds := List.find?_some found
  simp only [Bool.and_eq_true, decide_eq_true_eq] at bounds
  omega

end Palimpsest.Text
