import Mathlib.Algebra.Ring.Nat
import Mathlib.Data.List.TakeWhile
import Palimpsest.Location.Code

/-!
# Reading back what has been written

Whatever integer is short enough to be written is read back from its decimal text, and
so is a location from its shown form. The other way round, whatever has been read from a
text has few digits and can be written. The readers accept much more than the writers
write, so different texts may show the same location.
-/

namespace Palimpsest

/-! ## Runs of characters and digits -/

namespace Text

/-- Where what follows begins with something else, a run is taken off as a whole. -/
theorem span_append {accepts : Char → Bool} {run : Text} (all : ∀ c ∈ run, accepts c = true)
    {rest : Text} (stops : ∀ c ∈ rest.head?, accepts c = false) :
    (run ++ rest).takeWhile accepts = run ∧ (run ++ rest).dropWhile accepts = rest := by
  rw [List.takeWhile_append_of_pos all, List.dropWhile_append_of_pos all]
  cases rest with
  | nil => simp
  | cons c others => simp [stops c rfl]

theorem bounds_of_isDigit {c : Char} (digit : c.isDigit = true) :
    48 ≤ c.toNat ∧ c.toNat ≤ 57 := by
  simpa [Char.isDigit, UInt32.le_iff_toNat_le] using digit

/-- The number that a decimal digit of any script stands for. -/
def digit (c : Char) : Nat :=
  (digitValue? c).getD 0

theorem digitValue?_of_isDecimal {c : Char} (decimal : isDecimal c = true) :
    digitValue? c = some (digit c) := by
  obtain ⟨value, known⟩ := Option.isSome_iff_exists.mp decimal
  rw [digit, known, Option.getD_some]

theorem digitValue?_of_isDigit {c : Char} (digit : c.isDigit = true) :
    digitValue? c = some (c.toNat - 48) := by
  have := bounds_of_isDigit digit
  have found : digitZeros.find? (fun nought =>
      decide (nought ≤ c.toNat) && decide (c.toNat < nought + 10)) = some 0x30 := by
    apply List.find?_cons_of_pos
    simp only [Bool.and_eq_true, decide_eq_true_eq]
    omega
  rw [digitValue?, found, Option.map_some]

theorem isDecimal_of_isDigit {c : Char} (digit : c.isDigit = true) : isDecimal c = true := by
  rw [isDecimal, digitValue?_of_isDigit digit, Option.isSome_some]

theorem isBlank_of_isDigit {c : Char} (digit : c.isDigit = true) : isBlank c = false := by
  have := bounds_of_isDigit digit
  simp only [isBlank, Bool.or_eq_false_iff, Bool.and_eq_false_iff, decide_eq_false_iff_not,
    beq_eq_false_iff_ne]
  omega

/-- Nothing is dropped from a text without such characters. -/
theorem dropWhile_of_forall {drops : Char → Bool} {text : Text}
    (plain : ∀ c ∈ text, drops c = false) : text.dropWhile drops = text := by
  cases text with
  | nil => rfl
  | cons c rest =>
      rw [List.dropWhile_cons_of_neg]
      simp [plain c List.mem_cons_self]

/-- Nothing is trimmed off a text without padding. -/
theorem trimPadding_of_forall {text : Text} (plain : ∀ c ∈ text, isPadding c = false) :
    trimPadding text = text := by
  rw [trimPadding, dropWhile_of_forall plain,
    dropWhile_of_forall fun c member => plain c (List.mem_reverse.mp member),
    List.reverse_reverse]

end Text

/-! ## Integers -/

namespace Numeral

/-- A digit before anything but an underscore is read together with what follows. -/
theorem digitRun?_cons {c d : Char} {rest : Text} (decimal : Text.isDecimal c = true)
    (apart : d ≠ '_') :
    digitRun? (c :: d :: rest) = (digitRun? (d :: rest)).map (Text.digit c :: ·) := by
  rw [digitRun?, if_neg apart, Text.digitValue?_of_isDecimal decimal]
  cases digitRun? (d :: rest) <;> rfl

theorem ne_underscore_of_isDecimal {c : Char} (decimal : Text.isDecimal c = true) : c ≠ '_' := by
  rintro rfl
  exact absurd decimal (by decide)

/-- A run of digits is read digit by digit. -/
theorem digitRun?_of_isDecimal {digits : Text} (digits_ne_nil : digits ≠ [])
    (all : ∀ c ∈ digits, Text.isDecimal c = true) :
    digitRun? digits = some (digits.map Text.digit) := by
  induction digits with
  | nil => exact absurd rfl digits_ne_nil
  | cons c rest inductionHypothesis =>
      have ⟨decimal, others⟩ := List.forall_mem_cons.mp all
      cases rest with
      | nil => simp [digitRun?, Text.digitValue?_of_isDecimal decimal]
      | cons d further =>
          rw [digitRun?_cons decimal (ne_underscore_of_isDecimal (others d List.mem_cons_self)),
            inductionHypothesis (List.cons_ne_nil d further) others]
          rfl

/-- A run of plain digits is read digit by digit. -/
theorem digitRun?_of_isDigit {digits : Text} (digits_ne_nil : digits ≠ [])
    (all : ∀ c ∈ digits, c.isDigit = true) :
    digitRun? digits = some (digits.map fun c => c.toNat - 48) := by
  rw [digitRun?_of_isDecimal digits_ne_nil fun c member => Text.isDecimal_of_isDigit (all c member)]
  apply congrArg some
  apply List.map_congr_left
  intro c member
  rw [Text.digit, Text.digitValue?_of_isDigit (all c member), Option.getD_some]

/-- The two ways of computing the value of digits agree. -/
theorem ofDigits_map (digits : Text) :
    ofDigits (digits.map fun c => c.toNat - 48) = Nat.ofDigitChars 10 digits 0 := by
  rw [ofDigits, List.foldl_map, Nat.ofDigitChars_eq_foldl]
  rfl

theorem splitSign_of_isDecimal {c : Char} {rest : Text} (decimal : Text.isDecimal c = true) :
    splitSign (c :: rest) = (false, c :: rest) := by
  unfold splitSign
  split
  · rename_i sign
    cases sign
    exact absurd decimal (by decide)
  · rename_i sign
    cases sign
    exact absurd decimal (by decide)
  · rfl

theorem isDigit_of_mem_toDigits {n : Nat} {c : Char} (member : c ∈ Nat.toDigits 10 n) :
    c.isDigit = true :=
  Nat.isDigit_of_mem_toDigits (by decide) (by decide) member

/-- Small numbers have few digits. -/
theorem length_toDigits_le {n limit : Nat} (positive : 0 < limit) (small : n < Nat.pow 10 limit) :
    (Nat.toDigits 10 n).length ≤ limit :=
  (Nat.length_toDigits_le_iff (by decide) positive).mpr small

theorem lt_pow_of_length_toDigits_le {n limit : Nat} (positive : 0 < limit)
    (short : (Nat.toDigits 10 n).length ≤ limit) : n < Nat.pow 10 limit :=
  (Nat.length_toDigits_le_iff (by decide) positive).mp short

/-- An integer with few digits can be written. -/
theorem fits_of_length_toDigits_le {number : Int}
    (short : (Nat.toDigits 10 number.natAbs).length ≤ digitLimit) : fits number = true := by
  unfold fits bound
  rw [decide_eq_true_eq]
  exact lt_pow_of_length_toDigits_le (by decide) short

/-- A text with a sign that is split off and short decimal digits behind it. -/
theorem read?_of_digits {source : Text} {negative : Bool} {n : Nat}
    (plain : ∀ c ∈ source, Text.isPadding c = false)
    (signed_eq : splitSign source = (negative, Nat.toDigits 10 n)) (short : n < bound) :
    read? source = some (signed negative n) := by
  have digits : ∀ c ∈ Nat.toDigits 10 n, c.isDigit = true := fun _ => isDigit_of_mem_toDigits
  unfold bound at short
  have few : (Nat.toDigits 10 n).length ≤ digitLimit := length_toDigits_le (by decide) short
  simp only [read?, Text.trimPadding_of_forall plain, signed_eq,
    digitRun?_of_isDigit Nat.toDigits_ne_nil digits, List.length_map, if_pos few, ofDigits_map,
    Nat.ofDigitChars_ten_toDigits]

/-- Nothing but digits and a minus sign is written. -/
theorem isDigit_or_eq_of_mem_text {number : Int} {c : Char} (member : c ∈ text number) :
    c.isDigit = true ∨ c = '-' := by
  cases number with
  | ofNat n => exact .inl (isDigit_of_mem_toDigits member)
  | negSucc n =>
      rcases List.mem_cons.mp member with sign | digit
      · exact .inr sign
      · exact .inl (isDigit_of_mem_toDigits digit)

theorem isBlank_of_mem_text {number : Int} {c : Char} (member : c ∈ text number) :
    Text.isBlank c = false := by
  rcases isDigit_or_eq_of_mem_text member with digit | rfl
  · exact Text.isBlank_of_isDigit digit
  · decide

theorem isPadding_of_mem_text {number : Int} {c : Char} (member : c ∈ text number) :
    Text.isPadding c = false := by
  rw [Text.isPadding, isBlank_of_mem_text member, Bool.false_and]

theorem colon_notMem_text (number : Int) : ':' ∉ text number := by
  intro member
  rcases isDigit_or_eq_of_mem_text member with digit | sign
  · exact absurd digit (by decide)
  · exact absurd sign (by decide)

/-- A written integer is a sign, where it is negative, and the digits of its absolute
value. -/
theorem splitSign_text (number : Int) :
    splitSign (text number) = (decide (number < 0), Nat.toDigits 10 number.natAbs) := by
  cases number with
  | ofNat n =>
      obtain ⟨c, rest, digits_eq⟩ :=
        List.exists_cons_of_ne_nil (Nat.toDigits_ne_nil (n := n) (b := 10))
      have digit : c.isDigit = true := isDigit_of_mem_toDigits (digits_eq ▸ List.mem_cons_self)
      change splitSign (Nat.toDigits 10 n) = (false, Nat.toDigits 10 n)
      rw [digits_eq, splitSign_of_isDecimal (Text.isDecimal_of_isDigit digit)]
  | negSucc n =>
      rw [decide_eq_true (Int.negSucc_lt_zero n)]
      rfl

theorem signed_natAbs (number : Int) : signed (decide (number < 0)) number.natAbs = number := by
  unfold signed
  split <;> rename_i sign <;> rw [decide_eq_true_eq] at sign <;> omega

/-- An integer that can be written is read back. -/
theorem read?_text {number : Int} (short : fits number = true) :
    read? (text number) = some number := by
  have plain : ∀ c ∈ text number, Text.isPadding c = false := fun _ => isPadding_of_mem_text
  rw [read?_of_digits plain (splitSign_text number) (of_decide_eq_true short), signed_natAbs]

/-- A written integer begins with itself. -/
theorem leading?_text (number : Int) :
    leading? (text number) = some (decide (number < 0), Nat.toDigits 10 number.natAbs) := by
  have unblank : (text number).dropWhile Text.isBlank = text number :=
    Text.dropWhile_of_forall fun _ => isBlank_of_mem_text
  have digits : (Nat.toDigits 10 number.natAbs).takeWhile Char.isDigit =
      Nat.toDigits 10 number.natAbs :=
    List.takeWhile_eq_self_iff.mpr fun _ => isDigit_of_mem_toDigits
  have nonempty : (Nat.toDigits 10 number.natAbs).isEmpty = false := by
    rw [List.isEmpty_eq_false_iff]
    exact Nat.toDigits_ne_nil
  simp only [leading?, unblank, splitSign_text, digits, nonempty, Bool.false_eq_true,
    if_false]

/-- An integer that can be written is the one that its text begins with. -/
theorem decode_text {number : Int} (short : fits number = true) :
    decode (text number) = .ok number := by
  unfold fits bound at short
  have few : (Nat.toDigits 10 number.natAbs).length ≤ digitLimit :=
    length_toDigits_le (by decide) (of_decide_eq_true short)
  simp only [decode, leading?_text, if_pos few, Nat.ofDigitChars_ten_toDigits, signed_natAbs]

end Numeral

/-! ## Locations -/

namespace Location

/-- A text with one colon is parted there. -/
theorem sides?_append_cons {left right : Text} (before : ':' ∉ left) (behind : ':' ∉ right) :
    sides? (left ++ ':' :: right) = some (left, right) := by
  have all : ∀ c ∈ left, (c != ':') = true := by
    intro c member
    rw [bne_iff_ne]
    rintro rfl
    exact before member
  have stops : ∀ c ∈ (':' :: right).head?, (c != ':') = false := by
    rintro c ⟨⟩
    rfl
  obtain ⟨taken, dropped⟩ := Text.span_append all stops
  simp [sides?, dropped, taken, behind]

/-- A location that can be written is read back. -/
theorem read?_text {location : Location} (short : location.fits = true) :
    read? location.text = some location := by
  rw [fits, Bool.and_eq_true] at short
  simp only [read?, text, sides?_append_cons (Numeral.colon_notMem_text _)
    (Numeral.colon_notMem_text _), Numeral.read?_text short.1, Numeral.read?_text short.2,
    Int.add_sub_cancel]

end Location

/-! ## What has been read can be written -/

namespace Numeral

theorem foldl_digits_lt {digits : List Nat} (below : ∀ digit ∈ digits, digit < 10) (value : Nat) :
    digits.foldl (fun value digit => 10 * value + digit) value <
      (value + 1) * 10 ^ digits.length := by
  induction digits generalizing value with
  | nil => simp
  | cons digit rest inductionHypothesis =>
      have digit_lt := below digit List.mem_cons_self
      have rest_lt := inductionHypothesis
        (fun later member => below later (List.mem_cons_of_mem digit member)) (10 * value + digit)
      calc
        (digit :: rest).foldl (fun value digit => 10 * value + digit) value
            < (10 * value + digit + 1) * 10 ^ rest.length := rest_lt
        _ ≤ (10 * (value + 1)) * 10 ^ rest.length := Nat.mul_le_mul_right _ (by omega)
        _ = (value + 1) * 10 ^ (digit :: rest).length := by
          rw [List.length_cons, Nat.pow_succ]
          ac_rfl

/-- Few digits spell a small number. -/
theorem ofDigits_lt_pow {digits : List Nat} (below : ∀ digit ∈ digits, digit < 10) {limit : Nat}
    (few : digits.length ≤ limit) : ofDigits digits < Nat.pow 10 limit := by
  have lt := foldl_digits_lt below 0
  rw [Nat.zero_add, Nat.one_mul] at lt
  exact Nat.lt_of_lt_of_le lt (Nat.pow_le_pow_right (by decide) few)

theorem lt_of_digitRun?_eq_some {source : Text} {digits : List Nat}
    (run : digitRun? source = some digits) : ∀ digit ∈ digits, digit < 10 := by
  fun_induction digitRun? source generalizing digits with
  | case1 => cases run
  | case2 c =>
      obtain ⟨digit, known, rfl⟩ := Option.map_eq_some_iff.mp run
      simpa using Text.digitValue?_lt known
  | case3 c rest digit others restRun known inductionHypothesis =>
      cases run
      exact List.forall_mem_cons.mpr ⟨Text.digitValue?_lt known, inductionHypothesis restRun⟩
  | case4 => cases run
  | case5 c d rest apart digit others restRun known inductionHypothesis =>
      cases run
      exact List.forall_mem_cons.mpr ⟨Text.digitValue?_lt known, inductionHypothesis restRun⟩
  | case6 => cases run

theorem natAbs_signed (negative : Bool) (number : Nat) :
    (signed negative number).natAbs = number := by
  unfold signed
  split
  · exact Int.natAbs_neg _
  · rfl

/-- An integer that a whole text spells can be written. -/
theorem fits_of_read?_eq_some {source : Text} {number : Int}
    (known : read? source = some number) : Numeral.fits number = true := by
  unfold read? at known
  dsimp only at known
  split at known
  · cases known
  · rename_i digits run
    split at known
    · rename_i few
      have number_eq := Option.some.inj known
      unfold Numeral.fits bound
      rw [decide_eq_true_eq, ← number_eq, natAbs_signed]
      exact ofDigits_lt_pow (lt_of_digitRun?_eq_some run) few
    · cases known

end Numeral

/-- A location that has been read can be written. -/
theorem Location.fits_of_read?_eq_some {value : Text} {location : Location}
    (known : Location.read? value = some location) : location.fits = true := by
  unfold Location.read? at known
  split at known
  · cases known
  · split at known
    · rename_i row col rowKnown colKnown
      cases known
      unfold Location.fits
      rw [Bool.and_eq_true, Int.sub_add_cancel, Int.sub_add_cancel]
      exact ⟨Numeral.fits_of_read?_eq_some rowKnown, Numeral.fits_of_read?_eq_some colKnown⟩
    · cases known

end Palimpsest
