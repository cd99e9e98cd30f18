import Palimpsest.Json.Parser
import Palimpsest.Json.Printer
import Palimpsest.Proofs.Location.Code

/-!
# Written tokens are read back

A string is written between quotes with some of its characters escaped, and an integer in
plain decimal. The reader takes both back: a string ends at its quote, and an integer where
what follows cannot go on a number. No text that begins with a digit, be it behind a minus
sign, is taken for one of the constants.
-/

namespace Palimpsest.Json

/-! ## Strings -/

theorem hexValue?_hexDigit : ∀ n < 16, hexValue? (Text.hexDigit n) = some n := by
  decide

section

variable {opened : Nat} {source rest : Text} {units : List Nat}
  (read : stringUnits opened source = .ok (units, rest))
include read

/-- An escape of one letter is read as what it stands for. -/
theorem stringUnits_escape {e : Char} {unit : Nat} (known : escape? e = some unit) :
    stringUnits opened (Text.backslash :: e :: source) = .ok (unit :: units, rest) := by
  have other : e ≠ 'u' := by
    rintro rfl
    have unknown : escape? 'u' = none := by decide
    rw [unknown] at known
    cases known
  rw [stringUnits]
  · simp only [if_neg (show Text.backslash ≠ Text.doubleQuote by decide), if_true, if_neg other,
      known, read]
  · exact fun _ _ _ _ _ same _ => other same

/-- An escape of a unit is read as the unit; something follows it, if only the quote. -/
theorem stringUnits_unit {p q r s : Char} {unit : Nat} (spelled : hexUnit? p q r s = some unit) :
    stringUnits opened (Text.backslash :: 'u' :: p :: q :: r :: s :: source) =
      .ok (unit :: units, rest) := by
  have follows : source.isEmpty = false := by
    cases source with
    | nil => cases read
    | cons => rfl
  rw [stringUnits, if_neg (by decide), if_pos rfl]
  simp only [spelled, follows, read, Bool.false_eq_true, if_false]

/-- Every other character stands for itself. -/
theorem stringUnits_cons {c : Char} (unquoted : c ≠ Text.doubleQuote)
    (unescaped : c ≠ Text.backslash) (printable : ¬ c.toNat < 32) :
    stringUnits opened (c :: source) = .ok (c.toNat :: units, rest) := by
  rw [stringUnits.eq_def]
  simp only [if_neg unquoted, if_neg unescaped, if_neg printable, read]

/-- A character is read back from the way it is written. -/
theorem stringUnits_escapedChar (c : Char) :
    stringUnits opened (escapedChar c ++ source) = .ok (c.toNat :: units, rest) := by
  unfold escapedChar
  dsimp only
  split
  · rename_i special
    apply stringUnits_escape read
    rw [escape?, if_pos (special.imp_right .inl)]
  iterate 5
    split
    · rename_i code
      rw [code]
      exact stringUnits_escape read (by decide)
  split
  · rename_i special _ _ _ _ _ control
    have digits : Text.hexDigits 4 c.toNat = [Text.hexDigit 0, Text.hexDigit 0,
        Text.hexDigit (c.toNat / 16), Text.hexDigit (c.toNat % 16)] := by
      have high : c.toNat / 16 % 16 = c.toNat / 16 := by omega
      have none : c.toNat / 16 / 16 = 0 := by omega
      simp [Text.hexDigits, high, none]
    have spelled : hexUnit? (Text.hexDigit 0) (Text.hexDigit 0) (Text.hexDigit (c.toNat / 16))
        (Text.hexDigit (c.toNat % 16)) = some c.toNat := by
      simp only [hexUnit?, hexValue?_hexDigit 0 (by omega),
        hexValue?_hexDigit (c.toNat / 16) (by omega), hexValue?_hexDigit (c.toNat % 16) (by omega)]
      congr 1
      omega
    rw [digits]
    exact stringUnits_unit read spelled
  · rename_i special _ _ _ _ _ printable
    rw [not_or] at special
    exact stringUnits_cons read special.1 special.2 printable

end

/-- A written string is read back up to its closing quote. -/
theorem stringUnits_flatMap (opened : Nat) (text rest : Text) :
    stringUnits opened (text.flatMap escapedChar ++ Text.doubleQuote :: rest) =
      .ok (text.map Char.toNat, rest) := by
  induction text with
  | nil =>
      rw [List.flatMap_nil, List.nil_append, stringUnits.eq_def]
      simp only [if_true]
      rfl
  | cons c others inductionHypothesis =>
      rw [List.flatMap_cons, List.append_assoc, List.map_cons]
      exact stringUnits_escapedChar inductionHypothesis c

/-- No character is a surrogate. -/
theorem toNat_div_ne (c : Char) : c.toNat / 0x800 ≠ 0x1b := by
  have valid := c.valid
  simp only [UInt32.isValidChar, Nat.isValidChar] at valid
  change c.toNat < 55296 ∨ 57343 < c.toNat ∧ c.toNat < 1114112 at valid
  omega

theorem ofUnits_map_toNat (text : Text) : ofUnits (text.map Char.toNat) = .ofText text := by
  have single (c : Char) : ofUnit c.toNat = .scalar c := by
    rw [ofUnit, if_neg (toNat_div_ne c), Char.ofNat_toNat]
  induction text with
  | nil => rfl
  | cons c others inductionHypothesis =>
      cases others with
      | nil => simp [ofUnits, single, RawText.ofText]
      | cons d more =>
          have unpaired : ¬ (c.toNat / 0x400 = 0x36 ∧ d.toNat / 0x400 = 0x37) := by
            have := toNat_div_ne c
            omega
          rw [List.map_cons, List.map_cons] at *
          rw [ofUnits, if_neg unpaired, inductionHypothesis, single]
          rfl

/-- What stands between the quotes of a written string is read back. -/
theorem readString_escaped (text rest : Text) :
    readString (text.flatMap escapedChar ++ Text.doubleQuote :: rest) =
      .ok (.ofText text, rest) := by
  simp only [readString, stringUnits_flatMap, ofUnits_map_toNat]

/-! ## Numbers and constants -/

/-- A text that cannot go on a number. -/
def Ends (rest : Text) : Prop :=
  ∀ c ∈ rest.head?, c.isDigit = false ∧ c ≠ '.' ∧ c ≠ 'e' ∧ c ≠ 'E'

/-- A positive number is not written with a zero in front. -/
theorem exists_toDigits_eq_cons {n : Nat} (positive : 0 < n) :
    ∃ c others, Nat.toDigits 10 n = c :: others ∧ c ≠ '0' := by
  induction n using Nat.strongRecOn with
  | ind n inductionHypothesis =>
      by_cases small : n < 10
      · refine ⟨n.digitChar, [], Nat.toDigits_of_lt_base small, ?_⟩
        have positiveDigit : ∀ digit < 10, 0 < digit → digit.digitChar ≠ '0' := by decide
        exact positiveDigit n small positive
      · obtain ⟨c, others, front, nonzero⟩ :=
          inductionHypothesis (n / 10) (by omega) (by omega)
        refine ⟨c, others ++ [(n % 10).digitChar], ?_, nonzero⟩
        rw [Nat.toDigits_of_base_le (by decide) (Nat.le_of_not_lt small), front, List.cons_append]

theorem wholeDigits_toDigits (n : Nat) {rest : Text} (ends : Ends rest) :
    wholeDigits (Nat.toDigits 10 n ++ rest) = Nat.toDigits 10 n := by
  rcases Nat.eq_zero_or_pos n with rfl | positive
  · rfl
  · obtain ⟨c, others, digits_eq, nonzero⟩ := exists_toDigits_eq_cons positive
    rw [wholeDigits]
    · exact (Text.span_append (fun _ => Numeral.isDigit_of_mem_toDigits)
        fun c first => (ends c first).1).1
    · intro more spelled
      rw [digits_eq] at spelled
      cases spelled
      exact nonzero rfl

theorem readFraction_of_ends {rest : Text} (ends : Ends rest) : readFraction rest = ([], rest) := by
  unfold readFraction
  split
  · exact absurd rfl (ends '.' rfl).2.1
  · rfl

theorem readExponent_of_ends {rest : Text} (ends : Ends rest) : readExponent rest = (0, rest) := by
  unfold readExponent
  split
  · rename_i c others
    rw [if_neg (not_or.mpr (ends c rfl).2.2)]
  · rfl

/-- A written integer is read back. -/
theorem readNumber_text {number : Int} (short : Numeral.fits number = true) {rest : Text}
    (ends : Ends rest) : readNumber (Numeral.text number ++ rest) = .ok (.int number, rest) := by
  unfold Numeral.fits Numeral.bound at short
  have few : (Nat.toDigits 10 number.natAbs).length ≤ Numeral.digitLimit :=
    Numeral.length_toDigits_le (by decide) (of_decide_eq_true short)
  obtain ⟨c, others, digits_eq⟩ :=
    List.exists_cons_of_ne_nil (Nat.toDigits_ne_nil (n := number.natAbs) (b := 10))
  have nonempty : (Nat.toDigits 10 number.natAbs).isEmpty = false := by rw [digits_eq]; rfl
  have ⟨sign, unsigned⟩ :
      ((Numeral.text number ++ rest).head? == some '-') = decide (number < 0) ∧
        (if decide (number < 0) then (Numeral.text number ++ rest).drop 1
          else Numeral.text number ++ rest) = Nat.toDigits 10 number.natAbs ++ rest := by
    cases number with
    | negSucc n => simp [Numeral.text, Int.negSucc_lt_zero]
    | ofNat n =>
        have digit : c.isDigit = true :=
          Numeral.isDigit_of_mem_toDigits (digits_eq ▸ List.mem_cons_self)
        have unsigned : c ≠ '-' := by
          rintro rfl
          exact absurd digit (by decide)
        have text_eq : Numeral.text (.ofNat n) = c :: others := digits_eq
        have nonneg : ¬ Int.ofNat n < 0 := Int.not_lt.mpr (Int.natCast_nonneg n)
        rw [text_eq, digits_eq, decide_eq_false nonneg]
        simp [unsigned]
  simp only [readNumber, sign, unsigned, wholeDigits_toDigits _ ends, nonempty, List.drop_left,
    readFraction_of_ends ends, readExponent_of_ends ends, if_neg (Nat.not_lt.mpr few),
    Nat.ofDigitChars_ten_toDigits, Numeral.signed_natAbs, List.isEmpty_nil, beq_self_eq_true,
    Bool.and_self, Bool.false_eq_true, if_true, if_false]

/-- No constant begins like a text that begins with a digit, be it behind a minus sign. -/
theorem readScalar_of_digit {c : Char} (digit : c.isDigit = true) (rest : Text) :
    readScalar (c :: rest) = readNumber (c :: rest) ∧
      readScalar ('-' :: c :: rest) = readNumber ('-' :: c :: rest) := by
  have apart {d : Char} (other : d.isDigit = false) : (d == c) = false := by
    rw [beq_eq_false_iff_ne]
    rintro rfl
    rw [digit] at other
    cases other
  have find_eq (source : Text) (none : ∀ entry ∈ constants, entry.1.isPrefixOf source = false) :
      readScalar source = readNumber source := by
    rw [readScalar, List.find?_eq_none.mpr fun entry member => by simp [none entry member]]
  constructor
  · apply find_eq
    simp [constants, List.isPrefixOf, apart]
  · apply find_eq
    simp [constants, List.isPrefixOf, apart]

/-- An integer is written with a digit first, be it behind a minus sign. -/
theorem text_begins (number : Int) : ∃ c others, c.isDigit = true ∧
    (Numeral.text number = c :: others ∨ Numeral.text number = '-' :: c :: others) := by
  obtain ⟨c, others, digits_eq⟩ :=
    List.exists_cons_of_ne_nil (Nat.toDigits_ne_nil (n := number.natAbs) (b := 10))
  refine ⟨c, others, Numeral.isDigit_of_mem_toDigits (digits_eq ▸ List.mem_cons_self), ?_⟩
  cases number with
  | ofNat n => exact .inl digits_eq
  | negSucc n => exact .inr (congrArg ('-' :: ·) digits_eq)

/-- A digit opens neither a string nor an array nor an object, and is no blank or mark. -/
theorem apart_of_isDigit {c : Char} (digit : c.isDigit = true) :
    (c ≠ Text.doubleQuote ∧ c ≠ '[' ∧ c.toNat ≠ 0x7b) ∧
      isGap c = false ∧ c ≠ ']' ∧ c ≠ Char.ofNat 0xfeff := by
  have other {d : Char} (noDigit : d.isDigit = false) : c ≠ d := by
    rintro rfl
    exact absurd digit (by simp [noDigit])
  have numbers {n : Nat} (noDigit : (Char.ofNat n).isDigit = false) : c.toNat ≠ n := by
    rintro rfl
    exact other noDigit (Char.ofNat_toNat c).symm
  have blank : isGap c = false := by
    rw [isGap, beq_false_of_ne (numbers (by decide)), beq_false_of_ne (numbers (by decide)),
      beq_false_of_ne (numbers (by decide)), beq_false_of_ne (numbers (by decide))]
    rfl
  exact ⟨⟨other (by decide), other (by decide), numbers (by decide)⟩, blank, other (by decide),
    other (by decide)⟩

end Palimpsest.Json
