import Mathlib.Data.Nat.Digits.Defs
import Palimpsest.CommandLine.Arguments
import Palimpsest.Proofs.Location.Code

/-!
# The texts that show a location

Reading a location accepts more than is ever written: there may be padding around either
number, a plus sign, digits of any script, leading zeros, and underscores that part the
digits into groups. `Numeral.Spells` and `Location.Shows` say which texts these are and
what they stand for, without reading anything. The readers accept exactly these texts.
-/

namespace Palimpsest

/-! ## Padding and digits -/

namespace Text

/-- No decimal digit of any script is blank. -/
theorem isBlank_of_isDecimal {c : Char} (decimal : isDecimal c = true) : isBlank c = false := by
  have everyDigit : ∀ nought ∈ digitZeros, ∀ value < 10,
      isBlank (Char.ofNat (nought + value)) = false := by
    decide +kernel
  rw [isDecimal, digitValue?, Option.isSome_map, List.find?_isSome] at decimal
  obtain ⟨nought, member, bounds⟩ := decimal
  simp only [Bool.and_eq_true, decide_eq_true_eq] at bounds
  have digit := everyDigit nought member (c.toNat - nought) (by omega)
  rwa [Nat.add_sub_cancel' bounds.1, Char.ofNat_toNat] at digit

theorem isPadding_of_isDecimal {c : Char} (decimal : isDecimal c = true) :
    isPadding c = false := by
  rw [isPadding, isBlank_of_isDecimal decimal, Bool.false_and]

/-- Only padding is trimmed off. -/
theorem exists_padding (source : Text) :
    ∃ before after, source = before ++ trimPadding source ++ after ∧
      ∀ c ∈ before ++ after, isPadding c = true := by
  have front : source.takeWhile isPadding ++ source.dropWhile isPadding = source :=
    List.takeWhile_append_dropWhile
  generalize left_eq : source.dropWhile isPadding = left at front
  have back : trimPadding source ++ (left.reverse.takeWhile isPadding).reverse = left := by
    rw [trimPadding, left_eq, ← List.reverse_append, List.takeWhile_append_dropWhile,
      List.reverse_reverse]
  refine ⟨source.takeWhile isPadding, (left.reverse.takeWhile isPadding).reverse, ?_, ?_⟩
  · rw [List.append_assoc, back, front]
  · intro c member
    rcases List.mem_append.mp member with member | member
    · exact List.mem_takeWhile_imp member
    · exact List.mem_takeWhile_imp (List.mem_reverse.mp member)

/-- Padding is dropped up to what has none. -/
theorem dropWhile_isPadding_append {padding rest : Text} {c : Char}
    (padded : ∀ c ∈ padding, isPadding c = true) (plain : isPadding c = false) :
    (padding ++ c :: rest).dropWhile isPadding = c :: rest := by
  rw [List.dropWhile_append_of_pos padded, List.dropWhile_cons_of_neg (by simp [plain])]

/-- All padding is trimmed off what has none. -/
theorem trimPadding_append {before core after : Text}
    (padded : ∀ c ∈ before ++ after, isPadding c = true)
    (plain : ∀ c ∈ core, isPadding c = false) (nonempty : core ≠ []) :
    trimPadding (before ++ core ++ after) = core := by
  have ⟨paddedBefore, paddedAfter⟩ := List.forall_mem_append.mp padded
  have paddedBack : ∀ c ∈ after.reverse, isPadding c = true :=
    fun c member => paddedAfter c (List.mem_reverse.mp member)
  obtain ⟨first, rest, core_eq⟩ := List.exists_cons_of_ne_nil nonempty
  obtain ⟨last, others, reverse_eq⟩ :=
    List.exists_cons_of_ne_nil (List.reverse_ne_nil_iff.mpr nonempty)
  have plainFirst : isPadding first = false := plain first (by simp [core_eq])
  have plainLast : isPadding last = false :=
    plain last (List.mem_reverse.mp (by simp [reverse_eq]))
  have front : (before ++ core ++ after).dropWhile isPadding = core ++ after := by
    rw [List.append_assoc, core_eq]
    exact dropWhile_isPadding_append paddedBefore plainFirst
  have back : (core ++ after).reverse.dropWhile isPadding = core.reverse := by
    rw [List.reverse_append, reverse_eq]
    exact dropWhile_isPadding_append paddedBack plainLast
  rw [trimPadding, front, back, List.reverse_reverse]

end Text

/-! ## Numerals -/

namespace Numeral

/-- One or more groups of decimal digits, none of them empty. -/
structure IsGrouping (groups : List Text) : Prop where
  nonempty : groups ≠ []
  digits : ∀ group ∈ groups, group ≠ [] ∧ ∀ c ∈ group, Text.isDecimal c = true

/-- The number that decimal digits of any script stand for. -/
def value (digits : Text) : Nat :=
  Nat.ofDigits 10 (digits.reverse.map Text.digit)

/-- What a sign, or none, makes of a natural number. -/
inductive Signs : Text → Nat → Int → Prop
  | unsigned (n : Nat) : Signs [] n n
  | plus (n : Nat) : Signs ['+'] n n
  | minus (n : Nat) : Signs ['-'] n (-n)

/-- A text spells a number: after a sign or none, not too many decimal digits, with single
underscores only between digits, and nothing but padding around them. -/
inductive Spells (pads : Char → Bool) : Text → Int → Prop
  | intro {before sign after : Text} {groups : List Text} {number : Int}
      (padded : ∀ c ∈ before ++ after, pads c = true) (grouped : IsGrouping groups)
      (short : groups.flatten.length ≤ digitLimit)
      (signed : Signs sign (value groups.flatten) number) :
      Spells pads (before ++ (sign ++ ['_'].intercalate groups) ++ after) number

theorem ofDigits_map_digit (digits : Text) : ofDigits (digits.map Text.digit) = value digits := by
  rw [value, Nat.ofDigits_eq_foldr, List.map_reverse, List.foldr_reverse, ofDigits]
  simp only [Nat.cast_id, Nat.add_comm]

/-- A digit before an underscore is followed by further digits. -/
theorem digitRun?_cons_underscore {c : Char} {rest : Text} (decimal : Text.isDecimal c = true) :
    digitRun? (c :: '_' :: rest) = (digitRun? rest).map (Text.digit c :: ·) := by
  rw [digitRun?, if_pos rfl, Text.digitValue?_of_isDecimal decimal]
  cases digitRun? rest <;> rfl

/-- So is a group of digits before an underscore. -/
theorem digitRun?_group_append {group : Text} (nonempty : group ≠ [])
    (all : ∀ c ∈ group, Text.isDecimal c = true) (rest : Text) :
    digitRun? (group ++ '_' :: rest) = (digitRun? rest).map (group.map Text.digit ++ ·) := by
  induction group with
  | nil => exact absurd rfl nonempty
  | cons c further inductionHypothesis =>
      have ⟨decimal, others⟩ := List.forall_mem_cons.mp all
      cases further with
      | nil => exact digitRun?_cons_underscore decimal
      | cons d more =>
          have apart := ne_underscore_of_isDecimal (others d List.mem_cons_self)
          have next := inductionHypothesis (List.cons_ne_nil d more) others
          rw [List.cons_append, List.cons_append, digitRun?_cons decimal apart,
            ← List.cons_append, next, Option.map_map]
          rfl

/-- Grouped digits are read group by group. -/
theorem digitRun?_intercalate {groups : List Text} (grouped : IsGrouping groups) :
    digitRun? (['_'].intercalate groups) = some (groups.flatten.map Text.digit) := by
  rcases grouped with ⟨nonempty, digits⟩
  induction groups with
  | nil => exact absurd rfl nonempty
  | cons group further inductionHypothesis =>
      have ⟨⟨digits_ne_nil, all⟩, others⟩ := List.forall_mem_cons.mp digits
      cases further with
      | nil =>
          rw [List.intercalate_singleton, digitRun?_of_isDecimal digits_ne_nil all]
          simp
      | cons next more =>
          have rest := inductionHypothesis (List.cons_ne_nil next more) others
          rw [List.intercalate_cons_cons, List.append_assoc, List.singleton_append,
            digitRun?_group_append digits_ne_nil all, rest, Option.map_some]
          simp

theorem isDecimal_of_digitValue? {c : Char} {number : Nat}
    (known : Text.digitValue? c = some number) :
    Text.isDecimal c = true ∧ Text.digit c = number := by
  simp [Text.isDecimal, Text.digit, known]

/-- A digit before an underscore is a group of its own. -/
theorem IsGrouping.cons {c : Char} {groups : List Text} (decimal : Text.isDecimal c = true)
    (others : ∀ group ∈ groups, group ≠ [] ∧ ∀ c ∈ group, Text.isDecimal c = true) :
    IsGrouping ([c] :: groups) where
  nonempty := List.cons_ne_nil [c] groups
  digits := List.forall_mem_cons.mpr ⟨⟨List.cons_ne_nil c [], by simpa using decimal⟩, others⟩

/-- A digit before another one goes with its group. -/
theorem IsGrouping.extend {c : Char} {group : Text} {groups : List Text}
    (decimal : Text.isDecimal c = true) (grouped : IsGrouping (group :: groups)) :
    IsGrouping ((c :: group) :: groups) := by
  have ⟨⟨_, all⟩, others⟩ := List.forall_mem_cons.mp grouped.digits
  exact ⟨List.cons_ne_nil _ groups, List.forall_mem_cons.mpr
    ⟨⟨List.cons_ne_nil c group, List.forall_mem_cons.mpr ⟨decimal, all⟩⟩, others⟩⟩

theorem intercalate_extend (c : Char) (group : Text) (groups : List Text) :
    ['_'].intercalate ((c :: group) :: groups) = c :: ['_'].intercalate (group :: groups) := by
  cases groups with
  | nil => rw [List.intercalate_singleton, List.intercalate_singleton]
  | cons next more => simp [List.intercalate_cons_cons]

/-- Whatever is read as digits are groups of them. -/
theorem exists_grouping_of_digitRun?_eq_some {body : Text} {values : List Nat}
    (read : digitRun? body = some values) :
    ∃ groups, IsGrouping groups ∧ body = ['_'].intercalate groups ∧
      values = groups.flatten.map Text.digit := by
  fun_induction digitRun? body generalizing values with
  | case1 => cases read
  | case2 c =>
      obtain ⟨number, known, rfl⟩ := Option.map_eq_some_iff.mp read
      obtain ⟨decimal, digit_eq⟩ := isDecimal_of_digitValue? known
      exact ⟨[[c]], .cons decimal (by simp), by simp, by simp [digit_eq]⟩
  | case3 c rest number numbers further known inductionHypothesis =>
      obtain ⟨decimal, digit_eq⟩ := isDecimal_of_digitValue? known
      obtain ⟨groups, grouped, rfl, rfl⟩ := inductionHypothesis further
      obtain ⟨group, more, rfl⟩ := List.exists_cons_of_ne_nil grouped.nonempty
      cases read
      exact ⟨[c] :: group :: more, .cons decimal grouped.digits,
        by simp [List.intercalate_cons_cons], by simp [digit_eq]⟩
  | case4 => cases read
  | case5 c d rest apart number numbers further known inductionHypothesis =>
      obtain ⟨decimal, digit_eq⟩ := isDecimal_of_digitValue? known
      obtain ⟨groups, grouped, body_eq, rfl⟩ := inductionHypothesis further
      obtain ⟨group, more, rfl⟩ := List.exists_cons_of_ne_nil grouped.nonempty
      cases read
      exact ⟨(c :: group) :: more, .extend decimal grouped,
        by rw [intercalate_extend, body_eq], by simp [digit_eq]⟩
  | case6 => cases read

/-- What is left of a numeral behind its sign, and what the sign does. -/
theorem exists_sign (core : Text) :
    ∃ sign, core = sign ++ (splitSign core).2 ∧
      ∀ n, Signs sign n (signed (splitSign core).1 n) := by
  unfold splitSign
  split
  · exact ⟨['-'], rfl, .minus⟩
  · exact ⟨['+'], rfl, .plus⟩
  · exact ⟨[], rfl, .unsigned⟩

/-- A sign before a digit is split off. -/
theorem Signs.exists_splitSign_eq {sign rest : Text} {c : Char} {n : Nat} {number : Int}
    (signs : Signs sign n number) (decimal : Text.isDecimal c = true) :
    ∃ negative, splitSign (sign ++ c :: rest) = (negative, c :: rest) ∧
      signed negative n = number := by
  cases signs with
  | unsigned => exact ⟨false, splitSign_of_isDecimal decimal, rfl⟩
  | plus => exact ⟨false, rfl, rfl⟩
  | minus => exact ⟨true, rfl, rfl⟩

/-- A numeral begins with a digit behind its sign. -/
theorem IsGrouping.exists_cons {groups : List Text} (grouped : IsGrouping groups) :
    ∃ c rest, ['_'].intercalate groups = c :: rest ∧ Text.isDecimal c = true := by
  obtain ⟨group, more, rfl⟩ := List.exists_cons_of_ne_nil grouped.nonempty
  have ⟨⟨digits_ne_nil, all⟩, _⟩ := List.forall_mem_cons.mp grouped.digits
  obtain ⟨c, further, rfl⟩ := List.exists_cons_of_ne_nil digits_ne_nil
  exact ⟨c, _, intercalate_extend c further more, all c List.mem_cons_self⟩

/-- Neither digits nor the underscores between them are padding. -/
theorem IsGrouping.isPadding_of_mem {groups : List Text} (grouped : IsGrouping groups) {c : Char}
    (member : c ∈ ['_'].intercalate groups) : Text.isPadding c = false := by
  rcases grouped with ⟨_, digits⟩
  induction groups with
  | nil => cases member
  | cons group further inductionHypothesis =>
      have ⟨⟨_, all⟩, others⟩ := List.forall_mem_cons.mp digits
      cases further with
      | nil =>
          rw [List.intercalate_singleton] at member
          exact Text.isPadding_of_isDecimal (all c member)
      | cons next more =>
          rw [List.intercalate_cons_cons, List.mem_append, List.mem_append,
            List.mem_singleton] at member
          rcases member with (member | rfl) | member
          · exact Text.isPadding_of_isDecimal (all c member)
          · decide
          · exact inductionHypothesis member (List.cons_ne_nil next more) others

theorem Signs.isPadding_of_mem {sign : Text} {n : Nat} {number : Int} (signs : Signs sign n number)
    {c : Char} (member : c ∈ sign) : Text.isPadding c = false := by
  cases signs with
  | unsigned => cases member
  | plus =>
      rw [List.mem_singleton.mp member]
      decide
  | minus =>
      rw [List.mem_singleton.mp member]
      decide

/-- A text is read as the number that it spells, and nothing else is read. -/
theorem read?_eq_some_iff {source : Text} {number : Int} :
    read? source = some number ↔ Spells Text.isPadding source number := by
  constructor
  · intro read
    obtain ⟨before, after, source_eq, padded⟩ := Text.exists_padding source
    obtain ⟨sign, core_eq, signs⟩ := exists_sign (Text.trimPadding source)
    simp only [read?] at read
    split at read
    · cases read
    · rename_i digits run
      obtain ⟨groups, grouped, body_eq, rfl⟩ := exists_grouping_of_digitRun?_eq_some run
      split at read
      · rename_i short
        rw [List.length_map] at short
        cases read
        have spelled := Spells.intro padded grouped short (signs (value groups.flatten))
        rwa [← body_eq, ← core_eq, ← source_eq, ← ofDigits_map_digit] at spelled
      · cases read
  · rintro ⟨padded, grouped, short, signs⟩
    rename_i before sign after groups
    obtain ⟨c, rest, body_eq, decimal⟩ := grouped.exists_cons
    have plain : ∀ c ∈ sign ++ ['_'].intercalate groups, Text.isPadding c = false :=
      List.forall_mem_append.mpr
        ⟨fun _ => signs.isPadding_of_mem, fun _ => grouped.isPadding_of_mem⟩
    have trimmed := Text.trimPadding_append padded plain (by simp [body_eq])
    obtain ⟨negative, split, signed_eq⟩ := signs.exists_splitSign_eq decimal
    have run := digitRun?_intercalate grouped
    rw [body_eq] at run
    rw [read?, trimmed, body_eq, split]
    simp only [run, List.length_map, if_pos short, ofDigits_map_digit, signed_eq]

end Numeral

/-! ## Locations -/

namespace Location

/-- A text shows a location: it has one colon, with a numeral on either side, and the
numbers are counted from one. -/
inductive Shows (pads : Char → Bool) : Text → Location → Prop
  | intro {left right : Text} {row col : Int} (before : ':' ∉ left) (behind : ':' ∉ right)
      (rowSpelled : Numeral.Spells pads left row) (colSpelled : Numeral.Spells pads right col) :
      Shows pads (left ++ ':' :: right) ⟨row - 1, col - 1⟩

/-- A text that is parted is parted at its only colon. -/
theorem eq_of_sides?_eq_some {value left right : Text}
    (parted : sides? value = some (left, right)) :
    value = left ++ ':' :: right ∧ ':' ∉ left ∧ ':' ∉ right := by
  unfold sides? at parted
  split at parted
  · cases parted
  · rename_i c after left_eq
    have colon : c = ':' := by
      simpa [left_eq] using List.head?_dropWhile_not (· != ':') value
    have front : ':' ∉ value.takeWhile (· != ':') := by
      intro member
      simpa using List.mem_takeWhile_imp member
    split at parted
    · cases parted
    · rename_i single
      cases parted
      rw [colon] at left_eq
      refine ⟨?_, front, by simpa using single⟩
      rw [← left_eq, List.takeWhile_append_dropWhile]

/-- A text is read as the location that it shows, and nothing else is read. -/
theorem read?_eq_some_iff {value : Text} {location : Location} :
    read? value = some location ↔ Shows Text.isPadding value location := by
  constructor
  · intro read
    unfold read? at read
    split at read
    · cases read
    · rename_i left right parted
      obtain ⟨rfl, before, behind⟩ := eq_of_sides?_eq_some parted
      split at read
      · rename_i row col rowRead colRead
        cases read
        exact .intro before behind (Numeral.read?_eq_some_iff.mp rowRead)
          (Numeral.read?_eq_some_iff.mp colRead)
      · cases read
  · rintro ⟨before, behind, rowSpelled, colSpelled⟩
    simp only [read?, sides?_append_cons before behind,
      Numeral.read?_eq_some_iff.mpr rowSpelled, Numeral.read?_eq_some_iff.mpr colSpelled]

theorem decode_eq_ok_iff {value : Text} {location : Location} :
    decode value = .ok location ↔ Shows Text.isPadding value location := by
  rw [← read?_eq_some_iff, decode]
  cases read? value <;> simp

/-- Whatever shows no location is at fault as just that. -/
theorem decode_eq_error_iff {value : Text} {failure : Failure} :
    decode value = .error failure ↔
      (∀ location, ¬ Shows Text.isPadding value location) ∧
        failure = .fault ⟨.notALocation value, none, none⟩ := by
  simp only [← read?_eq_some_iff, decode]
  cases read? value with
  | none =>
      have raised : Failure.ofCause (.notALocation value) =
          .fault ⟨.notALocation value, none, none⟩ := rfl
      simp [raised, eq_comm]
  | some location => simp

theorem parseClick_eq_ok_iff {value : String} {location : Location} :
    CommandLine.parseClick value = .ok location ↔
      decode value.toList = .ok location ∧ 0 ≤ location.row ∧ 0 ≤ location.col := by
  unfold CommandLine.parseClick decode
  cases read? value.toList with
  | none => simp
  | some found =>
      by_cases negative : found.row < 0 ∨ found.col < 0
      · simp only [if_pos negative, reduceCtorEq, Except.ok.injEq, false_iff]
        rintro ⟨rfl, row_nonneg, col_nonneg⟩
        omega
      · simp only [if_neg negative, Except.ok.injEq, iff_self_and]
        rintro rfl
        omega

/-- A location whose numbers have no more digits than are ever written is written and
read back as it was. A text is read as a location exactly if it has one colon with a
numeral on either side, padding around the numerals left out of account, and then as the
location with these numbers, counted from one; every other text is the fault of a text
that shows no location. The command line takes for clicks exactly the texts that are read
as locations in the first row and column or further on. -/
theorem decode_accepts_exactly_shown_locations :
    (∀ location : Location,
      (Nat.toDigits 10 (location.row + 1).natAbs).length ≤ Numeral.digitLimit →
      (Nat.toDigits 10 (location.col + 1).natAbs).length ≤ Numeral.digitLimit →
      ∃ text, location.encode = .ok text ∧ decode text = .ok location) ∧
    (∀ (value : Text) (location : Location),
      decode value = .ok location ↔ Shows Text.isPadding value location) ∧
    (∀ (value : Text) (failure : Failure), decode value = .error failure ↔
      (∀ location, ¬ Shows Text.isPadding value location) ∧
        failure = .fault ⟨.notALocation value, none, none⟩ ∧
        failure.kindName = FaultKind.location.name) ∧
    ∀ (value : String) (location : Location), CommandLine.parseClick value = .ok location ↔
      decode value.toList = .ok location ∧ 0 ≤ location.row ∧ 0 ≤ location.col := by
  refine ⟨?_, fun _ _ => decode_eq_ok_iff, ?_, fun _ _ => parseClick_eq_ok_iff⟩
  · intro location rowShort colShort
    have fits : location.fits = true := by
      rw [Location.fits, Numeral.fits_of_length_toDigits_le rowShort,
        Numeral.fits_of_length_toDigits_le colShort, Bool.and_self]
    refine ⟨location.text, if_pos fits, ?_⟩
    rw [decode, read?_text fits]
  · intro value failure
    rw [decode_eq_error_iff]
    constructor
    · rintro ⟨unshown, rfl⟩
      exact ⟨unshown, rfl, rfl⟩
    · rintro ⟨unshown, rfl, _⟩
      exact ⟨unshown, rfl⟩

theorem decode_accepts_exactly_shown_locations_negative :
    ∃ text, (⟨-3, 7⟩ : Location).encode = .ok text ∧ decode text = .ok ⟨-3, 7⟩ :=
  decode_accepts_exactly_shown_locations.1 ⟨-3, 7⟩ (by decide) (by decide)

/-- An information separator is blank, but it is not padding: with all blanks stripped the
text would show a location, and yet it is at fault. -/
theorem separator_before_numeral_is_refused :
    let value := [Char.ofNat 0x1c, '1', ':', '2']
    Shows Text.isBlank value ⟨0, 1⟩ ∧
      decode value = .error (.fault ⟨.notALocation value, none, none⟩) ∧
      ¬ ∀ (value : Text) (location : Location),
        decode value = .ok location ↔ Shows Text.isBlank value location := by
  have separator : ∀ c ∈ [Char.ofNat 0x1c] ++ ([] : Text), Text.isBlank c = true := by
    simp only [List.append_nil, List.forall_mem_singleton]
    decide
  have one : Numeral.Spells Text.isBlank
      ([Char.ofNat 0x1c] ++ ([] ++ ['_'].intercalate [['1']]) ++ []) 1 :=
    .intro separator (.cons (by decide) (by simp)) (by decide) (.unsigned 1)
  have two : Numeral.Spells Text.isBlank ([] ++ ([] ++ ['_'].intercalate [['2']]) ++ []) 2 :=
    .intro (by simp) (.cons (by decide) (by simp)) (by decide) (.unsigned 2)
  have shown : Shows Text.isBlank [Char.ofNat 0x1c, '1', ':', '2'] ⟨0, 1⟩ :=
    .intro (by decide) (by decide) one two
  refine ⟨shown, by decide, ?_⟩
  intro exact
  exact absurd ((exact _ _).mpr shown) (by decide)

end Location

end Palimpsest
