import Mathlib.Data.Int.Bitwise
import Palimpsest.Proofs.Location.Code
import Palimpsest.Proofs.Thread.Agreement

/-!
# Arithmetic on texts

Memory holds texts, so an operator reads integers from its operands and writes its
result. Nothing is lost on the way: the result is the exact integer, whatever blanks,
signs, leading zeros or endings the operands have, and its text is read back as the
result and is true exactly when the result is not zero. An operand that stands in the
word works as if it had been on top of memory, for failures too.
-/

namespace Palimpsest

/-! ## Results -/

/-- A bit of the conjunction is set when it is set in both integers. -/
theorem testBit_conjoin (x y : Int) (i : Nat) :
    (conjoin x y).testBit i = (x.testBit i && y.testBit i) := by
  have difference (m n : Nat) :
      (m ^^^ (m &&& n)).testBit i = (m.testBit i && !n.testBit i) := by
    rw [Nat.testBit_xor, Nat.testBit_and]
    cases m.testBit i <;> cases n.testBit i <;> rfl
  cases x with
  | ofNat m =>
      cases y with
      | ofNat n => exact Nat.testBit_and m n i
      | negSucc n => exact difference m n
  | negSucc m =>
      cases y with
      | ofNat n => exact (difference n m).trans (Bool.and_comm _ _)
      | negSucc n =>
          change (!(m ||| n).testBit i) = (!m.testBit i && !n.testBit i)
          rw [Nat.testBit_or, Bool.not_or]

/-- What an operator on two integers is to give. The bits are those of the two's
complement form, in which a negative integer has infinitely many leading ones. -/
inductive Gives : Char → Int → Int → Int → Prop
  | less (x y : Int) : Gives '<' x y (if x < y then 1 else 0)
  | greater (x y : Int) : Gives '>' x y (if x > y then 1 else 0)
  | plus (x y : Int) : Gives '+' x y (x + y)
  | conjunction {x y both : Int}
      (bits : ∀ i, both.testBit i = (x.testBit i && y.testBit i)) : Gives '&' x y both

/-- The operators on two integers give what they are to give. -/
theorem exists_binary_of_mem {symbol : Char} (known : symbol ∈ ['<', '>', '+', '&']) :
    ∃ operator, Operator.ofChar? symbol = some (.binary operator) ∧
      ∀ x y, Gives symbol x y (operator.apply x y) := by
  simp only [List.mem_cons, List.not_mem_nil, or_false] at known
  rcases known with rfl | rfl | rfl | rfl
  · refine ⟨.less, rfl, fun x y => ?_⟩
    simpa [BinaryOperator.apply, ofTruth] using Gives.less x y
  · refine ⟨.greater, rfl, fun x y => ?_⟩
    simpa [BinaryOperator.apply, ofTruth] using Gives.greater x y
  · exact ⟨.plus, rfl, Gives.plus⟩
  · exact ⟨.conjunction, rfl, fun x y => .conjunction (testBit_conjoin x y)⟩

namespace Numeral

/-- The digits of a written integer are those of its absolute value. -/
theorem countP_isDigit_text (number : Int) :
    (text number).countP Char.isDigit = (Nat.toDigits 10 number.natAbs).length := by
  have digits (n : Nat) : (Nat.toDigits 10 n).countP Char.isDigit = (Nat.toDigits 10 n).length :=
    List.countP_eq_length.mpr fun _ => isDigit_of_mem_toDigits
  cases number with
  | ofNat n => exact digits n
  | negSucc n => exact (List.countP_cons_of_neg (by decide)).trans (digits (n + 1))

theorem text_eq_zero_iff (number : Int) : text number = ['0'] ↔ number = 0 := by
  constructor
  · intro shown
    cases number with
    | ofNat n =>
        have value := Nat.ofDigitChars_ten_toDigits (n := n)
        rw [show Nat.toDigits 10 n = ['0'] from shown] at value
        exact congrArg Int.ofNat value.symm
    | negSucc n => cases shown
  · rintro rfl
    rfl

/-- The text of an integer is true exactly when the integer is not zero. -/
theorem isTrue_text (number : Int) : isTrue (text number) = true ↔ number ≠ 0 := by
  have nonempty : text number ≠ [] := by
    cases number with
    | ofNat n => exact Nat.toDigits_ne_nil
    | negSucc n => exact List.cons_ne_nil _ _
  simp [isTrue, nonempty, text_eq_zero_iff]

end Numeral

namespace Frame

/-! ## Operators on memory -/

/-- The outcome is that a number is written on top of what is left of memory, where it
is read back and is true when it is not zero; nothing else has changed. -/
structure Computes (frame : Frame) (rest : List Text) (number : Int)
    (outcome : EStateM.Result Failure Frame Flow) : Prop where
  written : outcome = .ok .advance { frame with memory := Numeral.text number :: rest }
  readBack : Numeral.decode (Numeral.text number) = .ok number
  truth : isTrue (Numeral.text number) = true ↔ number ≠ 0

variable {frame : Frame} {x y : Text} {rest : List Text} {a b : Int}

theorem pushNumber_of_fits {number : Int} (short : Numeral.fits number = true) (frame : Frame) :
    pushNumber number frame =
      .ok () { frame with memory := Numeral.text number :: frame.memory } := by
  have encoded : Numeral.encode number = .ok (Numeral.text number) := by
    rw [Numeral.encode, if_pos short]
  rw [pushNumber, encoded]
  rfl

/-- Taking the top of memory as an integer. -/
theorem decodeLast_of_cons {β : Type} (memory : frame.memory = x :: rest)
    (read : Numeral.decode x = .ok a) (next : Int → Action β) :
    (do next (← require (Numeral.decode (← pop)))) frame =
      next a { frame with memory := rest } := by
  rw [bind_of_ok (pop_of_cons memory), read]
  rfl

theorem applyOperator_isZero (memory : frame.memory = x :: rest)
    (read : Numeral.decode x = .ok a) :
    applyOperator .isZero [] frame =
      pushNumber (ofTruth (decide (a = 0))) { frame with memory := rest } :=
  decodeLast_of_cons memory read _

theorem applyOperator_binary (operator : BinaryOperator) (memory : frame.memory = y :: x :: rest)
    (readFirst : Numeral.decode x = .ok a) (readSecond : Numeral.decode y = .ok b) :
    applyOperator (.binary operator) [] frame =
      pushNumber (operator.apply a b) { frame with memory := rest } := by
  refine (decodeLast_of_cons memory readSecond _).trans ?_
  exact decodeLast_of_cons rfl readFirst _

/-- A word of the math operation applies the operator that its second character picks. -/
theorem executeWord_of_normalize {word : Word} {symbol : Char} {argument : Text}
    {operator : Operator} (spelled : Instruction.normalize word.text = 'm' :: symbol :: argument)
    (picked : Operator.ofChar? symbol = some operator) :
    executeWord word = (do applyOperator operator argument; return .advance) := by
  have decoded : Instruction.decode? word.text = some ⟨.math, symbol :: argument⟩ := by
    rw [Instruction.decode?, spelled]
    rfl
  rw [executeWord, decoded]
  simp only [execute, math, picked]

/-- A word whose operator comes to a number that can be written has written it. -/
theorem computes_of_applyOperator {word : Word} {symbol : Char} {operator : Operator} {number : Int}
    (spelled : Instruction.normalize word.text = ['m', symbol])
    (picked : Operator.ofChar? symbol = some operator) (short : Numeral.fits number = true)
    (applied : applyOperator operator [] frame = pushNumber number { frame with memory := rest }) :
    Computes frame rest number (executeWord word frame) := by
  refine ⟨?_, Numeral.decode_text short, Numeral.isTrue_text number⟩
  rw [executeWord_of_normalize spelled picked,
    bind_of_ok (applied.trans (pushNumber_of_fits short _))]
  rfl

/-- An operator on two integers writes its exact result when it has few enough digits. -/
theorem exists_computes_binary {word : Word} {symbol : Char}
    (known : symbol ∈ ['<', '>', '+', '&'])
    (spelled : Instruction.normalize word.text = ['m', symbol])
    (memory : frame.memory = y :: x :: rest) (readFirst : Numeral.decode x = .ok a)
    (readSecond : Numeral.decode y = .ok b) :
    ∃ result, Gives symbol a b result ∧
      ((Numeral.text result).countP Char.isDigit ≤ Numeral.digitLimit →
        Computes frame rest result (executeWord word frame)) := by
  obtain ⟨operator, picked, gives⟩ := exists_binary_of_mem known
  refine ⟨operator.apply a b, gives a b, fun few => ?_⟩
  rw [Numeral.countP_isDigit_text] at few
  exact computes_of_applyOperator spelled picked (Numeral.fits_of_length_toDigits_le few)
    (applyOperator_binary operator memory readFirst readSecond)

/-- The test for zero writes one or zero. -/
theorem computes_isZero {word : Word} (spelled : Instruction.normalize word.text = ['m', '!'])
    (memory : frame.memory = x :: rest) (read : Numeral.decode x = .ok a) :
    Computes frame rest (if a = 0 then 1 else 0) (executeWord word frame) := by
  have short : Numeral.fits (if a = 0 then 1 else 0) = true := by
    apply Numeral.fits_of_length_toDigits_le
    split <;> decide
  apply computes_of_applyOperator spelled rfl short
  rw [applyOperator_isZero memory read]
  simp only [ofTruth, decide_eq_true_eq]

/-! ## Operands in the word -/

/-- Frames with the same values in memory. -/
def SameMemory (frame other : Frame) : Prop :=
  frame.memory = other.memory

namespace SameMemory

variable {other : Frame}

theorem push (same : SameMemory frame other) (value : Text) :
    SameOutcome Eq SameMemory (push value frame) (push value other) :=
  .ok rfl (congrArg (value :: ·) same)

theorem require {α : Type} (same : SameMemory frame other) (result : Except Failure α) :
    SameOutcome Eq SameMemory (require result frame) (require result other) := by
  cases result with
  | ok value => exact .ok rfl same
  | error failure => exact .error failure same

theorem pop (same : SameMemory frame other) :
    SameOutcome Eq SameMemory (pop frame) (pop other) := by
  cases memory : frame.memory with
  | nil =>
      rw [pop_of_nil memory, pop_of_nil (same.symm.trans memory)]
      exact .error _ same
  | cons value rest =>
      rw [pop_of_cons memory, pop_of_cons (same.symm.trans memory)]
      exact .ok rfl rfl

theorem pushNumber (same : SameMemory frame other) (number : Int) :
    SameOutcome Eq SameMemory (pushNumber number frame) (pushNumber number other) := by
  apply (same.require (Numeral.encode number)).bind
  rintro value _ middle otherMiddle rfl alike _
  exact alike.push value

end SameMemory

/-- The last operand is the same in the word as on top of memory. -/
theorem sameOutcome_lastOperand {inline stacked : Frame} {argument : Text}
    (given : argument ≠ []) (memory : stacked.memory = argument :: inline.memory) :
    SameOutcome Eq SameMemory (lastOperand argument inline) (lastOperand [] stacked) := by
  have written : lastOperand argument inline = .ok argument inline := by
    rw [lastOperand, if_neg (by simpa using given)]
    rfl
  have popped : lastOperand [] stacked = .ok argument { stacked with memory := inline.memory } :=
    pop_of_cons memory
  rw [written, popped]
  exact .ok rfl rfl

/-- From the last operand on, an operator does not see where its operand stood. -/
theorem sameOutcome_applyOperator (operator : Operator) {inline stacked : Frame} {argument : Text}
    (given : argument ≠ []) (memory : stacked.memory = argument :: inline.memory) :
    SameOutcome Eq SameMemory (applyOperator operator argument inline)
      (applyOperator operator [] stacked) := by
  have operand := sameOutcome_lastOperand given memory
  cases operator with
  | equal =>
      apply operand.bind
      rintro second _ taken otherTaken rfl same _
      apply same.pop.bind
      rintro first _ left otherLeft rfl same _
      exact same.push _
  | isZero =>
      apply operand.bind
      rintro last _ taken otherTaken rfl same _
      apply (same.require _).bind
      rintro value _ left otherLeft rfl same _
      exact same.pushNumber _
  | binary operator =>
      apply operand.bind
      rintro last _ taken otherTaken rfl same _
      apply (same.require _).bind
      rintro second _ read otherRead rfl same _
      apply same.pop.bind
      rintro below _ popped otherPopped rfl same _
      apply (same.require _).bind
      rintro first _ left otherLeft rfl same _
      exact same.pushNumber _

theorem exists_operator_of_mem {symbol : Char} (known : symbol ∈ ['=', '!', '<', '>', '+', '&']) :
    ∃ operator, Operator.ofChar? symbol = some operator := by
  simp only [List.mem_cons, List.not_mem_nil, or_false] at known
  rcases known with rfl | rfl | rfl | rfl | rfl | rfl <;> exact ⟨_, rfl⟩

/-- A word with its last operand in it and one that finds it on top of memory end alike. -/
theorem sameOutcome_executeWord {inline stacked : Frame} {word bare : Word} {symbol : Char}
    {argument : Text} (known : symbol ∈ ['=', '!', '<', '>', '+', '&']) (given : argument ≠ [])
    (spelled : Instruction.normalize word.text = 'm' :: symbol :: argument)
    (spelledBare : Instruction.normalize bare.text = ['m', symbol])
    (memory : stacked.memory = argument :: inline.memory) :
    SameOutcome Eq SameMemory (executeWord word inline) (executeWord bare stacked) := by
  obtain ⟨operator, picked⟩ := exists_operator_of_mem known
  rw [executeWord_of_normalize spelled picked, executeWord_of_normalize spelledBare picked]
  apply (sameOutcome_applyOperator operator given memory).bind
  rintro _ _ left otherLeft _ same _
  exact .ok rfl same

/-! ## Exactness -/

/-- Operators on two integers, with the first below the second, and the test for zero
write the exact result as a decimal text, from which it is read back and which is true
when it is not zero; a result of two integers must have few enough digits to be written.
An operand in the word does what it would do on top of memory: memory ends the same, or
the same failure leaves the same memory behind. -/
theorem math_is_exact_and_closed_over_texts :
    (∀ (frame : Frame) (word : Word) (symbol : Char) (x y : Text) (rest : List Text) (a b : Int),
      symbol ∈ ['<', '>', '+', '&'] → Instruction.normalize word.text = ['m', symbol] →
      frame.memory = y :: x :: rest → Numeral.decode x = .ok a → Numeral.decode y = .ok b →
      ∃ result, Gives symbol a b result ∧
        ((Numeral.text result).countP Char.isDigit ≤ Numeral.digitLimit →
          Computes frame rest result (executeWord word frame))) ∧
    (∀ (frame : Frame) (word : Word) (x : Text) (rest : List Text) (a : Int),
      Instruction.normalize word.text = ['m', '!'] → frame.memory = x :: rest →
      Numeral.decode x = .ok a →
      Computes frame rest (if a = 0 then 1 else 0) (executeWord word frame)) ∧
    ∀ (inline stacked : Frame) (word bare : Word) (symbol : Char) (argument : Text),
      symbol ∈ ['=', '!', '<', '>', '+', '&'] → argument ≠ [] →
      Instruction.normalize word.text = 'm' :: symbol :: argument →
      Instruction.normalize bare.text = ['m', symbol] →
      stacked.memory = argument :: inline.memory →
      SameOutcome Eq SameMemory (executeWord word inline) (executeWord bare stacked) := by
  refine ⟨?_, ?_, ?_⟩
  · intro frame word symbol x y rest a b known spelled memory readFirst readSecond
    exact exists_computes_binary known spelled memory readFirst readSecond
  · intro frame word x rest a spelled memory read
    exact computes_isZero spelled memory read
  · intro inline stacked word bare symbol argument known given spelled spelledBare memory
    exact sameOutcome_executeWord known given spelled spelledBare memory

theorem math_is_exact_on_padded_operands :
    Computes ((Scene.alone "m+" ⟨0, 0⟩ ["+007q", " -12abc"]).frame ⟨0, 0⟩) [] (-5)
        (executeWord ⟨[['m'], ['+']]⟩
          ((Scene.alone "m+" ⟨0, 0⟩ ["+007q", " -12abc"]).frame ⟨0, 0⟩)) ∧
      Computes ((Scene.alone "🧮!" ⟨0, 0⟩ ["-00", "q"]).frame ⟨0, 0⟩) [['q']] 1
        (executeWord ⟨[['🧮'], ['!']]⟩ ((Scene.alone "🧮!" ⟨0, 0⟩ ["-00", "q"]).frame ⟨0, 0⟩)) ∧
      SameOutcome Eq SameMemory
        (executeWord ⟨[['m'], ['<'], ['7']]⟩ ((Scene.alone "m<7" ⟨0, 0⟩ ["q"]).frame ⟨0, 0⟩))
        (executeWord ⟨[['m'], ['<']]⟩ ((Scene.alone "m<" ⟨0, 0⟩ ["7", "q"]).frame ⟨0, 0⟩)) := by
  refine ⟨?_, ?_, ?_⟩
  · obtain ⟨result, gives, computed⟩ := math_is_exact_and_closed_over_texts.1
      ((Scene.alone "m+" ⟨0, 0⟩ ["+007q", " -12abc"]).frame ⟨0, 0⟩) ⟨[['m'], ['+']]⟩ '+'
      " -12abc".toList "+007q".toList [] (-12) 7 (by decide) (by decide) rfl rfl rfl
    cases gives
    exact computed (by decide)
  · exact math_is_exact_and_closed_over_texts.2.1 _ _ "-00".toList [['q']] 0 (by decide) rfl rfl
  · exact math_is_exact_and_closed_over_texts.2.2 _ _ _ _ '<' ['7'] (by decide) (by decide)
      (by decide) (by decide) rfl

end Frame

end Palimpsest
