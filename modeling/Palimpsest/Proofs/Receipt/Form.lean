import Palimpsest.Proofs.Json.Reading
import Palimpsest.Receipt.Schema

/-!
# Receipts have their form

Whatever is written into a receipt, its JSON passes the check for receipts: a
location is shown as two integers with a colon between them, a digest as
sixty-four hexadecimal digits, and every part has the fields that its check asks
for and no others. The only condition is on the name of the program, which a
digest always meets. And whoever reads a receipt that has been written finds it
again, up to the order of fields, as long as its counts are short enough.
-/

namespace Palimpsest

/-! ## Shown locations -/

namespace Check

theorem afterInteger?_minus (text : Text) :
    afterInteger? ('-' :: text) =
      if (text.takeWhile Text.isDecimal).isEmpty then none
      else some (text.dropWhile Text.isDecimal) :=
  rfl

theorem afterInteger?_of_unsigned {text : Text} (unsigned : ∀ rest, text ≠ '-' :: rest) :
    afterInteger? text =
      if (text.takeWhile Text.isDecimal).isEmpty then none
      else some (text.dropWhile Text.isDecimal) := by
  unfold afterInteger?
  split
  · rename_i rest
    exact absurd rfl (unsigned rest)
  · rfl

/-- Digits that are followed by something else are passed over as a whole. -/
theorem afterInteger?_digits_append (n : Nat) {rest : Text}
    (stops : rest.dropWhile Text.isDecimal = rest) :
    afterInteger? (Nat.toDigits 10 n ++ rest) = some rest ∧
      afterInteger? ('-' :: Nat.toDigits 10 n ++ rest) = some rest := by
  have digits : ∀ c ∈ Nat.toDigits 10 n, c.isDigit = true := fun c member =>
    Nat.isDigit_of_mem_toDigits (by decide) (by decide) member
  have decimal : ∀ c ∈ Nat.toDigits 10 n, Text.isDecimal c = true := fun c member =>
    Text.isDecimal_of_isDigit (digits c member)
  have someTaken : ((Nat.toDigits 10 n ++ rest).takeWhile Text.isDecimal).isEmpty = false := by
    rw [List.takeWhile_append_of_pos decimal]
    simp [Nat.toDigits_ne_nil]
  have allDropped : (Nat.toDigits 10 n ++ rest).dropWhile Text.isDecimal = rest := by
    rw [List.dropWhile_append_of_pos decimal, stops]
  constructor
  · rw [afterInteger?_of_unsigned, someTaken, allDropped]
    · rfl
    · intro signed spelled
      have minus : '-' ∈ Nat.toDigits 10 n := by
        cases listed : Nat.toDigits 10 n with
        | nil => exact absurd listed Nat.toDigits_ne_nil
        | cons first others =>
            rw [listed, List.cons_append] at spelled
            cases spelled
            exact List.mem_cons_self
      have digit := digits '-' minus
      simp at digit
  · rw [List.cons_append, afterInteger?_minus, someTaken, allDropped]
    rfl

/-- An integer that is followed by something other than a digit is passed over as
a whole. -/
theorem afterInteger?_text_append (number : Int) {rest : Text}
    (stops : rest.dropWhile Text.isDecimal = rest) :
    afterInteger? (Numeral.text number ++ rest) = some rest := by
  cases number with
  | ofNat n => exact (afterInteger?_digits_append n stops).1
  | negSucc n => exact (afterInteger?_digits_append (n + 1) stops).2

theorem showsLocation_text (location : Location) : showsLocation location.text = true := by
  have colon : (':' :: Numeral.text (location.col + 1)).dropWhile Text.isDecimal =
      ':' :: Numeral.text (location.col + 1) := by
    rw [List.dropWhile_cons_of_neg (by decide)]
  have row := afterInteger?_text_append (location.row + 1) colon
  have nothing : ([] : Text).dropWhile Text.isDecimal = [] := rfl
  have col := afterInteger?_text_append (location.col + 1) nothing
  rw [List.append_nil] at col
  unfold showsLocation Location.text
  rw [row]
  simp only [col]
  rfl

/-! ## Digests -/

theorem isHexDigit_hexDigit {n : Nat} (small : n < 16) : isHexDigit (Text.hexDigit n) = true := by
  have all : ∀ digit, digit < 16 → isHexDigit (Text.hexDigit digit) = true := by decide
  exact all n small

theorem length_hexDigits (width n : Nat) : (Text.hexDigits width n).length = width := by
  induction width generalizing n with
  | zero => rfl
  | succ width inductionHypothesis => simp [Text.hexDigits, inductionHypothesis]

theorem isHexDigit_of_mem_hexDigits {width n : Nat} {c : Char}
    (member : c ∈ Text.hexDigits width n) : isHexDigit c = true := by
  induction width generalizing n with
  | zero => cases member
  | succ width inductionHypothesis =>
      rcases List.mem_append.mp member with earlier | last
      · exact inductionHypothesis earlier
      · rw [List.mem_singleton.mp last]
        exact isHexDigit_hexDigit (Nat.mod_lt n (by decide))

/-- A text is named by sixty-four hexadecimal digits. -/
theorem showsDigest_ofText (text : Text) : showsDigest (Digest.ofText text) = true := by
  unfold Digest.ofText
  generalize Digest.sha256 (Utf8.encode text) = words
  have length : words.hex.length = 64 := by
    simp [Digest.Words.hex, length_hexDigits]
  have digits : ∀ c ∈ words.hex, isHexDigit c = true := by
    intro c member
    obtain ⟨word, _, member⟩ := List.mem_flatMap.mp member
    exact isHexDigit_of_mem_hexDigits member
  have behind : ("sha256:".toList ++ words.hex).drop 7 = words.hex := List.drop_left' rfl
  have nothingBehind : ("sha256:".toList ++ words.hex).drop 71 = [] :=
    List.drop_eq_nil_of_le (by simp [length])
  have whole : words.hex.take 64 = words.hex := List.take_of_length_le (Nat.le_of_eq length)
  unfold showsDigest
  rw [behind, nothingBehind, whole, length]
  simpa [isEnd] using digits

/-! ## Parts of receipts -/

theorem location_toJson (place : Location) : location place.toJson = true := by
  simp [location, Location.toJson, Json.text, stringWith, showsLocation_text]

theorem string_str (value : String) : string (.str value) = true :=
  rfl

theorem memory_texts (values : List Text) : memory (.texts values) = true := by
  simp [memory, Json.texts, arrayOf, Json.text, string]

/-- An optional value passes as itself or as `null`. -/
theorem either_option {α : Type} {check : Check} {encode : α → Json}
    (passes : ∀ value, check (encode value) = true) (value : Option α) :
    either check null (.option encode value) = true := by
  cases value with
  | none => simp [either, Json.option, null]
  | some value => simp [either, Json.option, passes]

/-- An array passes when whatever is put into it does. -/
theorem arrayOf_map {α : Type} {check : Check} {encode : α → Json}
    (passes : ∀ value, check (encode value) = true) (values : List α) :
    arrayOf check (.arr (values.map encode)) = true := by
  simp [arrayOf, passes]

theorem step_toJson (event : Event) : exactlyOne stateEvent endedEvent event.toJson = true := by
  cases event with
  | state seen =>
      simp [exactlyOne, Event.toJson, stateEvent, endedEvent, object, List.lookup_cons,
        oneOfStrings, string, Json.text, location_toJson, memory_texts]
  | ended name =>
      simp [exactlyOne, Event.toJson, stateEvent, endedEvent, object, List.lookup_cons,
        oneOfStrings, string]

theorem thread_toJson (record : ThreadRecord) : thread record.toJson = true := by
  simp [thread, ThreadRecord.toJson, object, List.lookup_cons, string, location_toJson,
    memory_texts]

theorem click_toJson (record : ClickRecord) : click record.toJson = true := by
  have names := arrayOf_map string_str record.threads
  simp [click, ClickRecord.toJson, object, List.lookup_cons, location_toJson, names]

theorem remark_toJson (entry : Remark) : remark entry.toJson = true := by
  rcases entry with ⟨severity, event, message⟩
  cases severity <;>
    simp [remark, Remark.toJson, object, List.lookup_cons, oneOfStrings, string, Severity.name]

theorem error_toJson (record : ErrorRecord) : error record.toJson = true := by
  have threads := either_option string_str record.thread
  have places := either_option location_toJson record.location
  simp [error, ErrorRecord.toJson, object, List.lookup_cons, string, threads, places]

theorem program_programJson {receipt : Receipt} (named : showsDigest receipt.hash = true) :
    program receipt.programJson = true := by
  have entries := either_option location_toJson receipt.entryPoint
  cases pathed : receipt.path with
  | none =>
      simp [program, Receipt.programJson, pathed, object, List.lookup_cons, Json.text, stringWith,
        named, entries, count]
  | some path =>
      simp [program, Receipt.programJson, pathed, object, List.lookup_cons, Json.text, stringWith,
        named, entries, count, string]

theorem status_statusName (status : Option Status) :
    oneOfStrings ["running", "halted", "waiting", "error", "timeout", "stopped"]
      (.str (statusName status)) = true := by
  cases status with
  | none => simp [oneOfStrings, statusName]
  | some settled => cases settled <;> simp [oneOfStrings, statusName, Status.name]

end Check

/-- Every receipt of a program that is named by a digest has the form of
receipts. -/
theorem Receipt.isWellFormed_toJson {receipt : Receipt}
    (named : Check.showsDigest receipt.hash = true) : isWellFormed receipt.toJson = true := by
  have engine : Check.oneOfStrings ["volute"] (.str "volute") = true := by
    simp [Check.oneOfStrings]
  have program := Check.program_programJson named
  have status := Check.status_statusName receipt.status
  have steps := Check.arrayOf_map Check.step_toJson receipt.steps
  have threads := Check.arrayOf_map Check.thread_toJson receipt.threads
  have handlers := Check.arrayOf_map Check.location_toJson receipt.clickHandlers
  have clicks := Check.arrayOf_map Check.click_toJson receipt.clicks
  have logs := Check.arrayOf_map Check.remark_toJson receipt.remarks
  cases failed : receipt.error with
  | none =>
      simp [isWellFormed, toJson, failed, Check.object, List.lookup_cons, engine, program, status,
        steps, threads, handlers, clicks, logs, Check.count, Check.stamp, Check.string, Json.text]
  | some record =>
      have error := Check.error_toJson record
      simp [isWellFormed, toJson, failed, Check.object, List.lookup_cons, engine, program, status,
        steps, threads, handlers, clicks, logs, error, Check.count, Check.stamp, Check.string,
        Json.text]

/-! ## Receipts that are read -/

namespace Json.Plain

variable {room : Nat}

theorem texts (values : List Text) : Plain (room + 1) (.texts values) :=
  .arr (List.forall_mem_map.mpr fun _ _ => .str _)

/-- An array can be read back when whatever is put into it can. -/
theorem arr_map {α : Type} {encode : α → Json} (plain : ∀ value, Plain room (encode value))
    (values : List α) : Plain (room + 1) (.arr (values.map encode)) :=
  .arr (List.forall_mem_map.mpr fun value _ => plain value)

theorem option {α : Type} {encode : α → Json} (plain : ∀ value, Plain room (encode value))
    (value : Option α) : Plain room (.option encode value) := by
  cases value with
  | none => exact .null
  | some value => exact plain value

theorem location_toJson (location : Location) : Plain room location.toJson :=
  .str _

theorem event_toJson (event : Event) : Plain (room + 2) event.toJson := by
  cases event with
  | state seen =>
      refine .obj ?_ (by simp)
      simp [Json.text, Plain.str, location_toJson, texts]
  | ended name =>
      refine .obj ?_ (by simp)
      simp [Plain.str]

theorem thread_toJson (record : ThreadRecord) : Plain (room + 2) record.toJson := by
  refine .obj ?_ (by simp)
  simp [Plain.str, location_toJson, texts]

theorem click_toJson (record : ClickRecord) : Plain (room + 2) record.toJson := by
  refine .obj ?_ (by simp)
  simp [location_toJson, arr_map Plain.str]

theorem remark_toJson (remark : Remark) : Plain (room + 2) remark.toJson := by
  refine .obj ?_ (by simp)
  simp [Plain.str]

theorem error_toJson (record : ErrorRecord) : Plain (room + 2) record.toJson := by
  refine .obj ?_ (by simp)
  simp [Plain.str, option Plain.str, option location_toJson]

end Json.Plain

namespace Receipt

variable {receipt : Receipt}

/-- The counts of a receipt are short enough to be written. -/
def CountsFit (receipt : Receipt) : Prop :=
  Numeral.fits receipt.lines = true ∧ Numeral.fits receipt.stepCount = true

/-- Path and stamp have no part in the counts. -/
theorem CountsFit.restamped (short : receipt.CountsFit) (path : Option String) (stamp : Stamp) :
    { receipt with path := path, stamp := stamp }.CountsFit :=
  short

theorem CountsFit.plain_programJson {room : Nat} (short : receipt.CountsFit) :
    Json.Plain (room + 2) receipt.programJson := by
  have entry : Json.Plain (room + 1) (.option Location.toJson receipt.entryPoint) :=
    .option .location_toJson _
  unfold programJson
  cases receipt.path with
  | none =>
      refine .obj ?_ (by simp)
      simp [Json.text, Json.Plain.str, entry, Json.Plain.int short.1]
  | some path =>
      refine .obj ?_ (by simp)
      simp [Json.text, Json.Plain.str, entry, Json.Plain.int short.1]

theorem CountsFit.plain_toJson {room : Nat} (short : receipt.CountsFit) :
    Json.Plain (room + 4) receipt.toJson := by
  have program : Json.Plain (room + 3) receipt.programJson := short.plain_programJson
  have run : Json.Plain (room + 3) (.obj [("timestamp", .str receipt.stamp.timestamp),
      ("uuid", .str receipt.stamp.uuid)]) := .obj (by simp [Json.Plain.str]) (by simp)
  have steps : Json.Plain (room + 3) (.arr (receipt.steps.map Event.toJson)) :=
    .arr_map .event_toJson _
  have threads : Json.Plain (room + 3) (.arr (receipt.threads.map ThreadRecord.toJson)) :=
    .arr_map .thread_toJson _
  have handlers : Json.Plain (room + 3) (.arr (receipt.clickHandlers.map Location.toJson)) :=
    .arr_map .location_toJson _
  have clicks : Json.Plain (room + 3) (.arr (receipt.clicks.map ClickRecord.toJson)) :=
    .arr_map .click_toJson _
  have logs : Json.Plain (room + 3) (.arr (receipt.remarks.map Remark.toJson)) :=
    .arr_map .remark_toJson _
  unfold toJson
  cases receipt.error with
  | none =>
      refine .obj ?_ (by simp)
      simp [Json.text, Json.Plain.str, Json.Plain.int short.2, program, run, steps, threads,
        handlers, clicks, logs]
  | some record =>
      have error : Json.Plain (room + 3) record.toJson := .error_toJson record
      refine .obj ?_ (by simp)
      simp [Json.text, Json.Plain.str, Json.Plain.int short.2, program, run, steps, threads,
        handlers, clicks, logs, error]

/-- Whoever reads a receipt that has been written, with blanks behind it, finds it again. -/
theorem CountsFit.read_pretty (short : receipt.CountsFit) {gaps : Text}
    (blank : ∀ c ∈ gaps, Json.isGap c = true) :
    Json.read (receipt.toJson.pretty.toList ++ gaps) = .ok receipt.toJson.sorted :=
  have plain : Json.Plain (987 + 4) receipt.toJson := short.plain_toJson
  plain.read_pretty blank

end Receipt

end Palimpsest
