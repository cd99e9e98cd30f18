import Palimpsest.Json.Basic
import Palimpsest.Text.Quoted

/-!
# Reading JSON

The reader takes a whole text that holds one value, with blanks allowed around
every token. A field that is given twice keeps its last value. When a text is
refused, the complaint says what was expected and where, or which limit was
passed: integers have a limited number of digits, and values are nested only so
deep. Every token takes at least one character, so the length of the text bounds
the reading.
-/

namespace Palimpsest.Json

/-- How deep arrays and objects may be nested. -/
def deepest : Nat := 991

/-- Why a text is refused. -/
inductive Complaint
  /-- Something else was expected at a place; `left` characters were left there. -/
  | expected (what : String) (left : Nat)
  /-- An integer has too many digits. -/
  | overlong (digits : Nat)
  /-- An array is nested too deep. -/
  | deepArray
  /-- An object is nested too deep. -/
  | deepObject
  deriving DecidableEq, Repr

/-- The result of reading the start of a text: a value and the rest. -/
abbrev Reading (α : Type) := Except Complaint (α × Text)

/-- Whether a character is a blank between tokens. -/
def isGap (c : Char) : Bool :=
  c.toNat == 32 || c.toNat == 9 || c.toNat == 10 || c.toNat == 13

/-- The text after any blanks. -/
def skipGaps (source : Text) : Text :=
  source.dropWhile isGap

/-- The value of a hexadecimal digit. -/
def hexValue? (c : Char) : Option Nat :=
  let n := c.toNat
  if 48 ≤ n ∧ n ≤ 57 then some (n - 48)
  else if 97 ≤ n ∧ n ≤ 102 then some (n - 87)
  else if 65 ≤ n ∧ n ≤ 70 then some (n - 55)
  else none

/-- The number that four hexadecimal digits spell. -/
def hexUnit? (a b c d : Char) : Option Nat :=
  match hexValue? a, hexValue? b, hexValue? c, hexValue? d with
  | some p, some q, some r, some s => some (((p * 16 + q) * 16 + r) * 16 + s)
  | _, _, _, _ => none

/-- The character that a one-letter escape stands for. -/
def escape? (c : Char) : Option Nat :=
  if c = Text.doubleQuote ∨ c = Text.backslash ∨ c = '/' then some c.toNat
  else if c = 'b' then some 8
  else if c = 't' then some 9
  else if c = 'n' then some 10
  else if c = 'f' then some 12
  else if c = 'r' then some 13
  else none

/-- Read the rest of a string, up to its closing quote, as numbers: code points
for characters that stand for themselves, sixteen-bit units for escapes. An
escape of a unit cannot be the last thing in a text. -/
def stringUnits (opened : Nat) : Text → Reading (List Nat)
  | [] => .error (.expected "Unterminated string starting at" opened)
  | c :: rest =>
    if c = Text.doubleQuote then .ok ([], rest)
    else if c = Text.backslash then
      match rest with
      | [] => .error (.expected "Unterminated string starting at" opened)
      | 'u' :: p :: q :: r :: s :: after =>
        match hexUnit? p q r s with
        | none => .error (.expected "Invalid \\uXXXX escape" rest.length)
        | some unit =>
          if after.isEmpty then .error (.expected "Invalid \\uXXXX escape" rest.length)
          else
            match stringUnits opened after with
            | .ok (units, last) => .ok (unit :: units, last)
            | .error complaint => .error complaint
      | e :: after =>
        if e = 'u' then .error (.expected "Invalid \\uXXXX escape" rest.length)
        else
          match escape? e with
          | none => .error (.expected "Invalid \\escape" (rest.length + 1))
          | some unit =>
            match stringUnits opened after with
            | .ok (units, last) => .ok (unit :: units, last)
            | .error complaint => .error complaint
    else if c.toNat < 32 then .error (.expected "Invalid control character at" (rest.length + 1))
    else
      match stringUnits opened rest with
      | .ok (units, last) => .ok (c.toNat :: units, last)
      | .error complaint => .error complaint

/-- The code point that a number stands for by itself. -/
def ofUnit (unit : Nat) : CodePoint :=
  if unit / 0x800 = 0x1b then .surrogate (Fin.ofNat 0x800 unit) else .scalar (Char.ofNat unit)

/-- The code points that numbers stand for. Two units of a surrogate pair make
one character; a unit without its partner stays a surrogate. -/
def ofUnits : List Nat → RawText
  | [] => []
  | [unit] => [ofUnit unit]
  | high :: low :: rest =>
    if high / 0x400 = 0x36 ∧ low / 0x400 = 0x37 then
      .scalar (Char.ofNat (0x10000 + (high - 0xd800) * 0x400 + (low - 0xdc00))) :: ofUnits rest
    else ofUnit high :: ofUnits (low :: rest)

/-- Read the rest of a string behind its opening quote. -/
def readString (source : Text) : Reading RawText :=
  match stringUnits (source.length + 1) source with
  | .ok (units, rest) => .ok (ofUnits units, rest)
  | .error complaint => .error complaint

/-- The exponent that a text begins with, when it has one. -/
def readExponent (source : Text) : Int × Text :=
  match source with
  | c :: rest =>
    if c = 'e' ∨ c = 'E' then
      let signed := Numeral.splitSign rest
      let digits := signed.2.takeWhile Char.isDigit
      if digits.isEmpty then (0, source)
      else (Numeral.signed signed.1 (Nat.ofDigitChars 10 digits 0), signed.2.drop digits.length)
    else (0, source)
  | [] => (0, source)

/-- The digits of the fraction that a text begins with, when it has one. -/
def readFraction (source : Text) : Text × Text :=
  match source with
  | '.' :: rest =>
    let digits := rest.takeWhile Char.isDigit
    if digits.isEmpty then ([], source) else (digits, rest.drop digits.length)
  | _ => ([], source)

/-- The digits before the point that a text begins with. A zero takes no further
digits. -/
def wholeDigits : Text → Text
  | '0' :: _ => ['0']
  | source => source.takeWhile Char.isDigit

/-- The number that a text begins with. -/
def readNumber (source : Text) : Reading Json :=
  let negative := source.head? == some '-'
  let unsigned := if negative then source.drop 1 else source
  let whole := wholeDigits unsigned
  if whole.isEmpty then .error (.expected "Expecting value" source.length)
  else
    let afterWhole := unsigned.drop whole.length
    let fraction := readFraction afterWhole
    let exponent := readExponent fraction.2
    if fraction.1.isEmpty && exponent.2.length == afterWhole.length then
      if Numeral.digitLimit < whole.length then .error (.overlong whole.length)
      else .ok (.int (Numeral.signed negative (Nat.ofDigitChars 10 whole 0)), afterWhole)
    else
      let mantissa := Nat.ofDigitChars 10 (whole ++ fraction.1) 0
      .ok (.real (.ofDecimal negative mantissa (exponent.1 - fraction.1.length)), exponent.2)

/-- The words that stand for a value. -/
def constants : List (Text × Json) :=
  [("null".toList, .null), ("true".toList, .bool true), ("false".toList, .bool false),
   ("NaN".toList, .real .undefined), ("Infinity".toList, .real (.infinite false)),
   ("-Infinity".toList, .real (.infinite true))]

/-- The constant or number that a text begins with. -/
def readScalar (source : Text) : Reading Json :=
  match constants.find? fun constant => constant.1.isPrefixOf source with
  | some (word, value) => .ok (value, source.drop word.length)
  | none => readNumber source

mutual

/-- Read a value; `room` is how deep it may still be nested. -/
def readValue : (bound room : Nat) → Text → Reading Json
  | 0, _, source => .error (.expected "Expecting value" source.length)
  | bound + 1, room, source =>
    match source with
    | [] => .error (.expected "Expecting value" 0)
    | c :: rest =>
      if c = Text.doubleQuote then
        match readString rest with
        | .ok (value, after) => .ok (.ofRaw value, after)
        | .error complaint => .error complaint
      else if c = '[' then
        if room = 0 then .error .deepArray
        else
          match skipGaps rest with
          | ']' :: after => .ok (.arr [], after)
          | start =>
            match readItems bound (room - 1) start with
            | .ok (items, after) => .ok (.arr items, after)
            | .error complaint => .error complaint
      else if c.toNat = 0x7b then
        if room = 0 then .error .deepObject
        else
          match readFields bound (room - 1) true [] (skipGaps rest) with
          | .ok (fields, after) => .ok (.obj fields, after)
          | .error complaint => .error complaint
      else readScalar source

/-- Read the items of an array up to its closing bracket. -/
def readItems : (bound room : Nat) → Text → Reading (List Json)
  | 0, _, source => .error (.expected "Expecting value" source.length)
  | bound + 1, room, source =>
    match readValue bound room source with
    | .error complaint => .error complaint
    | .ok (item, rest) =>
      match skipGaps rest with
      | ']' :: after => .ok ([item], after)
      | ',' :: after =>
        match readItems bound room (skipGaps after) with
        | .ok (items, last) => .ok (item :: items, last)
        | .error complaint => .error complaint
      | other => .error (.expected "Expecting ',' delimiter" other.length)

/-- Read the fields of an object up to its closing brace. Only at the first
field may the object end instead. A surrogate in a name is replaced. -/
def readFields : (bound room : Nat) → (first : Bool) → List (String × Json) → Text →
    Reading (List (String × Json))
  | 0, _, _, _, source => .error (.expected "Expecting value" source.length)
  | bound + 1, room, first, fields, source =>
    match source with
    | [] => .error (.expected "Expecting property name enclosed in double quotes" 0)
    | c :: rest =>
      if first && c.toNat == 0x7d then .ok (fields, rest)
      else if c = Text.doubleQuote then
        match readString rest with
        | .error complaint => .error complaint
        | .ok (spelled, afterName) =>
          let name := String.ofList spelled.replaced
          match skipGaps afterName with
          | ':' :: afterColon =>
            match readValue bound room (skipGaps afterColon) with
            | .error complaint => .error complaint
            | .ok (value, afterValue) =>
              match skipGaps afterValue with
              | [] => .error (.expected "Expecting ',' delimiter" 0)
              | d :: after =>
                if d.toNat = 0x7d then .ok (putField name value fields, after)
                else if d = ',' then
                  readFields bound room false (putField name value fields) (skipGaps after)
                else .error (.expected "Expecting ',' delimiter" (after.length + 1))
          | other => .error (.expected "Expecting ':' delimiter" other.length)
      else .error (.expected "Expecting property name enclosed in double quotes" source.length)

end

/-- The value that a whole text holds. A byte order mark before it is refused. -/
def read (source : Text) : Except Complaint Json :=
  if source.head? = some (Char.ofNat 0xfeff) then
    .error (.expected "Unexpected UTF-8 BOM (decode using utf-8-sig)" source.length)
  else
    match readValue (2 * source.length + 1) deepest (skipGaps source) with
    | .error complaint => .error complaint
    | .ok (value, rest) =>
      match skipGaps rest with
      | [] => .ok value
      | extra => .error (.expected "Extra data" extra.length)

/-- A place in a text by line, column and number of characters before it, for a
place with so many characters left. -/
def placeText (source : Text) (left : Nat) : String :=
  let before := source.take (source.length - left)
  let line := before.count Text.lineFeed + 1
  let column := (before.reverse.takeWhile (· != Text.lineFeed)).length + 1
  "line " ++ toString line ++ " column " ++ toString column ++ " (char " ++
    toString before.length ++ ")"

end Palimpsest.Json
