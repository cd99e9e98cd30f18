import Palimpsest.Binary.Printer
import Palimpsest.Json.Basic
import Palimpsest.Text.Quoted

/-!
# Writing JSON

Two layouts. `compact` writes a value on one line, with a blank after commas
and colons. `pretty` writes one item a line, indented by two blanks a level,
with the fields of every object sorted by name. Only the double quote, the
backslash and control characters are escaped; all other characters are written
as they are. A surrogate, which is none, is always escaped.
-/

namespace Palimpsest.Json

/-- A character inside a JSON string. -/
def escapedChar (c : Char) : Text :=
  let n := c.toNat
  if c = Text.doubleQuote ∨ c = Text.backslash then [Text.backslash, c]
  else if n = 8 then [Text.backslash, 'b']
  else if n = 9 then [Text.backslash, 't']
  else if n = 10 then [Text.backslash, 'n']
  else if n = 12 then [Text.backslash, 'f']
  else if n = 13 then [Text.backslash, 'r']
  else if n < 32 then Text.backslash :: 'u' :: Text.hexDigits 4 n
  else [c]

/-- A string between double quotes. -/
def quotedString (value : String) : String :=
  String.ofList (Text.doubleQuote :: (value.toList.flatMap escapedChar ++ [Text.doubleQuote]))

/-- A code point inside a JSON string. -/
def escapedCode : CodePoint → Text
  | .scalar character => escapedChar character
  | .surrogate index => CodePoint.escapedSurrogate index

/-- A raw text between double quotes. -/
def quotedRaw (value : RawText) : String :=
  String.ofList (Text.doubleQuote :: (value.flatMap escapedCode ++ [Text.doubleQuote]))

/-- The words of JSON for numbers that are not finite. -/
def numberWording : Binary.Wording :=
  ⟨"Infinity", "NaN"⟩

/-- A value that has no parts. Arrays and objects are written elsewhere. -/
def scalarText : Json → String
  | .null => "null"
  | .bool true => "true"
  | .bool false => "false"
  | .int value => String.ofList (Numeral.text value)
  | .real value => value.text numberWording
  | .str value => quotedString value
  | .raw value => quotedRaw value
  | .arr _ => "[]"
  | .obj _ => "\x7b\x7d"

mutual

/-- A value on one line. -/
def compact : Json → String
  | .arr items => "[" ++ compactItems items ++ "]"
  | .obj fields => "\x7b" ++ compactFields fields ++ "\x7d"
  | scalar => scalarText scalar

/-- The items of an array on one line. -/
def compactItems : List Json → String
  | [] => ""
  | [item] => compact item
  | item :: rest => compact item ++ ", " ++ compactItems rest

/-- The fields of an object on one line. -/
def compactFields : List (String × Json) → String
  | [] => ""
  | [(name, value)] => quotedString name ++ ": " ++ compact value
  | (name, value) :: rest =>
    quotedString name ++ ": " ++ compact value ++ ", " ++ compactFields rest

end

/-- A new line, indented to the given level. -/
def newLine (level : Nat) : String :=
  "\n" ++ String.ofList (List.replicate (2 * level) ' ')

/-- Put a field where its name belongs among sorted ones. -/
def insertByName {α : Type} (entry : String × α) : List (String × α) → List (String × α)
  | [] => [entry]
  | head :: rest =>
    if head.1 < entry.1 then head :: insertByName entry rest else entry :: head :: rest

/-- Fields sorted by name. -/
def sortByName {α : Type} (fields : List (String × α)) : List (String × α) :=
  fields.foldr insertByName []

mutual

/-- A value over several lines; `level` is the indentation of the line on which
it starts. -/
def prettyAt (level : Nat) : Json → String
  | .arr [] => "[]"
  | .arr items =>
    "[" ++ ",".intercalate (prettyItems (level + 1) items) ++ newLine level ++ "]"
  | .obj [] => "\x7b\x7d"
  | .obj fields =>
    let lines := (sortByName (prettyFields (level + 1) fields)).map fun entry =>
      newLine (level + 1) ++ quotedString entry.1 ++ ": " ++ entry.2
    "\x7b" ++ ",".intercalate lines ++ newLine level ++ "\x7d"
  | scalar => scalarText scalar

/-- The items of an array, each on a line of its own. -/
def prettyItems (level : Nat) : List Json → List String
  | [] => []
  | item :: rest => (newLine level ++ prettyAt level item) :: prettyItems level rest

/-- The names of the fields of an object with their written values. -/
def prettyFields (level : Nat) : List (String × Json) → List (String × String)
  | [] => []
  | (name, value) :: rest => (name, prettyAt level value) :: prettyFields level rest

end

/-- A value over several lines, with sorted fields. -/
def pretty (value : Json) : String :=
  prettyAt 0 value

end Palimpsest.Json
