import Palimpsest.Binary.Basic
import Palimpsest.Text.Raw

/-!
# JSON values

Receipts are JSON. An object is kept as a list of its fields in the order in
which they were given, with no name twice. Numbers written without a fraction
or an exponent are exact integers; all others are binary numbers. A string that
names surrogates is no text and is kept apart from those that are.
-/

namespace Palimpsest

/-- A JSON value. -/
inductive Json
  | null
  | bool (value : Bool)
  | int (value : Int)
  | real (value : Binary)
  | str (value : String)
  /-- A string with surrogates in it. -/
  | raw (value : RawText)
  | arr (items : List Json)
  | obj (fields : List (String × Json))
  deriving Repr, Inhabited

namespace Json

/-- The value of a field of an object. -/
def field? (name : String) : Json → Option Json
  | .obj fields => fields.lookup name
  | _ => none

/-- Put a field into a list of fields: a later value replaces an earlier one in
its place. -/
def putField (name : String) (value : Json) : List (String × Json) → List (String × Json)
  | [] => [(name, value)]
  | field :: rest =>
    if field.1 = name then (name, value) :: rest else field :: putField name value rest

/-- A text as a JSON string. -/
def text (value : Text) : Json :=
  .str (String.ofList value)

/-- A raw text as a JSON string. -/
def ofRaw (value : RawText) : Json :=
  match value.toText with
  | .ok text => .text text
  | .error _ => .raw value

/-- A list of texts as a JSON array. -/
def texts (values : List Text) : Json :=
  .arr (values.map text)

/-- An optional value, with `null` for nothing. -/
def option {α : Type} (encode : α → Json) : Option α → Json
  | none => .null
  | some value => encode value

end Json

end Palimpsest
