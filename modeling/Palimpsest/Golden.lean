import Palimpsest.CommandLine.Run
import Palimpsest.Json.Parser

/-!
# Golden results

A golden result is a JSON file beside a program that says which clicks to
replay and which status and text they must lead to. A check runs the program
and reports on one line whether it still does; the code of a check is zero when
it does. All programs of a directory can be checked in one go.
-/

namespace Palimpsest.Golden

open CommandLine (Mishap)

/-- What a check comes to: its code, unless a mishap is left to the caller, and
what is printed. -/
structure Verdict where
  code : Except Mishap Nat
  stdout : String

/-- The words of messages for numbers that are not finite. -/
def numberWording : Binary.Wording :=
  ⟨"inf", "nan"⟩

mutual

/-- A JSON value as messages show it. -/
def shown : Json → String
  | .null => "None"
  | .bool true => "True"
  | .bool false => "False"
  | .str value => CommandLine.quote value
  | .raw value => String.ofList value.quoted
  | .arr items => "[" ++ ", ".intercalate (shownItems items) ++ "]"
  | .obj fields => "\x7b" ++ ", ".intercalate (shownFields fields) ++ "\x7d"
  | .real value => value.text numberWording
  | .int value => String.ofList (Numeral.text value)

/-- The items of an array as messages show them. -/
def shownItems : List Json → List String
  | [] => []
  | item :: rest => shown item :: shownItems rest

/-- The fields of an object as messages show them. -/
def shownFields : List (String × Json) → List String
  | [] => []
  | (name, value) :: rest => (CommandLine.quote name ++ ": " ++ shown value) :: shownFields rest

end

/-- Whether a value counts as no value. -/
def isNothing : Json → Bool
  | .null => true
  | .bool value => !value
  | .int value => value == 0
  | .real value => value.isZero
  | .str value => value.isEmpty
  | .raw value => value.isEmpty
  | .arr items => items.isEmpty
  | .obj fields => fields.isEmpty

/-- The location of a click. Only a string without surrogates can show one. -/
def clickLocation : Json → Except Failure Location
  | .str value => Location.decode value.toList
  | other =>
    .error (.ofCause (.stated .location ("not an encoded location: " ++ shown other)))

/-- The name of the kind of a value in messages. -/
def kindName : Json → String
  | .null => "NoneType"
  | .bool _ => "bool"
  | .int _ => "int"
  | .real _ => "float"
  | .str _ => "str"
  | .raw _ => "str"
  | .arr _ => "list"
  | .obj _ => "dict"

/-- The clicks that a value asks for: the items of an array, the names of an
object, or the letters of a string. Other values have no clicks in them, unless
they count as no value. -/
def clicksIn (value : Json) : Except Mishap (List Json) :=
  if isNothing value then .ok []
  else
    match value with
    | .arr items => .ok items
    | .obj fields => .ok (fields.map fun field => .str field.1)
    | .str text => .ok (text.toList.map fun c => .str (String.ofList [c]))
    | .raw text => .ok (text.map fun code => .ofRaw [code])
    | other => .error ⟨"TypeError", "'" ++ kindName other ++ "' object is not iterable"⟩

/-- Read the clicks as locations, up to the first that is none. -/
def locationsOf : List Json → Except Failure (List Location)
  | [] => .ok []
  | click :: rest =>
    match clickLocation click with
    | .error failure => .error failure
    | .ok location =>
      match locationsOf rest with
      | .error failure => .error failure
      | .ok others => .ok (location :: others)

/-- The text of a file, with its line ends folded. -/
def readText (workspace : Workspace) (path : String) : Except Mishap Text :=
  match workspace.read path with
  | .error error => .error (.ofFileError error path)
  | .ok bytes =>
    match Utf8.decode bytes with
    | .error error => .error ⟨"UnicodeDecodeError", error.message⟩
    | .ok text => .ok (Text.foldLineEnds text)

/-- The mishap of a text that is refused as JSON. -/
def refusal (text : Text) : Json.Complaint → Mishap
  | .expected what left => ⟨"JSONDecodeError", what ++ ": " ++ Json.placeText text left⟩
  | .overlong digits => .ofFailure (.overlongNumeral digits)
  | .deepArray =>
    ⟨"RecursionError",
      "maximum recursion depth exceeded while decoding a JSON array from a unicode string"⟩
  | .deepObject =>
    ⟨"RecursionError",
      "maximum recursion depth exceeded while decoding a JSON object from a unicode string"⟩

/-- The golden result in a file, which must be an object. -/
def readGolden (workspace : Workspace) (path : String) : Except Mishap Json :=
  match readText workspace path with
  | .error mishap => .error mishap
  | .ok text =>
    match Json.read text with
    | .error complaint => .error (refusal text complaint)
    | .ok (.obj fields) => .ok (.obj fields)
    | .ok other =>
      .error ⟨"AttributeError", "'" ++ kindName other ++ "' object has no attribute 'get'"⟩

/-- The locations of the clicks that a value asks for. -/
def locationsIn (value : Json) : Except Mishap (List Location) :=
  match clicksIn value with
  | .error mishap => .error mishap
  | .ok clicks =>
    match locationsOf clicks with
    | .error failure => .error (.ofFailure failure)
    | .ok locations => .ok locations

/-- Run a program with the clicks that a value asks for. -/
def runProgram (workspace : Workspace) (stamp : Stamp) (path : String) (clicks : Json) :
    Except Mishap (Text × Receipt) :=
  match readText workspace path with
  | .error mishap => .error mishap
  | .ok text =>
    match locationsIn clicks with
    | .error mishap => .error mishap
    | .ok locations =>
      match Session.runText text locations .default (some path) stamp with
      | .error failure => .error (.ofFailure failure)
      | .ok result => .ok result

/-- Compare a run with a golden result. -/
def compare (name : String) (golden : Json) (text : Text) (receipt : Receipt) : Nat × String :=
  let status := statusName receipt.status
  let goldenStatus := (golden.field? "status").getD .null
  let goldenText := (golden.field? "text").getD .null
  let isStatus := match goldenStatus with
    | .str value => value == status
    | _ => false
  let isText := match goldenText with
    | .str value => value.toList == text
    | _ => false
  if !isStatus then
    let error := match receipt.error with
      | some record => "       error: " ++ record.message ++ "\n"
      | none => ""
    (2, "[FAIL] " ++ name ++ ": status " ++ CommandLine.quote status ++ ", golden says " ++
      shown goldenStatus ++ ".\n" ++ error)
  else if !isText then
    (3, "[FAIL] " ++ name ++ ": final text differs from golden.\n" ++
      "       expected: " ++ goldenText.compact ++ "\n" ++
      "       actual:   " ++ (Json.text text).compact ++ "\n")
  else
    (0, "[OK] " ++ name ++ " matches golden (" ++ toString receipt.stepCount ++ " steps).\n")

/-- Whether a file is there, be it readable or not. -/
def isThere (workspace : Workspace) (path : String) : Bool :=
  match workspace.read path with
  | .ok _ => true
  | .error error => !error.isAbsence

/-- Check the program at a path. -/
def check (workspace : Workspace) (stamp : Stamp) (program : String) : Verdict :=
  let path := Path.normalize program
  let goldenPath := path ++ ".json"
  if isThere workspace goldenPath then
    match readGolden workspace goldenPath with
    | .error mishap => ⟨.error mishap, ""⟩
    | .ok golden =>
      match runProgram workspace stamp path ((golden.field? "clicks").getD .null) with
      | .error mishap => ⟨.error mishap, ""⟩
      | .ok (text, receipt) =>
        let result := compare (Path.name path) golden text receipt
        ⟨.ok result.1, result.2⟩
  else
    ⟨.ok 1, "[ERROR] Missing golden: " ++ goldenPath ++
      ". Export via: python -m volute " ++ path ++ " --result-only\n"⟩

/-- Check programs one after the other, up to the first mishap. The code is
zero when all codes are. -/
def checkEach (workspace : Workspace) (stamp : Stamp) : List String → Verdict
  | [] => ⟨.ok 0, ""⟩
  | program :: rest =>
    let first := check workspace stamp program
    match first.code with
    | .error _ => first
    | .ok code =>
      let others := checkEach workspace stamp rest
      match others.code with
      | .error mishap => ⟨.error mishap, first.stdout ++ others.stdout⟩
      | .ok otherCode => ⟨.ok (max code otherCode), first.stdout ++ others.stdout⟩

/-- The directory that programs are kept in. -/
def programsName : String := "programs"

/-- How the names of programs end. -/
def programEnding : String := ".volute"

/-- The names of the programs among the entries of the directory, sorted. -/
def programsAmong (entries : List String) : List String :=
  let programs := entries.filter fun entry => programEnding.toList.isSuffixOf entry.toList
  programs.mergeSort fun first second => decide (first ≤ second)

/-- Check all programs of the directory, given its entries if it exists. -/
def checkAll (workspace : Workspace) (stamp : Stamp) : (entries : Option (List String)) → Verdict
  | none => ⟨.ok 1, "[ERROR] " ++ programsName ++ "/ not found.\n"⟩
  | some entries =>
    let paths := (programsAmong entries).map fun entry => programsName ++ "/" ++ entry
    let verdict := checkEach workspace stamp paths
    match verdict.code with
    | .ok code => ⟨.ok (if code = 0 then 0 else 1), verdict.stdout⟩
    | .error _ => verdict

/-- The entries of the programs directory in a list of files, each once, if
anything of that name exists. A file has no entries. -/
def entriesOf (files : List String) : Option (List String) :=
  let within := files.filterMap fun file =>
    match Path.parts file with
    | [] => none
    | directory :: rest => if directory = programsName then some rest.head? else none
  if within.isEmpty then none else some (within.filterMap id).eraseDups

end Palimpsest.Golden
