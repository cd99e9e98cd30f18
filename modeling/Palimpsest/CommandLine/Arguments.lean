import Palimpsest.Location.Code
import Palimpsest.Session.Basic

/-!
# Arguments

The command line takes one program and options in any order. An option may be
cut short as long as only one option begins that way, and its value may follow
it as the next word or behind an equals sign. Every word is given its role
before anything is read, so a word that could mean several options is refused
first. After a lone double dash every word is plain; a double dash behind an
equals sign is dropped, which leaves the option without a value. The rules and
the wording of refusals are those of argparse as of version 3.11, the dropped
double dash among them.
-/

namespace Palimpsest.CommandLine

/-- The options. -/
inductive Flag
  | help
  | click
  | maxSteps
  | immediate
  | trace
  | noSteps
  | printReceipt
  | receiptOut
  | resultOnly
  | logLevel
  deriving DecidableEq, Repr

namespace Flag

/-- Whether an option takes a value. -/
def takesValue : Flag → Bool
  | .click => true
  | .maxSteps => true
  | .receiptOut => true
  | .logLevel => true
  | _ => false

/-- Every spelling of every option. -/
def spellings : List (String × Flag) :=
  [("-h", .help), ("--help", .help), ("--click", .click), ("--max-steps", .maxSteps),
   ("--immediate", .immediate), ("--trace", .trace), ("--no-steps", .noSteps),
   ("--print-receipt", .printReceipt), ("--receipt-out", .receiptOut),
   ("--result-only", .resultOnly), ("--log-level", .logLevel)]

/-- The name of an option in complaints: its spellings with a slash between
them. -/
def name (flag : Flag) : String :=
  "/".intercalate ((spellings.filter fun entry => entry.2 = flag).map Prod.fst)

end Flag

/-- Why arguments are refused. -/
inductive UsageError
  /-- A word could be short for several options. -/
  | ambiguous (word : String) (candidates : List String)
  /-- An option stands without its value. -/
  | expectedValue (flag : Flag)
  /-- An option that takes no value was given one. -/
  | ignoredValue (flag : Flag) (value : String)
  /-- A budget is no integer. -/
  | invalidBudget (value : String)
  /-- A click shows no location. -/
  | unreadableClick (value : String)
  /-- A click lies before the first row or column. -/
  | negativeClick (value : String)
  /-- No program was named. -/
  | missingProgram
  /-- Words were left over. -/
  | unrecognized (words : List String)
  /-- There is no file of the program's name. -/
  | programNotFound (path : String)
  deriving DecidableEq, Repr

/-- A string in quotes, as complaints show it. -/
def quote (value : String) : String :=
  String.ofList (Text.quoted value.toList)

namespace UsageError

/-- The wording of a complaint about a click, whoever makes it. -/
def clickMessage : UsageError → Option String
  | .unreadableClick value => some ("--click expects ROW:COL (1-indexed), got " ++ quote value)
  | .negativeClick value => some ("--click expects positive ROW:COL, got " ++ quote value)
  | _ => none

/-- The wording of a refusal. -/
def message : UsageError → String
  | .ambiguous word candidates =>
    "ambiguous option: " ++ word ++ " could match " ++ ", ".intercalate candidates
  | .expectedValue flag => "argument " ++ flag.name ++ ": expected one argument"
  | .ignoredValue flag value =>
    "argument " ++ flag.name ++ ": ignored explicit argument " ++ quote value
  | .invalidBudget value =>
    "argument " ++ Flag.maxSteps.name ++ ": invalid int value: " ++ quote value
  | .missingProgram => "the following arguments are required: program"
  | .unrecognized words => "unrecognized arguments: " ++ " ".intercalate words
  | .programNotFound path => "program not found: " ++ path
  | click => "argument " ++ Flag.click.name ++ ": " ++ (clickMessage click).getD ""

end UsageError

/-- What the arguments ask for. A click, the budget and the log level are missing
where their value was dropped. -/
structure Settings where
  program : Option String
  clicks : List (Option Location)
  maxSteps : Option Int
  immediate : Bool
  trace : Bool
  noSteps : Bool
  printReceipt : Bool
  receiptOut : Option String
  resultOnly : Bool
  logLevel : Option String
  deriving DecidableEq, Repr

/-- What holds when nothing is asked for. -/
def Settings.default : Settings where
  program := none
  clicks := []
  maxSteps := some Options.defaultMaxSteps
  immediate := false
  trace := false
  noSteps := false
  printReceipt := false
  receiptOut := none
  resultOnly := false
  logLevel := some "WARNING"

/-- The role of a word. -/
inductive Role
  /-- A value or the program. -/
  | plain
  /-- The lone double dash. -/
  | separator
  /-- An option, with the value behind its equals sign. -/
  | option (flag : Flag) (spelling : String) (value : Option String)
  /-- It looks like an option and is none. -/
  | unknown
  deriving DecidableEq, Repr

/-- A word with its role. -/
structure Argument where
  word : String
  role : Role
  deriving DecidableEq, Repr

/-! ## Roles -/

/-- A word cut at its first equals sign. -/
def splitAtEquals (word : String) : String × Option String :=
  let letters := word.toList
  match letters.dropWhile (· != '=') with
  | [] => (word, none)
  | _ :: value => (String.ofList (letters.takeWhile (· != '=')), some (String.ofList value))

/-- The options that a word may stand for, with its value in each reading. A
word with two dashes is cut at its equals sign; a word with one dash may also
be a short option with its value attached. -/
def readings (word : String) : List Role :=
  match word.toList with
  | '-' :: '-' :: _ =>
    let cut := splitAtEquals word
    (Flag.spellings.filter fun entry => cut.1.toList.isPrefixOf entry.1.toList).map fun entry =>
      .option entry.2 entry.1 cut.2
  | '-' :: short :: attached =>
    Flag.spellings.filterMap fun entry =>
      if entry.1.toList = ['-', short] then
        some (.option entry.2 entry.1 (some (String.ofList attached)))
      else if word.toList.isPrefixOf entry.1.toList then some (.option entry.2 entry.1 none)
      else none
  | _ => []

/-- The spelling that a reading stands for. -/
def Role.spelling : Role → String
  | .option _ spelling _ => spelling
  | _ => ""

/-- A text without the line feed at its end. -/
def dropFinalLineFeed (text : Text) : Text :=
  if text.getLast? = some Text.lineFeed then text.dropLast else text

/-- Whether a word is a negative number: a minus sign and digits, with at most
one point that digits follow. A line feed at the end does no harm. -/
def isNegativeNumber (word : String) : Bool :=
  match dropFinalLineFeed word.toList with
  | '-' :: digits =>
    let whole := digits.takeWhile Text.isDecimal
    match digits.dropWhile Text.isDecimal with
    | [] => !whole.isEmpty
    | '.' :: fraction => !fraction.isEmpty && fraction.all Text.isDecimal
    | _ => false
  | _ => false

/-- The role of a word by itself. -/
def roleOf (word : String) : Except UsageError Role :=
  match word.toList with
  | '-' :: rest =>
    match Flag.spellings.lookup word with
    | some flag => .ok (.option flag word none)
    | none =>
      if rest.isEmpty then .ok .plain
      else
        let cut := splitAtEquals word
        match cut.2, Flag.spellings.lookup cut.1 with
        | some value, some flag => .ok (.option flag cut.1 (some value))
        | _, _ =>
          match readings word with
          | [reading] => .ok reading
          | [] =>
            if isNegativeNumber word || word.toList.contains ' ' then .ok .plain
            else .ok .unknown
          | several => .error (.ambiguous word (several.map Role.spelling))
  | _ => .ok .plain

/-- Give every word its role. -/
def assignRoles : List String → Except UsageError (List Argument)
  | [] => .ok []
  | word :: rest =>
    if word = "--" then .ok (⟨word, .separator⟩ :: rest.map fun plain => ⟨plain, .plain⟩)
    else
      match roleOf word, assignRoles rest with
      | .error error, _ => .error error
      | .ok _, .error error => .error error
      | .ok role, .ok others => .ok (⟨word, role⟩ :: others)

/-! ## Values -/

/-- The location that a click on the command line shows. It must lie in the
first row and column or after them. -/
def parseClick (value : String) : Except UsageError Location :=
  match Location.read? value.toList with
  | none => .error (.unreadableClick value)
  | some location =>
    if location.row < 0 ∨ location.col < 0 then .error (.negativeClick value) else .ok location

/-- Carry out an option that takes a value. -/
def applyValue (settings : Settings) (flag : Flag) (value : String) :
    Except UsageError Settings :=
  match flag with
  | .click =>
    match parseClick value with
    | .ok location => .ok { settings with clicks := settings.clicks ++ [some location] }
    | .error error => .error error
  | .maxSteps =>
    match Numeral.read? value.toList with
    | some budget => .ok { settings with maxSteps := some budget }
    | none => .error (.invalidBudget value)
  | .receiptOut => .ok { settings with receiptOut := some value }
  | .logLevel => .ok { settings with logLevel := some value }
  | _ => .ok settings

/-- Carry out an option whose value was dropped. -/
def applyDropped (settings : Settings) : Flag → Settings
  | .click => { settings with clicks := settings.clicks ++ [none] }
  | .maxSteps => { settings with maxSteps := none }
  | .receiptOut => { settings with receiptOut := none }
  | .logLevel => { settings with logLevel := none }
  | _ => settings

/-- Carry out an option with the value behind its equals sign. -/
def applyExplicit (settings : Settings) (flag : Flag) (value : String) :
    Except UsageError Settings :=
  if value = "--" then .ok (applyDropped settings flag) else applyValue settings flag value

/-- Carry out an option that takes none. -/
def applyPlain (settings : Settings) : Flag → Settings
  | .immediate => { settings with immediate := true }
  | .trace => { settings with trace := true }
  | .noSteps => { settings with noSteps := true }
  | .printReceipt => { settings with printReceipt := true }
  | .resultOnly => { settings with resultOnly := true }
  | _ => settings

/-! ## Reading -/

/-- What reading the arguments comes to. -/
inductive Request
  /-- Run a program. -/
  | run (settings : Settings)
  /-- Say how the command line is used. -/
  | help
  deriving DecidableEq, Repr

/-- What a short option with a value attached comes to when it takes none: the
attached letters are short options themselves. -/
def attachedHelp : (value : Text) → Except UsageError Unit
  | [] => .ok ()
  | 'h' :: rest => attachedHelp rest
  | other => .error (.ignoredValue .help (String.ofList other))

/-- What to make of an option that takes no value but was given one. Only a
short option can be followed by letters. -/
def refuseValue (flag : Flag) (spelling value : String) : Except UsageError Unit :=
  if spelling = "-h" ∧ value ≠ "" then attachedHelp value.toList
  else .error (.ignoredValue flag value)

/-- What the word before leaves open. -/
inductive Pending
  | nothing
  /-- An option waits for its value. -/
  | value (flag : Flag)
  /-- A separator right behind the program would mean nothing. -/
  | separator
  deriving DecidableEq, Repr

/-- Read arguments in order, collecting settings and words that are left over.
There is no result when help is asked for. -/
def readArguments (settings : Settings) (extras : List String) (pending : Pending) :
    List Argument → Except UsageError (Option (Settings × List String))
  | [] =>
    match pending with
    | .value flag => .error (.expectedValue flag)
    | _ => .ok (some (settings, extras))
  | argument :: rest =>
    match pending, argument.role with
    | .value flag, .plain =>
      match applyValue settings flag argument.word with
      | .ok applied => readArguments applied extras .nothing rest
      | .error error => .error error
    | .value flag, _ => .error (.expectedValue flag)
    | .separator, .separator => readArguments settings extras .nothing rest
    | _, .unknown => readArguments settings (extras ++ [argument.word]) .nothing rest
    | _, .plain =>
      if settings.program.isSome then
        readArguments settings (extras ++ [argument.word]) .nothing rest
      else readArguments { settings with program := some argument.word } extras .separator rest
    | _, .separator =>
      if settings.program.isSome || rest.isEmpty then
        readArguments settings (extras ++ [argument.word]) .nothing rest
      else readArguments settings extras .nothing rest
    | _, .option flag spelling explicit =>
      match explicit with
      | some value =>
        if flag.takesValue then
          match applyExplicit settings flag value with
          | .ok applied => readArguments applied extras .nothing rest
          | .error error => .error error
        else
          match refuseValue flag spelling value with
          | .ok _ => .ok none
          | .error error => .error error
      | none =>
        if flag.takesValue then readArguments settings extras (.value flag) rest
        else if flag = .help then .ok none
        else readArguments (applyPlain settings flag) extras .nothing rest

/-- What a list of words asks for. -/
def parse (words : List String) : Except UsageError Request :=
  match assignRoles words with
  | .error error => .error error
  | .ok arguments =>
    match readArguments .default [] .nothing arguments with
    | .error error => .error error
    | .ok none => .ok .help
    | .ok (some (settings, extras)) =>
      if settings.program.isNone then .error .missingProgram
      else if extras.isEmpty then .ok (.run settings)
      else .error (.unrecognized extras)

/-! ## Log levels -/

/-- The capital form of a letter, as far as names on the log need it: the dotless
i and the long s have plain capitals, and a ligature has two. -/
def capital (c : Char) : Text :=
  let n := c.toNat
  if n = 0x131 then ['I']
  else if n = 0x17f then ['S']
  else if n = 0xfb05 ∨ n = 0xfb06 then ['S', 'T']
  else [c.toUpper]

/-- What a name means to the log. -/
inductive LogName
  /-- The least level that is shown. -/
  | level (value : Int)
  /-- The standard layout of a line, which is no level. -/
  | layout
  /-- The table of layouts, which is no level. -/
  | layouts
  deriving DecidableEq, Repr

/-- The names that the log knows. -/
def logNames : List (String × LogName) :=
  [("CRITICAL", .level 50), ("FATAL", .level 50), ("ERROR", .level 40), ("WARNING", .level 30),
   ("WARN", .level 30), ("INFO", .level 20), ("DEBUG", .level 10), ("NOTSET", .level 0),
   ("BASIC_FORMAT", .layout), ("_STYLES", .layouts)]

/-- What a name means to the log. Unknown names count as warnings. -/
def LogName.ofString (name : String) : LogName :=
  (logNames.lookup (String.ofList (name.toList.flatMap capital))).getD
    (.level Severity.warning.level)

end Palimpsest.CommandLine
