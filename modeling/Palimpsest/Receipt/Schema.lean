import Palimpsest.Receipt.Basic

/-!
# The form of receipts

A check is a predicate on JSON values. The combinators below have the meaning
of the schema keywords of the same purpose, and `Receipt.isWellFormed` puts
together the form that every receipt has.
-/

namespace Palimpsest

/-- A test of JSON values. -/
abbrev Check := Json → Bool

namespace Check

/-- Any string. -/
def string : Check
  | .str _ => true
  | .raw _ => true
  | _ => false

/-- Only `null`. -/
def null : Check
  | .null => true
  | _ => false

/-- A string that satisfies a test. No test takes surrogates. -/
def stringWith (test : Text → Bool) : Check
  | .str value => test value.toList
  | _ => false

/-- One of the given strings. -/
def oneOfStrings (values : List String) : Check
  | .str value => values.contains value
  | _ => false

/-- A whole number that is not negative, in whatever way it is written. -/
def count : Check
  | .int value => decide (0 ≤ value)
  | .real value => value.whole?.any fun whole => decide (0 ≤ whole)
  | _ => false

/-- An array whose items all pass a check. -/
def arrayOf (item : Check) : Check
  | .arr items => items.all item
  | _ => false

/-- A value that passes at least one of two checks. -/
def either (first second : Check) : Check := fun value =>
  first value || second value

/-- A value that passes exactly one of two checks. -/
def exactlyOne (first second : Check) : Check := fun value =>
  first value != second value

/-- An object that has all required fields and whose known fields pass their
checks. A closed object has no other fields. -/
def object (required : List String) (closed : Bool) (known : List (String × Check)) : Check
  | .obj fields =>
    required.all (fun name => fields.any fun field => field.1 == name) &&
      fields.all fun field =>
        match known.lookup field.1 with
        | some check => check field.2
        | none => !closed
  | _ => false

/-- The rest of a text behind an optional minus sign and at least one digit. -/
def afterInteger? (text : Text) : Option Text :=
  let unsigned := match text with
    | '-' :: rest => rest
    | rest => rest
  if (unsigned.takeWhile Text.isDecimal).isEmpty then none
  else some (unsigned.dropWhile Text.isDecimal)

/-- Whether a text is over, save for one line feed. -/
def isEnd (text : Text) : Bool :=
  text.isEmpty || text == [Text.lineFeed]

/-- Whether a text shows a location: two integers with a colon between them. -/
def showsLocation (text : Text) : Bool :=
  match afterInteger? text with
  | some (':' :: rest) =>
    match afterInteger? rest with
    | some after => isEnd after
    | none => false
  | _ => false

/-- Whether a character is a lower-case hexadecimal digit. -/
def isHexDigit (c : Char) : Bool :=
  c.isDigit || (decide ('a' ≤ c) && decide (c ≤ 'f'))

/-- Whether a text is the name that a program goes by. -/
def showsDigest (text : Text) : Bool :=
  "sha256:".toList.isPrefixOf text &&
    (((text.drop 7).take 64).length == 64 && ((text.drop 7).take 64).all isHexDigit &&
      isEnd (text.drop 71))

/-- A location in its shown form. -/
def location : Check :=
  stringWith showsLocation

/-- A memory. -/
def memory : Check :=
  arrayOf string

/-- The part of a receipt about the program. -/
def program : Check :=
  object ["hash", "entryPoint", "lines"] true
    [("path", string), ("hash", stringWith showsDigest), ("entryPoint", either location null),
      ("lines", count)]

/-- The part of a receipt that makes the run unique. -/
def stamp : Check :=
  object ["timestamp", "uuid"] false [("timestamp", string), ("uuid", string)]

/-- An event of a live thread. -/
def stateEvent : Check :=
  object ["event", "thread", "location", "instruction", "memory"] true
    [("event", oneOfStrings ["state"]), ("thread", string), ("location", location),
      ("instruction", string), ("memory", memory)]

/-- The last event of a thread. -/
def endedEvent : Check :=
  object ["event", "thread"] true [("event", oneOfStrings ["ended"]), ("thread", string)]

/-- A live thread. -/
def thread : Check :=
  object ["name", "location", "memory"] true
    [("name", string), ("location", location), ("memory", memory)]

/-- A click. -/
def click : Check :=
  object ["location", "threads"] true [("location", location), ("threads", arrayOf string)]

/-- A remark. -/
def remark : Check :=
  object ["level", "event", "message"] false
    [("level", oneOfStrings ["debug", "info", "warning", "error"]), ("event", string),
      ("message", string)]

/-- What ended a run. -/
def error : Check :=
  object ["type", "message"] true
    [("type", string), ("message", string), ("thread", either string null),
      ("location", either location null)]

end Check

/-- The form that every receipt has. -/
def Receipt.isWellFormed : Check :=
  Check.object
    ["engine", "program", "run", "status", "stepCount", "steps", "threads", "clickHandlers", "logs",
      "text"]
    true
    [("engine", Check.oneOfStrings ["volute"]),
      ("program", Check.program),
      ("run", Check.stamp),
      ("status",
        Check.oneOfStrings ["running", "halted", "waiting", "error", "timeout", "stopped"]),
      ("stepCount", Check.count),
      ("steps", Check.arrayOf (Check.exactlyOne Check.stateEvent Check.endedEvent)),
      ("threads", Check.arrayOf Check.thread),
      ("clickHandlers", Check.arrayOf Check.location),
      ("clicks", Check.arrayOf Check.click),
      ("logs", Check.arrayOf Check.remark),
      ("text", Check.string),
      ("error", Check.error)]

end Palimpsest
