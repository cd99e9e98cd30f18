import Palimpsest.Digest
import Palimpsest.Journal
import Palimpsest.Json.Basic

/-!
# Receipts

A receipt is the record of a run: which program was run, how the run ended,
what its threads did, and the final text. It is kept as plain data here and
turned into JSON by `Receipt.toJson`. A program is named by the hash of its
bytes, so only a text that can be encoded has a receipt.
-/

namespace Palimpsest

/-- How a run came to rest. -/
inductive Status
  /-- Nothing is running and no click could start anything. -/
  | halted
  /-- Nothing is running, but clicks are handled. -/
  | waiting
  /-- A thread was at fault. -/
  | error
  /-- The budget of steps was used up. -/
  | timeout
  /-- The run was stopped from outside. -/
  | stopped
  deriving DecidableEq, Repr

/-- The name of a status. -/
def Status.name : Status → String
  | .halted => "halted"
  | .waiting => "waiting"
  | .error => "error"
  | .timeout => "timeout"
  | .stopped => "stopped"

/-- What makes a run unique: when it took place, and an identifier. -/
structure Stamp where
  timestamp : String
  uuid : String
  deriving DecidableEq, Repr

/-- A remark of the session. -/
structure Remark where
  severity : Severity
  event : String
  message : String
  deriving DecidableEq, Repr

/-- A click with the names of the threads it started. -/
structure ClickRecord where
  location : Location
  threads : List String
  deriving DecidableEq, Repr

/-- A thread that was live at the end, with its memory from the top down. -/
structure ThreadRecord where
  name : String
  location : Location
  memory : List Text
  deriving DecidableEq, Repr

/-- What ended a run. -/
structure ErrorRecord where
  kind : String
  message : String
  thread : Option String
  location : Option Location
  deriving DecidableEq, Repr

/-- The record of a fault. -/
def Fault.record (fault : Fault) : ErrorRecord where
  kind := fault.kind.name
  message := fault.message
  thread := fault.thread
  location := fault.location

/-- The record of a run. -/
structure Receipt where
  hash : Text
  entryPoint : Option Location
  lines : Nat
  path : Option String
  stamp : Stamp
  status : Option Status
  stepCount : Nat
  steps : List Event
  threads : List ThreadRecord
  clickHandlers : List Location
  clicks : List ClickRecord
  remarks : List Remark
  text : Text
  error : Option ErrorRecord
  deriving DecidableEq, Repr

namespace Receipt

/-- The receipt of a program that has not been run. An empty path is no path. -/
def base (source : Text) (path : Option String) (stamp : Stamp) : Receipt where
  hash := Digest.ofText source
  entryPoint := none
  lines := 0
  path := path.filter fun name => !name.isEmpty
  stamp := stamp
  status := none
  stepCount := 0
  steps := []
  threads := []
  clickHandlers := []
  clicks := []
  remarks := []
  text := source
  error := none

/-- The receipt of a raw text that has not been run. The hash is one of bytes, so
there is none, and no receipt, for a text that cannot be encoded. -/
def ofRaw (source : RawText) (path : Option String) (stamp : Stamp) :
    Except EncodingError Receipt :=
  match source.toText with
  | .ok text => .ok (base text path stamp)
  | .error error => .error error

/-- A receipt that reports a failure instead of a run. -/
def failed (receipt : Receipt) (kind message : String) : Receipt :=
  { receipt with
    status := some .error
    remarks := receipt.remarks ++ [⟨.error, "fatal", message⟩]
    error := some ⟨kind, message, none, none⟩ }

/-- The receipt of a program that could not be run. -/
def ofFailure (source : Text) (path : Option String) (stamp : Stamp) (kind message : String) :
    Receipt :=
  (base source path stamp).failed kind message

end Receipt

/-! ## Receipts as JSON -/

/-- A location in its shown form. -/
def Location.toJson (location : Location) : Json :=
  .text location.text

/-- An event of a trace, with memory from the bottom up. -/
def Event.toJson : Event → Json
  | .state seen =>
    .obj [("event", .str "state"), ("thread", .str seen.name),
      ("location", seen.location.toJson), ("instruction", .text seen.instruction),
      ("memory", .texts seen.memory.reverse)]
  | .ended name => .obj [("event", .str "ended"), ("thread", .str name)]

/-- A remark. -/
def Remark.toJson (remark : Remark) : Json :=
  .obj [("level", .str remark.severity.name), ("event", .str remark.event),
    ("message", .str remark.message)]

/-- A click. -/
def ClickRecord.toJson (click : ClickRecord) : Json :=
  .obj [("location", click.location.toJson), ("threads", .arr (click.threads.map .str))]

/-- A live thread, with memory from the bottom up. -/
def ThreadRecord.toJson (thread : ThreadRecord) : Json :=
  .obj [("name", .str thread.name), ("location", thread.location.toJson),
    ("memory", .texts thread.memory.reverse)]

/-- What ended a run. -/
def ErrorRecord.toJson (error : ErrorRecord) : Json :=
  .obj [("type", .str error.kind), ("message", .str error.message),
    ("thread", .option .str error.thread), ("location", .option Location.toJson error.location)]

/-- The name of a status, or of having none. -/
def statusName (status : Option Status) : String :=
  match status with
  | some settled => settled.name
  | none => "running"

namespace Receipt

/-- The part of a receipt about the program. The path is left out when there is
none. -/
def programJson (receipt : Receipt) : Json :=
  .obj ([("hash", .text receipt.hash), ("entryPoint", .option Location.toJson receipt.entryPoint),
    ("lines", .int receipt.lines)] ++ (receipt.path.map fun path => ("path", .str path)).toList)

/-- A receipt as JSON. The error is left out when there is none. -/
def toJson (receipt : Receipt) : Json :=
  .obj ([
    ("engine", .str "volute"),
    ("program", receipt.programJson),
    ("run", .obj [("timestamp", .str receipt.stamp.timestamp), ("uuid", .str receipt.stamp.uuid)]),
    ("status", .str (statusName receipt.status)),
    ("stepCount", .int receipt.stepCount),
    ("steps", .arr (receipt.steps.map Event.toJson)),
    ("threads", .arr (receipt.threads.map ThreadRecord.toJson)),
    ("clickHandlers", .arr (receipt.clickHandlers.map Location.toJson)),
    ("clicks", .arr (receipt.clicks.map ClickRecord.toJson)),
    ("logs", .arr (receipt.remarks.map Remark.toJson)),
    ("text", .text receipt.text)] ++
    (receipt.error.map fun error => ("error", error.toJson)).toList)

end Receipt

end Palimpsest
