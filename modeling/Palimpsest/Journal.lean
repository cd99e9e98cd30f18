import Palimpsest.Buffer
import Palimpsest.Observer.Notice

/-!
# The journal

The journal collects what the parts of a run have to say, in order. Entries say
what happened; their level, the part that speaks and the wording follow from
that. Entries below the threshold are not kept.
-/

namespace Palimpsest

/-- How serious a remark is. -/
inductive Severity
  | debug
  | info
  | warning
  | error
  deriving DecidableEq, Repr

namespace Severity

/-- The number of a severity; more serious remarks have higher numbers. -/
def level : Severity → Int
  | .debug => 10
  | .info => 20
  | .warning => 30
  | .error => 40

/-- The name of a severity in receipts. -/
def name : Severity → String
  | .debug => "debug"
  | .info => "info"
  | .warning => "warning"
  | .error => "error"

end Severity

/-- What happened. -/
inductive JournalEntry
  /-- Cells of the buffer were exchanged. -/
  | spliced (splice : Splice)
  /-- The buffer was redrawn from a grid with so many rows. -/
  | redrawn (rows : Nat)
  /-- A thread is about to carry out an instruction. -/
  | stepping (state : ThreadState)
  /-- A thread came to its end. -/
  | halted (thread : String)
  /-- A thread was started. -/
  | started (thread : String) (location : Location)
  /-- An ended thread was taken off the machine, which has so many left. -/
  | removed (thread : String) (left : Nat)
  /-- An observer passed on an event at a level of its own. -/
  | observed (level : Int) (event : Event)
  /-- The session remarked on something. -/
  | remarked (severity : Severity) (message : String)
  /-- The session came to an end by a fault. -/
  | stopped (report : String)
  /-- The command line wrote a receipt. -/
  | wroteReceipt (path : String)
  /-- The command line gave up. -/
  | gaveUp (reason : String)
  deriving DecidableEq, Repr

/-- The name of a level. -/
def levelName (level : Int) : String :=
  if level = 10 then "DEBUG"
  else if level = 20 then "INFO"
  else if level = 30 then "WARNING"
  else if level = 40 then "ERROR"
  else if level = 50 then "CRITICAL"
  else if level = 0 then "NOTSET"
  else "Level " ++ String.ofList (Numeral.text level)

namespace JournalEntry

/-- How important an entry is. -/
def level : JournalEntry → Int
  | .spliced _ => Severity.debug.level
  | .redrawn _ => Severity.debug.level
  | .stepping _ => Severity.debug.level
  | .halted _ => Severity.info.level
  | .started _ _ => Severity.info.level
  | .removed _ _ => Severity.debug.level
  | .observed level _ => level
  | .remarked severity _ => severity.level
  | .stopped _ => Severity.error.level
  | .wroteReceipt _ => Severity.info.level
  | .gaveUp _ => Severity.error.level

/-- The part of the program that an entry speaks for. -/
def speaker : JournalEntry → String
  | .spliced _ => "volute.buffer"
  | .redrawn _ => "volute.program"
  | .stepping _ => "volute.thread"
  | .halted _ => "volute.thread"
  | .started _ _ => "volute.machine"
  | .removed _ _ => "volute.machine"
  | .observed _ _ => "volute.debug"
  | .remarked _ _ => "volute.runner"
  | .stopped _ => "volute.runner"
  | .wroteReceipt _ => "volute.cli"
  | .gaveUp _ => "volute.cli"

/-- The wording of an event passed on by an observer. -/
def eventMessage : Event → String
  | .state state =>
    "[" ++ state.name ++ "] " ++ state.location.toString ++ " " ++
      String.ofList state.instruction ++ " memory=" ++
      String.ofList (Text.quotedList state.memory.reverse)
  | .ended name => "[" ++ name ++ "] ended"

/-- The wording of an entry. -/
def message : JournalEntry → String
  | .spliced splice =>
    "buffer splice at " ++ toString splice.offset ++ ": -" ++
      String.ofList (Numeral.text splice.removed) ++ " +" ++ toString splice.added
  | .redrawn rows => "backend rewritten: " ++ toString rows ++ " rows"
  | .stepping state =>
    state.name ++ " @" ++ state.location.toString ++ ": " ++ String.ofList state.instruction ++
      " " ++ String.ofList (Text.quotedList state.memory.reverse)
  | .halted thread => "thread " ++ thread ++ " halted"
  | .started thread location => "thread " ++ thread ++ " started at " ++ location.toString
  | .removed thread left => "thread " ++ thread ++ " removed, " ++ toString left ++ " left"
  | .observed _ event => eventMessage event
  | .remarked _ message => message
  | .stopped report => "run stopped: " ++ report
  | .wroteReceipt path => "wrote receipt: " ++ path
  | .gaveUp reason => "run failed: " ++ reason

/-- An entry as a line of a log. -/
def line (entry : JournalEntry) : String :=
  levelName entry.level ++ " " ++ entry.speaker ++ ": " ++ entry.message

end JournalEntry

/-- The entries kept so far, newest first, and the least level that is kept. -/
structure Journal where
  threshold : Int
  kept : List JournalEntry
  deriving DecidableEq, Repr

namespace Journal

/-- A journal without entries. -/
def empty (threshold : Int) : Journal :=
  ⟨threshold, []⟩

/-- Write an entry, unless its level is too low. -/
def write (journal : Journal) (entry : JournalEntry) : Journal :=
  if journal.threshold ≤ entry.level then { journal with kept := entry :: journal.kept }
  else journal

/-- Write several entries in order. -/
def writeAll (journal : Journal) (entries : List JournalEntry) : Journal :=
  entries.foldl write journal

/-- The entries in the order in which they were written. -/
def entries (journal : Journal) : List JournalEntry :=
  journal.kept.reverse

end Journal

end Palimpsest
