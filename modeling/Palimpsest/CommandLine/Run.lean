import Palimpsest.CommandLine.Arguments
import Palimpsest.CommandLine.Workspace
import Palimpsest.Json.Printer
import Palimpsest.Receipt.Schema
import Palimpsest.Session.Run

/-!
# Running from the command line

The command line runs a program file or standard input, prints the final text,
and prints or writes the receipt. Whatever goes wrong while the program is
loaded or run ends in an error receipt; only a log level that is none, a path
that cannot be looked up, a receipt that cannot be written at all and a text that
cannot be encoded are left to the caller. Everything that would be printed or
written is collected in an `Outcome`. Words and names of files are texts here;
what standard input holds is a raw text.
-/

namespace Palimpsest.CommandLine

/-- Something that went wrong, by the name of its family and its wording. -/
structure Mishap where
  kind : String
  message : String
  deriving DecidableEq, Repr

/-- The mishap that a failure comes to. -/
def Mishap.ofFailure (failure : Failure) : Mishap :=
  ⟨failure.kindName, failure.message⟩

/-- The mishap of a text that cannot be encoded. -/
def Mishap.ofEncodingError (error : EncodingError) : Mishap :=
  ⟨"UnicodeEncodeError", error.message⟩

/-- The mishap of a file that cannot be read or written. -/
def Mishap.ofFileError (error : FileError) (path : String) : Mishap :=
  ⟨error.kindName, error.message (Path.normalize path)⟩

/-- A file that is written. -/
structure WrittenFile where
  /-- The path as it was asked for. -/
  path : String
  content : String
  /-- The name under which the file turns up in the workspace, when it is new. -/
  created : Option String
  deriving DecidableEq, Repr

/-- What a call of the command line comes to: the exit code, unless a mishap is
left to the caller, and all that is printed and written. -/
structure Outcome where
  exit : Except Mishap Nat
  stdout : String
  stderr : String
  written : List WrittenFile

/-- The exit code for a status. -/
def exitCode : Status → Nat
  | .halted => 0
  | .waiting => 0
  | .stopped => 0
  | .error => 1
  | .timeout => 2

/-- How a session is to run under the given settings. -/
def Settings.options (settings : Settings) : Options :=
  ⟨settings.immediate, settings.maxSteps.getD Options.defaultMaxSteps, !settings.noSteps⟩

/-- The clicks of the settings, when all have a location and there is a budget to
replay them with. -/
def Settings.locatedClicks? (settings : Settings) : Option (List Location) :=
  if settings.maxSteps.isSome then settings.clicks.mapM id else none

/-- The level that a name on the log means, or why it means none. -/
def levelOf : LogName → Except Mishap Int
  | .level value => .ok value
  | .layout => .error ⟨"ValueError", "Unknown level: '%(levelname)s:%(name)s:%(message)s'"⟩
  | .layouts =>
    .error ⟨"TypeError",
      "Level not an integer or a valid string: \x7b" ++
        "'%': (<class 'logging.PercentStyle'>, '%(levelname)s:%(name)s:%(message)s'), " ++
        "'\x7b': (<class 'logging.StrFormatStyle'>, " ++
        "'\x7blevelname\x7d:\x7bname\x7d:\x7bmessage\x7d'), " ++
        "'$': (<class 'logging.StringTemplateStyle'>, " ++
        "'$\x7blevelname\x7d:$\x7bname\x7d:$\x7bmessage\x7d')\x7d"⟩

/-- The least level that the log shows, or why there is none. A trace shows
everything, whatever the level. -/
def Settings.findThreshold (settings : Settings) : Except Mishap Int :=
  if settings.trace then .ok Severity.debug.level
  else
    match settings.logLevel with
    | none => .error ⟨"AttributeError", "'list' object has no attribute 'upper'"⟩
    | some name => levelOf (.ofString name)

/-- The least level that the log shows. -/
def Settings.threshold (settings : Settings) : Int :=
  match settings.findThreshold with
  | .ok level => level
  | .error _ => Severity.warning.level

/-- The path of the program file; standard input has none. -/
def Settings.path (settings : Settings) : Option String :=
  settings.program.filter fun program => program != "-"

/-- The file that the receipt goes to, if any. -/
def Settings.receiptPath (settings : Settings) : Option String :=
  settings.receiptOut.filter fun path => !path.isEmpty

/-- A line as it is printed. -/
def line (text : String) : String :=
  text ++ "\n"

/-- The lines of a journal. -/
def journalLines (journal : Journal) : String :=
  String.join (journal.entries.map fun entry => line entry.line)

/-- A log line for a single entry, if the threshold lets it through. -/
def logLine (settings : Settings) (entry : JournalEntry) : String :=
  journalLines ((Journal.empty settings.threshold).write entry)

/-- What is printed of a receipt. -/
def printedReceipt (settings : Settings) (receipt : Receipt) : String :=
  if settings.printReceipt then line receipt.toJson.pretty else ""

/-- The file that a receipt is written to, or why it cannot be. -/
def writtenReceipt (settings : Settings) (workspace : Workspace) (receipt : Receipt) :
    Except Mishap (List WrittenFile) :=
  match settings.receiptPath with
  | none => .ok []
  | some path =>
    match workspace.write path with
    | .ok created => .ok [⟨path, line receipt.toJson.pretty, created⟩]
    | .error error => .error (.ofFileError error path)

/-- Report a mishap: it is logged, and an error receipt takes the place of the
receipt of the run. The source is hashed for it, and where that fails the mishap
is left to the caller. `stdout` and `stderr` were printed before. -/
def giveUp (settings : Settings) (workspace : Workspace) (stamp : Stamp) (source : RawText)
    (stdout stderr : String) (mishap : Mishap) : Outcome :=
  let logged := stderr ++ logLine settings (.gaveUp mishap.message)
  match Receipt.ofRaw source settings.path stamp with
  | .error error => ⟨.error (.ofEncodingError error), stdout, logged, []⟩
  | .ok base =>
    let receipt := base.failed mishap.kind mishap.message
    let printed := stdout ++ printedReceipt settings receipt
    match writtenReceipt settings workspace receipt with
    | .ok files => ⟨.ok 1, printed, logged, files⟩
    | .error failed => ⟨.error failed, printed, logged, []⟩

/-- The final text, where it is printed. -/
def printedText (settings : Settings) (session : Session) : String :=
  if settings.resultOnly || !settings.printReceipt then
    line (String.ofList session.view.text)
  else ""

/-- What is said about a run that did not come to rest by itself. -/
def complaint (settings : Settings) (status : Status) (session : Session) : String :=
  if settings.resultOnly then ""
  else
    match session.error with
    | some fault => line ("volute: " ++ fault.report)
    | none =>
      if status = .timeout then
        line ("volute: step budget of " ++
          String.ofList (Numeral.text settings.options.maxSteps) ++ " exhausted")
      else ""

/-- Print and write the results of a run that has ended. -/
def conclude (settings : Settings) (workspace : Workspace) (stamp : Stamp) (source : RawText)
    (status : Status) (session : Session) : Outcome :=
  let log := journalLines session.monitor.journal
  let receipt := session.receipt
  if Receipt.isWellFormed receipt.toJson then
    let stdout := printedText settings session ++ printedReceipt settings receipt
    let stderr := log ++ complaint settings status session
    match writtenReceipt settings workspace receipt with
    | .error mishap => giveUp settings workspace stamp source stdout stderr mishap
    | .ok files =>
      let remark :=
        match settings.receiptPath with
        | some path => if settings.resultOnly then "" else logLine settings (.wroteReceipt path)
        | none => ""
      ⟨.ok (exitCode status), stdout, stderr ++ remark, files⟩
  else
    giveUp settings workspace stamp source "" log
      ⟨"ValidationError", "receipt does not match the schema"⟩

/-- The session of a source under the given settings. A trace on the log is an
observer of its own. -/
def sessionFor (settings : Settings) (stamp : Stamp) (source : RawText) :
    Except EncodingError Session :=
  let observers := if settings.trace then [Observer.reporter Severity.debug.level] else []
  Session.createRaw source settings.options settings.path stamp observers settings.threshold

/-- Run until rest. Without a budget a live thread cannot be run. -/
def runBudgeted (settings : Settings) : Session.Action Status := do
  if settings.maxSteps.isNone && (← get).hasThreads then throw .noBudget
  else Session.run none

/-- Replay clicks, running until rest after each of them, up to a click that has
no location. -/
def replayGiven (settings : Settings) (status : Status) :
    List (Option Location) → Session.Action Status
  | [] => return status
  | click :: rest => do
    if Session.isClickable status then
      match click with
      | none => throw .noLocation
      | some location =>
        let _ ← Session.click location
        replayGiven settings (← runBudgeted settings) rest
    else return status

/-- Start, run until rest, and replay clicks, as far as the settings have values
for all that. -/
def playGiven (settings : Settings) : Session.Action Status := do
  Session.start
  replayGiven settings (← runBudgeted settings) settings.clicks

/-- Start, run until rest, and replay the clicks of the settings. -/
def play (settings : Settings) : Session.Action Status :=
  match settings.locatedClicks? with
  | some clicks => Session.play clicks
  | none => playGiven settings

/-- Run a source. -/
def runSource (settings : Settings) (workspace : Workspace) (stamp : Stamp) (source : RawText) :
    Outcome :=
  match sessionFor settings stamp source with
  | .error error => giveUp settings workspace stamp source "" "" (.ofEncodingError error)
  | .ok session =>
    match play settings session with
    | .ok status session => conclude settings workspace stamp source status session
    | .error failure session =>
      giveUp settings workspace stamp source "" (journalLines session.monitor.journal)
        (.ofFailure failure)

/-- Refuse the arguments. -/
def refuse (error : UsageError) : Outcome :=
  ⟨.ok 2, "", line ("volute: error: " ++ error.message), []⟩

/-- Leave a mishap to the caller before anything is printed. -/
def abandon (mishap : Mishap) : Outcome :=
  ⟨.error mishap, "", "", []⟩

/-- Run the program that the settings name. Line ends of a file are folded as it
is read. -/
def runProgram (settings : Settings) (workspace : Workspace) (stamp : Stamp) (stdin : RawText) :
    Outcome :=
  match settings.path with
  | none => runSource settings workspace stamp stdin.foldLineEnds
  | some path =>
    match workspace.read path with
    | .error error =>
      if error = .nameTooLong then abandon (.ofFileError error path)
      else refuse (.programNotFound path)
    | .ok bytes =>
      match Utf8.decode bytes with
      | .error error =>
        giveUp settings workspace stamp [] "" "" ⟨"UnicodeDecodeError", error.message⟩
      | .ok text => runSource settings workspace stamp (.ofText (Text.foldLineEnds text))

/-- Set up the log and run the program that the settings name. -/
def runSettings (settings : Settings) (workspace : Workspace) (stamp : Stamp) (stdin : RawText) :
    Outcome :=
  match settings.findThreshold with
  | .error mishap => abandon mishap
  | .ok _ => runProgram settings workspace stamp stdin

/-- How the command line is used. -/
def usage : String :=
  "usage: volute [-h] [--click ROW:COL] [--max-steps MAX_STEPS] [--immediate] [--trace]\n" ++
    "              [--no-steps] [--print-receipt] [--receipt-out PATH] [--result-only]\n" ++
    "              [--log-level LOG_LEVEL]\n" ++
    "              program\n"

/-- Answer a call of the command line. -/
def call (words : List String) (workspace : Workspace) (stamp : Stamp) (stdin : RawText) :
    Outcome :=
  match parse words with
  | .error error => refuse error
  | .ok .help => ⟨.ok 0, usage, "", []⟩
  | .ok (.run settings) => runSettings settings workspace stamp stdin

end Palimpsest.CommandLine
