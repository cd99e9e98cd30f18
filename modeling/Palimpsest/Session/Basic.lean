import Palimpsest.Machine
import Palimpsest.Receipt.Basic

/-!
# Sessions

A session runs one source text. It can be started, stepped, run, stopped and
clicked in any order; every operation but `stop` starts a session that has not
been started. A fault freezes the session until it is started again. Other
failures leave the session as it was when they arose and are handed on.
-/

namespace Palimpsest

/-- How a session runs its program. -/
structure Options where
  /-- Repeat every edit on the view at once. -/
  immediate : Bool
  /-- The budget of steps for a run. -/
  maxSteps : Int
  /-- Keep a trace of all events. -/
  keepsTrace : Bool
  deriving DecidableEq, Repr

/-- The budget when none is given. -/
def Options.defaultMaxSteps : Int := 100000

/-- The options when none are given. -/
def Options.default : Options :=
  ⟨false, defaultMaxSteps, true⟩

/-- One source text with everything that its runs have led to. The first
observer of the monitor is the session's own recorder. -/
structure Session where
  source : Text
  options : Options
  path : Option String
  stamp : Stamp
  monitor : Monitor
  machine : Option Machine
  status : Option Status
  error : Option Fault
  clicks : List ClickRecord
  remarks : List Remark
  deriving DecidableEq, Repr

namespace Session

variable [Cluster.Splitter]

/-- An operation on a session: its result or failure, and the session it leaves
behind. -/
abbrev Action := EStateM Failure Session

/-- A session on a text, with further observers beside its own recorder. The
source is the text with its line ends folded, as a buffer shows it. -/
def create (text : Text) (options : Options) (path : Option String) (stamp : Stamp)
    (observers : List Observer) (threshold : Int) : Session where
  source := (Buffer.load text).text
  options := options
  path := path
  stamp := stamp
  monitor := ⟨.recorder (.empty options.keepsTrace) :: observers, .empty threshold⟩
  machine := none
  status := none
  error := none
  clicks := []
  remarks := []

/-- A session on a raw text, unless the text cannot be encoded. Line ends are
folded before the text is hashed, so positions are counted behind that. -/
def createRaw (source : RawText) (options : Options) (path : Option String) (stamp : Stamp)
    (observers : List Observer) (threshold : Int) : Except EncodingError Session :=
  match source.foldLineEnds.toText with
  | .ok text => .ok (create text options path stamp observers threshold)
  | .error error => .error error

/-! ## What a session shows -/

/-- Whether a session has been started. -/
def isStarted (session : Session) : Bool :=
  session.machine.isSome

/-- The program of a started session. -/
def program? (session : Session) : Option Program :=
  session.machine.map Machine.program

/-- Whether some thread is live. -/
def hasThreads (session : Session) : Bool :=
  session.machine.any Machine.isRunning

/-- Whether a run has something left to do. -/
def isRunning (session : Session) : Bool :=
  session.hasThreads && session.status.isNone

/-- The buffer that readers see. -/
def view (session : Session) : Buffer :=
  match session.program? with
  | some program => program.view
  | none => .load session.source

/-- The recorder of a session. -/
def recorder (session : Session) : Recorder :=
  session.monitor.recorder

/-- The record of what has happened so far. -/
def receipt (session : Session) : Receipt :=
  let base := Receipt.base session.source session.path session.stamp
  let noted :=
    { base with
      status := session.status
      steps := session.recorder.trace
      clicks := session.clicks
      remarks := session.remarks
      error := session.error.map Fault.record }
  match session.machine with
  | none => noted
  | some machine =>
    { noted with
      entryPoint := machine.program.entry
      lines := machine.program.lineCount
      clickHandlers := machine.program.clickHandlers
      text := machine.program.text
      stepCount := machine.stepCount
      threads := machine.threads.filterMap fun thread =>
        thread.pointer.map fun location => ⟨thread.name, location, thread.memory⟩ }

end Session

end Palimpsest
