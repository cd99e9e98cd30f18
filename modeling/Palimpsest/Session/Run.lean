import Palimpsest.Session.Basic

/-!
# Running sessions

The operations of a session. `run` is bounded by a budget of steps, which it
counts down; whatever the budget, it ends with a status. After a run, a stop or
a fault the view is brought up to date, unless that has happened all along.
-/

namespace Palimpsest.Session

variable [Cluster.Splitter]

/-! ## Keeping the books -/

/-- Write an entry into the journal. -/
def write (entry : JournalEntry) : Action Unit :=
  modify fun session => { session with monitor := session.monitor.write entry }

/-- Make a remark, in the journal and for the receipt. -/
def remark (severity : Severity) (event message : String) : Action Unit := do
  write (.remarked severity message)
  modify fun session =>
    { session with remarks := session.remarks ++ [⟨severity, event, message⟩] }

/-- Let the machine act, keeping what it leaves behind also when it fails. -/
def onMachine {α : Type} (machine : Machine) (action : Machine.Action α) : Action α :=
  fun session =>
    match action (machine, session.monitor) with
    | .ok result (machine, monitor) =>
      .ok result { session with machine := some machine, monitor := monitor }
    | .error failure (machine, monitor) =>
      .error failure { session with machine := some machine, monitor := monitor }

/-- Bring the view up to date, unless every edit has been repeated on it. -/
def syncView : Action Unit := fun session =>
  match session.machine with
  | none => .ok () session
  | some machine =>
    if session.options.immediate then .ok () session
    else
      let updated := machine.program.updateView
      .ok ()
        { session with
          machine := some { machine with program := updated.1 }
          monitor :=
            (session.monitor.write (.spliced updated.2)).write
              (.redrawn machine.program.lineCount) }

/-- How a machine without live threads has come to rest. -/
def restingStatus (machine : Machine) : Status :=
  if machine.isFinished then .halted else .waiting

/-- Come to rest. -/
def settle (machine : Machine) : Action Unit :=
  modify fun session => { session with status := some (restingStatus machine) }

/-- Freeze the session because of a fault. -/
def fail (fault : Fault) : Action Unit := do
  modify fun session => { session with status := some .error, error := some fault }
  write (.stopped fault.report)
  modify fun session =>
    { session with remarks := session.remarks ++ [⟨.error, "fatal", fault.report⟩] }
  syncView

/-! ## Operations -/

/-- The machine that a session begins with: the source is loaded afresh and no
thread is live. -/
def freshMachine (session : Session) : Machine :=
  .ofProgram (.load session.source session.options.immediate)

/-- The session as it is at the beginning of a start: nothing has happened yet.
Further observers and the journal go on. -/
def reset (session : Session) : Session :=
  { session with
    monitor :=
      { session.monitor with
        observers :=
          .recorder (.empty session.options.keepsTrace) :: session.monitor.observers.drop 1 }
    machine := some session.freshMachine
    status := none
    error := none
    clicks := []
    remarks := [] }

/-- Settle when the machine has no live thread. -/
def settleIfIdle : Action Unit := do
  match (← get).machine with
  | none => return ()
  | some machine => if machine.isRunning then return () else settle machine

/-- Start over: load the source and start the main thread at its entry point. -/
def start : Action Unit := do
  let machine := (← get).freshMachine
  modify reset
  match machine.program.entry with
  | none => remark .warning "start" "no volute header found; nothing to run"
  | some entry => remark .info "start" ("entry point " ++ entry.toString)
  let _ ← onMachine machine Machine.startMain
  settleIfIdle

/-- The machine of the session, which is started when it has none. -/
def ensureMachine : Action Machine := do
  match (← get).machine with
  | some machine => return machine
  | none =>
    start
    let session ← get
    return session.machine.getD session.freshMachine

/-- Let the machine make a step. A fault ends the run and is not handed on.
The result says whether the step succeeded. -/
def stepMachine (machine : Machine) : Action Bool := fun session =>
  match onMachine machine Machine.step session with
  | .ok _ after => .ok true after
  | .error (.fault fault) after =>
    match fail fault after with
    | .ok _ failed => .ok false failed
    | .error failure failed => .error failure failed
  | .error failure after => .error failure after

/-- Carry out one instruction of one thread. The result says whether one was
carried out. -/
def step : Action Bool := do
  let machine ← ensureMachine
  if (← get).status = some .error then return false
  else if machine.isRunning then
    if (← stepMachine machine) then
      settleIfIdle
      return true
    else return false
  else
    settle machine
    return false

/-- Make up to `budget` steps while some thread is live. The budget runs out
when a thread is live after the last of them; `total` is the budget at the
beginning. -/
def runSteps (total : Nat) : (budget : Nat) → Action Unit
  | 0 => do
    if (← get).hasThreads then
      modify fun session => { session with status := some .timeout }
      remark .warning "timeout" ("stopped after " ++ toString total ++ " steps")
  | budget + 1 => do
    if (← get).hasThreads then
      if (← step) then runSteps total budget

/-- The status of a session that has come to rest; it settles if it has none. -/
def restedStatus (machine : Machine) : Action Status := do
  match (← get).status with
  | some status => return status
  | none =>
    settle machine
    return restingStatus machine

/-- Run until nothing is live or the budget is used up. Without a limit the
budget of the options holds. -/
def run (limit : Option Int) : Action Status := do
  let _ ← ensureMachine
  if (← get).status = some .error then return .error
  else
    let budget := (limit.getD (← get).options.maxSteps).toNat
    modify fun session => { session with status := none }
    runSteps budget budget
    let status ← restedStatus (← ensureMachine)
    syncView
    return status

/-- Stop the run from outside. -/
def stop : Action Unit := do
  if (← get).status = some .error then return ()
  else
    modify fun session => { session with status := some .stopped }
    remark .info "stop" "stopped by driver"
    syncView

/-- Start threads of one name at several places, one after the other. -/
def startAll (name : String) (memory : List Text) : List Location → Action Unit
  | [] => return ()
  | handler :: rest => do
    let machine ← ensureMachine
    let _ ← onMachine machine (Machine.startThread name handler memory)
    startAll name memory rest

/-- Click at a location: start a thread at every word that handles clicks, with
the location in its memory. The result names the threads. -/
def click (location : Location) : Action (List String) := do
  let machine ← ensureMachine
  if (← get).status = some .error then return []
  else
    match location.encode with
    | .error failure => throw failure
    | .ok shown =>
      let name := "mouse:" ++ String.ofList shown
      let handlers := machine.program.clickHandlers
      startAll name [shown] handlers
      let started := handlers.map fun _ => name
      modify fun session => { session with clicks := session.clicks ++ [⟨location, started⟩] }
      remark .info "click"
        ("click at " ++ String.ofList shown ++ " started " ++ toString started.length ++
          " thread(s)")
      if started.isEmpty then return []
      else
        modify fun session => { session with status := none }
        return started

/-! ## Whole runs -/

/-- Whether clicks are still worth replaying. -/
def isClickable (status : Status) : Bool :=
  status != .error && status != .timeout

/-- Replay clicks, running until rest after each of them. -/
def replayFrom (status : Status) : List Location → Action Status
  | [] => return status
  | location :: rest => do
    if isClickable status then
      let _ ← click location
      replayFrom (← run none) rest
    else return status

/-- Start, run until rest, and replay clicks in order. -/
def play (clicks : List Location) : Action Status := do
  start
  replayFrom (← run none) clicks

/-- Run a text with clicks, and give the final text and the receipt. -/
def runText (text : Text) (clicks : List Location) (options : Options) (path : Option String)
    (stamp : Stamp) : Except Failure (Text × Receipt) :=
  match play clicks (create text options path stamp [] Severity.warning.level) with
  | .error failure _ => .error failure
  | .ok _ session =>
    .ok ((session.program?.map Program.text).getD session.source, session.receipt)

/-- Why running a raw text gives no result. -/
inductive RunError
  /-- The text cannot be encoded. -/
  | unencodable (error : EncodingError)
  /-- The session fails. -/
  | failed (failure : Failure)
  deriving DecidableEq, Repr

/-- Run a raw text with clicks, and give the final text and the receipt. -/
def runRaw (source : RawText) (clicks : List Location) (options : Options)
    (path : Option String) (stamp : Stamp) : Except RunError (Text × Receipt) :=
  match source.foldLineEnds.toText with
  | .error error => .error (.unencodable error)
  | .ok text =>
    match runText text clicks options path stamp with
    | .error failure => .error (.failed failure)
    | .ok result => .ok result

end Palimpsest.Session
