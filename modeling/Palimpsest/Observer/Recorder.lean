import Palimpsest.Fault
import Palimpsest.Observer.Notice

/-!
# Recorders

A recorder keeps a table of the live threads and, when asked to, a trace of all
events. A thread keeps its place in the table for as long as it lives. The
trace is stored newest first.
-/

namespace Palimpsest

/-- The table of live threads and the trace. -/
structure Recorder where
  keepsTrace : Bool
  table : List (ThreadKey × ThreadState)
  history : List Event
  deriving DecidableEq, Repr

namespace Recorder

/-- A recorder that has seen nothing. -/
def empty (keepsTrace : Bool) : Recorder :=
  ⟨keepsTrace, [], []⟩

/-- Put a state into a table: in its place when the key is known, otherwise at
the end. -/
def put (key : ThreadKey) (state : ThreadState) :
    List (ThreadKey × ThreadState) → List (ThreadKey × ThreadState)
  | [] => [(key, state)]
  | entry :: rest =>
    if entry.1 = key then (key, state) :: rest else entry :: put key state rest

/-- The states of the live threads. -/
def states (recorder : Recorder) : List ThreadState :=
  recorder.table.map Prod.snd

/-- The events in the order in which they happened. -/
def trace (recorder : Recorder) : List Event :=
  recorder.history.reverse

/-- The table after a notice. -/
def tableAfter (recorder : Recorder) : Notice → List (ThreadKey × ThreadState)
  | .state key state => put key state recorder.table
  | .ended key _ => recorder.table.filter fun entry => entry.1 ≠ key

/-- Take a notice. An event that cannot be written down fails after the table
has been brought up to date. -/
def note (notice : Notice) : EStateM Failure Recorder Unit := fun recorder =>
  let updated := { recorder with table := recorder.tableAfter notice }
  if recorder.keepsTrace then
    if notice.event.fits then
      .ok () { updated with history := notice.event :: recorder.history }
    else .error .overlong updated
  else .ok () updated

/-- The state of the first live thread with the given name. -/
def stateOf (recorder : Recorder) (name : String) : Option ThreadState :=
  recorder.states.find? fun state => state.name == name

/-- A thread in the rendered table. -/
def block (state : ThreadState) : String :=
  let memory :=
    " ".intercalate (state.memory.reverse.map fun item => "[" ++ String.ofList item ++ "]")
  "Thread name: " ++ state.name ++ "\n" ++
    "Instruction: " ++ String.ofList state.instruction ++
    " (" ++ state.location.toString ++ ")\n" ++
    "Memory: " ++ (if memory.isEmpty then "(empty)" else memory)

/-- The table of live threads, for people to read. -/
def render (recorder : Recorder) : Except Failure String :=
  if recorder.states.isEmpty then .ok "Nothing is running."
  else if recorder.states.all fun state => state.location.fits then
    .ok ("\n\n".intercalate (recorder.states.map block))
  else .error .overlong

end Recorder

end Palimpsest
