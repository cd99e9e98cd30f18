import Palimpsest.Session.Run

/-!
# Calls

A session is driven from outside by calls. Every call has an answer or fails,
and the session goes on from whatever the call leaves behind, so that any list
of calls can be carried out on any session.
-/

namespace Palimpsest.Session

variable [Cluster.Splitter]

/-- What can be asked of a session. -/
inductive Call
  | start
  | step
  | run (limit : Option Int)
  | stop
  | click (location : Location)
  deriving DecidableEq, Repr

/-- What a call comes to when it succeeds. -/
inductive Answer
  /-- There is nothing to say. -/
  | done
  /-- Whether an instruction was carried out. -/
  | stepped (executed : Bool)
  /-- How the run came to rest. -/
  | rested (status : Status)
  /-- The names of the threads that a click has started. -/
  | clicked (threads : List String)
  deriving DecidableEq, Repr

/-- Carry out a call. -/
def perform : Call → Action Answer
  | .start => do
    start
    return .done
  | .step => return .stepped (← step)
  | .run limit => return .rested (← run limit)
  | .stop => do
    stop
    return .done
  | .click location => return .clicked (← click location)

/-- The session that a call leaves behind, whether it succeeds or fails. -/
def after (session : Session) (call : Call) : Session :=
  match perform call session with
  | .ok _ next => next
  | .error _ next => next

/-- The session that a list of calls leaves behind. -/
def afterAll (session : Session) (calls : List Call) : Session :=
  calls.foldl after session

end Palimpsest.Session
