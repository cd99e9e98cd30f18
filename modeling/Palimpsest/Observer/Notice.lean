import Palimpsest.Location.Basic

/-!
# Notices

Threads tell their observers what they are about to do: a notice goes out when
a thread starts, after each of its steps, and when it ends. Names of threads
need not be unique, so a notice carries a key that tells threads apart.
-/

namespace Palimpsest

/-- What tells one thread from another: a number given out by the machine, or a
name. -/
inductive ThreadKey
  | number (number : Int)
  | name (name : String)
  deriving DecidableEq, Repr

/-- A thread as observers see it. Memory is listed from the top down, and shown
from the bottom up. -/
structure ThreadState where
  name : String
  location : Location
  instruction : Text
  memory : List Text
  deriving DecidableEq, Repr

/-- What observers are told. -/
inductive Notice
  | state (key : ThreadKey) (state : ThreadState)
  | ended (key : ThreadKey) (name : String)
  deriving DecidableEq, Repr

/-- One event of a trace. -/
inductive Event
  | state (state : ThreadState)
  | ended (name : String)
  deriving DecidableEq, Repr

namespace Notice

/-- The thread that a notice is about. -/
def key : Notice → ThreadKey
  | .state key _ => key
  | .ended key _ => key

/-- A notice without its key. -/
def event : Notice → Event
  | .state _ seen => .state seen
  | .ended _ name => .ended name

end Notice

/-- Whether an event can be written down: the location it names must be. -/
def Event.fits : Event → Bool
  | .state seen => seen.location.fits
  | .ended _ => true

end Palimpsest
