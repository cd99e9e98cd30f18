import Palimpsest.Journal
import Palimpsest.Observer.Recorder

/-!
# Monitors

A monitor is everything that listens to a run: the observers of its threads, in
the order in which they are told, and the journal. Observers only read what they
are given and never touch the program. An observer that fails keeps the ones
after it from being told.
-/

namespace Palimpsest

/-- Something that is told about threads. -/
inductive Observer
  /-- Keeps a table and a trace. -/
  | recorder (recorder : Recorder)
  /-- Passes events on to the journal at the given level. -/
  | reporter (level : Int)
  /-- Takes no notice. -/
  | silent
  deriving DecidableEq, Repr

/-- The observers and the journal of a run. -/
structure Monitor where
  observers : List Observer
  journal : Journal
  deriving DecidableEq, Repr

namespace Monitor

/-- Write an entry into the journal. -/
def write (monitor : Monitor) (entry : JournalEntry) : Monitor :=
  { monitor with journal := monitor.journal.write entry }

/-- Write several entries into the journal. -/
def writeAll (monitor : Monitor) (entries : List JournalEntry) : Monitor :=
  { monitor with journal := monitor.journal.writeAll entries }

/-- Tell one observer, given the journal it may write to. -/
def tellOne (notice : Notice) (observer : Observer) (journal : Journal) :
    EStateM.Result Failure (Observer × Journal) Unit :=
  match observer with
  | .recorder recorder =>
    match Recorder.note notice recorder with
    | .ok _ updated => .ok () (.recorder updated, journal)
    | .error failure updated => .error failure (.recorder updated, journal)
  | .reporter level =>
    if notice.event.fits then
      .ok () (.reporter level, journal.write (.observed level notice.event))
    else .error .overlong (.reporter level, journal)
  | .silent => .ok () (.silent, journal)

/-- Tell observers one after the other, up to the first that fails. -/
def tellAll (notice : Notice) (journal : Journal) :
    List Observer → EStateM.Result Failure (List Observer × Journal) Unit
  | [] => .ok () ([], journal)
  | observer :: rest =>
    match tellOne notice observer journal with
    | .error failure (told, written) => .error failure (told :: rest, written)
    | .ok _ (told, written) =>
      match tellAll notice written rest with
      | .error failure (others, last) => .error failure (told :: others, last)
      | .ok _ (others, last) => .ok () (told :: others, last)

/-- Tell all observers. -/
def tell (notice : Notice) : EStateM Failure Monitor Unit := fun monitor =>
  match tellAll notice monitor.journal monitor.observers with
  | .ok _ (observers, journal) => .ok () ⟨observers, journal⟩
  | .error failure (observers, journal) => .error failure ⟨observers, journal⟩

/-- The first recorder among the observers, or one that has seen nothing. -/
def recorder (monitor : Monitor) : Recorder :=
  (monitor.observers.findSome? fun observer =>
    match observer with
    | .recorder kept => some kept
    | _ => none).getD (.empty false)

end Monitor

end Palimpsest
