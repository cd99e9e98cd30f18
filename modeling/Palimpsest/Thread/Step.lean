import Palimpsest.Cluster.Unicode
import Palimpsest.Observer.Monitor
import Palimpsest.Thread.Perform

/-!
# Threads

A thread has a pointer into the program and a memory of its own. One step
carries out the word under the pointer. Observers are told when the thread
starts and after every step that succeeds. A step that fails leaves the pointer
where it was and tells nobody. Any splitter will do; where none is named, texts
are cut into extended grapheme clusters.
-/

namespace Palimpsest

/-- A thread. Without a pointer it has ended. Memory is listed from the top
down. -/
structure Thread where
  name : String
  key : ThreadKey
  pointer : Option Location
  memory : List Text
  deriving DecidableEq, Repr

/-- A thread with the program it works on and those who listen. -/
structure Scene where
  thread : Thread
  program : Program
  monitor : Monitor
  deriving DecidableEq, Repr

namespace Thread

/-- Whether a thread has not ended. -/
def isRunning (thread : Thread) : Bool :=
  thread.pointer.isSome

/-- The word under the pointer. -/
def instruction? (thread : Thread) (program : Program) : Option Word :=
  thread.pointer.map program.grid.readWord

/-- What a thread looks like to observers when it stands at a location. -/
def stateAt (thread : Thread) (program : Program) (location : Location) : ThreadState where
  name := thread.name
  location := location
  instruction := (program.grid.readWord location).text
  memory := thread.memory

/-- What observers are told about a thread. -/
def notice (thread : Thread) (program : Program) : Notice :=
  match thread.pointer with
  | some location => .state thread.key (thread.stateAt program location)
  | none => .ended thread.key thread.name

end Thread

namespace Scene

/-- Tell the observers about the thread as it is. -/
def tell : EStateM Failure Scene Unit := fun scene =>
  match Monitor.tell (scene.thread.notice scene.program) scene.monitor with
  | .ok _ monitor => .ok () { scene with monitor := monitor }
  | .error failure monitor => .error failure { scene with monitor := monitor }

/-- The frame of the instruction at a location. -/
def frame (scene : Scene) (location : Location) : Frame where
  program := scene.program
  pointer := location
  memory := scene.thread.memory
  splices := []

/-- The scene that an instruction leaves behind, with the thread at the given
pointer. -/
def leave (scene : Scene) (frame : Frame) (pointer : Option Location) : Scene where
  thread := { scene.thread with pointer := pointer, memory := frame.memory }
  program := frame.program
  monitor := scene.monitor.writeAll (frame.splices.map .spliced)

/-- Carry out the word under the pointer. An ended thread does nothing. The
place of the instruction is written down first, so a place that cannot be
written fails before anything is done. -/
def step [Cluster.Splitter] : EStateM Failure Scene Unit := fun scene =>
  match scene.thread.pointer with
  | none => .ok () scene
  | some location =>
    if location.fits then
      let word := scene.program.grid.readWord location
      let entry := JournalEntry.stepping (scene.thread.stateAt scene.program location)
      let announced := { scene with monitor := scene.monitor.write entry }
      match Frame.perform word (announced.frame location) with
      | .error failure frame =>
        .error (failure.arisingIn scene.thread.name location)
          (announced.leave frame (some frame.pointer))
      | .ok target frame =>
        let left := announced.leave frame target
        match target with
        | some _ => tell left
        | none =>
          tell { left with monitor := left.monitor.write (.halted scene.thread.name) }
    else .error .overlong scene

end Scene

end Palimpsest
