import Palimpsest.Thread.Step

/-!
# Machines

A machine runs threads on one shared program. Every step carries out one
instruction of one thread, and a cursor goes round the threads in the order in
which they were started. A thread that ends is taken off; the cursor then
stands at the one that followed it.
-/

namespace Palimpsest

/-- The threads of a run and the program they share. -/
structure Machine where
  program : Program
  threads : List Thread
  cursor : Nat
  stepCount : Nat
  nextKey : Nat
  deriving DecidableEq, Repr

namespace Machine

/-- An action of a machine, with those who listen. -/
abbrev Action := EStateM Failure (Machine × Monitor)

/-- The name of the thread that starts at the entry point. -/
def mainName : String := "main"

/-- A machine without threads. -/
def ofProgram (program : Program) : Machine :=
  ⟨program, [], 0, 0, 0⟩

/-- Whether some thread is live. -/
def isRunning (machine : Machine) : Bool :=
  !machine.threads.isEmpty

/-- Whether nothing is live and no click could start anything. -/
def isFinished (machine : Machine) : Bool :=
  !machine.isRunning && machine.program.clickHandlers.isEmpty

/-- Start a thread at a location with the given memory, listed from the top
down. Observers are told before the thread joins the machine. -/
def startThread (name : String) (location : Location) (memory : List Text) : Action Unit :=
  fun (machine, monitor) =>
    let thread : Thread := ⟨name, .number machine.nextKey, some location, memory⟩
    match Scene.tell ⟨thread, machine.program, monitor⟩ with
    | .error failure scene => .error failure (machine, scene.monitor)
    | .ok _ scene =>
      let joined :=
        { machine with
          threads := machine.threads ++ [thread]
          nextKey := machine.nextKey + 1 }
      if location.fits then
        .ok () (joined, scene.monitor.write (.started name location))
      else .error .overlong (joined, scene.monitor)

/-- Start a thread where a location is given, and say whether one was. -/
def start (name : String) (location : Option Location) (memory : List Text) : Action Bool := do
  match location with
  | none => return false
  | some location =>
    startThread name location memory
    return true

/-- Start the main thread at the entry point, if there is one. -/
def startMain : Action Bool := do
  start mainName (← get).1.program.entry []

/-- A cursor that has run past the last thread goes back to the first. -/
def wrap (cursor count : Nat) : Nat :=
  if count ≤ cursor then 0 else cursor

/-- The machine after the thread under its cursor has made a step. -/
def afterStep (machine : Machine) (thread : Thread) (program : Program) : Machine :=
  let threads :=
    if thread.isRunning then machine.threads.set machine.cursor thread
    else machine.threads.eraseIdx machine.cursor
  let cursor := if thread.isRunning then machine.cursor + 1 else machine.cursor
  { machine with
    program := program
    threads := threads
    cursor := wrap cursor threads.length
    stepCount := machine.stepCount + 1 }

/-- Let the thread under the cursor make a step. A step that fails leaves the
cursor on it. -/
def step [Cluster.Splitter] : Action Unit := fun (machine, monitor) =>
  match machine.threads[machine.cursor]? with
  | none => .ok () (machine, monitor)
  | some thread =>
    match Scene.step ⟨thread, machine.program, monitor⟩ with
    | .error failure scene =>
      .error failure
        ({ machine with
          program := scene.program
          threads := machine.threads.set machine.cursor scene.thread }, scene.monitor)
    | .ok _ scene =>
      let after := machine.afterStep scene.thread scene.program
      if scene.thread.isRunning then .ok () (after, scene.monitor)
      else
        .ok () (after, scene.monitor.write (.removed thread.name after.threads.length))

end Machine

end Palimpsest
