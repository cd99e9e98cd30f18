import Palimpsest.Instruction
import Palimpsest.Operator
import Palimpsest.Program

/-!
# Frames

A frame is what one instruction can see and change: the program, the
instruction pointer and the memory of its thread. An instruction is an action
on a frame. It either succeeds or fails, and in both cases leaves a frame
behind; values popped before a failure stay popped.
-/

namespace Palimpsest

/-- What one instruction can see and change. Memory is listed from the top
down. The splices are the edits repeated on the buffer so far. -/
structure Frame where
  program : Program
  pointer : Location
  memory : List Text
  splices : List Splice
  deriving DecidableEq, Repr

/-- An action of an instruction. -/
abbrev Action := EStateM Failure Frame

/-- How a thread goes on after an instruction: behind its word, or elsewhere. -/
inductive Flow
  | advance
  | transfer (target : Option Location)
  deriving DecidableEq, Repr

namespace Frame

/-- The grid as it stands. -/
def currentGrid : Action Grid := do
  return (← get).program.grid

/-- Put a value on memory. -/
def push (value : Text) : Action Unit :=
  modify fun frame => { frame with memory := value :: frame.memory }

/-- Take the top value off memory. -/
def pop : Action Text := do
  let frame ← get
  match frame.memory with
  | [] => throw (.ofCause .emptyMemory)
  | value :: rest =>
    set { frame with memory := rest }
    return value

/-- Succeed with a result, or fail, without touching the frame. -/
def require {α : Type} : Except Failure α → Action α
  | .ok value => pure value
  | .error failure => throw failure

/-- Put the text of a location on memory. -/
def pushLocation (location : Location) : Action Unit := do
  push (← require location.encode)

/-- Put the text of a number on memory. -/
def pushNumber (number : Int) : Action Unit := do
  push (← require (Numeral.encode number))

/-- Take the top value off memory and read it as a location. -/
def popLocation : Action Location := do
  require (Location.decode (← pop))

/-- Edit the program, and say how many letters were put in. -/
def edit (revise : Program → Except Failure Revision) : Action Nat := do
  let revision ← require (revise (← get).program)
  modify fun frame =>
    { frame with
      program := revision.program
      splices := frame.splices ++ revision.splice.toList }
  return revision.inserted

/-- Keep the pointer on its letter after `delta` letters appeared (or vanished)
at a place. A place before the pointer in its row moves it; a place at the
pointer moves it only when `inclusive` is set. -/
def rebasedPointer (pointer place : Location) (delta : Int) (inclusive : Bool) : Location :=
  if place.row = pointer.row ∧
      (place.col < pointer.col ∨ (inclusive = true ∧ place.col = pointer.col)) then
    pointer.right delta
  else pointer

/-- Rebase the pointer of the frame. -/
def rebase (place : Location) (delta : Int) (inclusive : Bool) : Action Unit :=
  modify fun frame =>
    { frame with pointer := rebasedPointer frame.pointer place delta inclusive }

/-! ## What the basic actions leave behind -/

/-- Pushing always succeeds. -/
@[simp]
theorem push_apply (value : Text) (frame : Frame) :
    push value frame = .ok () { frame with memory := value :: frame.memory } :=
  rfl

/-- Popping from empty memory fails and leaves the frame alone. -/
theorem pop_of_nil {frame : Frame} (empty : frame.memory = []) :
    pop frame = .error (.ofCause .emptyMemory) frame := by
  cases frame
  cases empty
  rfl

/-- Popping takes the top value. -/
theorem pop_of_cons {frame : Frame} {value : Text} {rest : List Text}
    (memory : frame.memory = value :: rest) :
    pop frame = .ok value { frame with memory := rest } := by
  cases frame
  cases memory
  rfl

/-- A result is handed on. -/
@[simp]
theorem require_ok {α : Type} (value : α) (frame : Frame) :
    require (.ok value) frame = .ok value frame :=
  rfl

/-- A failure leaves the frame alone. -/
@[simp]
theorem require_error {α : Type} (failure : Failure) (frame : Frame) :
    require (.error failure : Except Failure α) frame = .error failure frame :=
  rfl

end Frame

end Palimpsest
