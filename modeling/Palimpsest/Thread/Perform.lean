import Palimpsest.Thread.Frame

/-!
# Carrying out instructions

One definition for each operation, and the dispatch on the word under the
pointer. Operations that look for a word and find none do nothing more. Edits
rebase the pointer, so that the thread goes on behind its own word wherever the
edit has moved it.
-/

namespace Palimpsest.Frame

variable [Cluster.Splitter]

/-- Push what follows `lead` in the first word that begins with it. -/
def load (lead : Text) : Action Flow := do
  let grid ← currentGrid
  match grid.findLead lead with
  | none => return .advance
  | some location =>
    push ((grid.readWord location).text.drop lead.length)
    return .advance

/-- Pop a value and let it follow `lead` in the first word that begins with it. -/
def save (lead : Text) : Action Flow := do
  let value ← pop
  let grid ← currentGrid
  match grid.findLead lead with
  | none => return .advance
  | some location =>
    let length := (grid.readWord location).length
    let inserted ← edit fun program => program.replace location length (lead ++ value)
    rebase location ((inserted : Int) - length) false
    return .advance

/-- The last operand of an operator: the rest of the word, or else the top of
memory. -/
def lastOperand (argument : Text) : Action Text :=
  if argument.isEmpty then pop else pure argument

/-- Apply an operator and push its result. -/
def applyOperator (operator : Operator) (argument : Text) : Action Unit := do
  match operator with
  | .equal =>
    let second ← lastOperand argument
    let first ← pop
    push [if first = second then '1' else '0']
  | .isZero =>
    let value ← require (Numeral.decode (← lastOperand argument))
    pushNumber (ofTruth (decide (value = 0)))
  | .binary operator =>
    let second ← require (Numeral.decode (← lastOperand argument))
    let first ← require (Numeral.decode (← pop))
    pushNumber (operator.apply first second)

/-- Compute. The first character of the operand picks the operator; one that
picks none leaves memory alone. -/
def math (operand : Text) : Action Flow := do
  match operand with
  | [] => return .advance
  | symbol :: argument =>
    match Operator.ofChar? symbol with
    | none => return .advance
    | some operator =>
      applyOperator operator argument
      return .advance

/-- Go on at the first word equal to `label`, or end when there is none. -/
def jump (label : Text) : Action Flow := do
  return .transfer ((← currentGrid).findWord label)

/-- Pop a value and jump when it is true. -/
def branch (label : Text) : Action Flow := do
  if isTrue (← pop) then jump label else return .advance

/-- Push the location of the first word that begins with `lead`. -/
def find (lead : Text) : Action Flow := do
  match (← currentGrid).findLead lead with
  | none => return .advance
  | some location =>
    pushLocation location
    return .advance

/-- Pop a word and a location, insert the word after the one at the location
with a space before it, and push where it stands. -/
def appendWord : Action Flow := do
  let word ← pop
  let location ← popLocation
  let place := location.right ((← currentGrid).readWord location).length
  let inserted ← edit fun program => program.replace place 0 (' ' :: word)
  rebase place inserted false
  pushLocation (place.right 1)
  return .advance

/-- Pop a location, insert an empty row below its row, and push the start of
the new row. -/
def addLine : Action Flow := do
  let row := (← popLocation).row
  let _ ← edit fun program => program.addLine (row + 1)
  modify fun frame =>
    if row + 1 ≤ frame.pointer.row then { frame with pointer := frame.pointer.shift 1 0 }
    else frame
  pushLocation ⟨row + 1, 0⟩
  return .advance

/-- Pop a location, delete the word there with the blanks behind it, and push
the location back. -/
def deleteWord : Action Flow := do
  let location ← popLocation
  let length := ((← currentGrid).readWordAndBlanks location).length
  let _ ← edit fun program => program.replace location length []
  rebase location (-length) false
  pushLocation location
  return .advance

/-- Pop a location, delete the letter there, and push the location back. -/
def deleteLetter : Action Flow := do
  let location ← popLocation
  let _ ← require ((← currentGrid).letterAt location)
  let _ ← edit fun program => program.replace location 1 []
  rebase location (-1) false
  pushLocation location
  return .advance

/-- Pop a text and a location and insert the text there. -/
def paste : Action Flow := do
  let text ← pop
  let location ← popLocation
  let inserted ← edit fun program => program.replace location 0 text
  rebase location inserted true
  return .advance

/-- Pop a location and push its neighbour in the direction that the operand
names; the location is lost when it names none. -/
def move (operand : Text) : Action Flow := do
  let location ← popLocation
  match Direction.ofText? operand with
  | none => return .advance
  | some direction =>
    pushLocation (location.shift direction.step.1 direction.step.2)
    return .advance

/-- Pop a value. -/
def drop : Action Flow := do
  let _ ← pop
  return .advance

/-- Exchange the two top values. -/
def swap : Action Flow := do
  let first ← pop
  let second ← pop
  push first
  push second
  return .advance

/-- Push the top value once more. -/
def duplicate : Action Flow := do
  let value ← pop
  push value
  push value
  return .advance

/-- Pop a location and push the letter there. -/
def readLetter : Action Flow := do
  let location ← popLocation
  push (← require ((← currentGrid).letterAt location))
  return .advance

/-- Whether a thread may be sent to a location: to a letter, or to the start of
an existing row. -/
def isTarget (grid : Grid) (location : Location) : Bool :=
  (location.col == 0 && (grid.row? location.row).isSome) || grid.isValid location

/-- Pop a location and go on there. -/
def jumpIndirect : Action Flow := do
  let location ← popLocation
  if isTarget (← currentGrid) location then return .transfer (some location)
  else throw (.ofCause (.jumpOutside location))

/-- Carry out an instruction. -/
def execute (instruction : Instruction) : Action Flow :=
  match instruction.opcode with
  | .load => load instruction.operand
  | .save => save instruction.operand
  | .math => math instruction.operand
  | .branch => branch instruction.operand
  | .jump => jump instruction.operand
  | .halt => pure (.transfer none)
  | .find => find instruction.operand
  | .appendWord => appendWord
  | .addLine => addLine
  | .deleteWord => deleteWord
  | .deleteLetter => deleteLetter
  | .paste => paste
  | .move => move instruction.operand
  | .drop => drop
  | .swap => swap
  | .duplicate => duplicate
  | .readLetter => readLetter
  | .jumpIndirect => jumpIndirect

/-- Carry out what a word says; a word that says nothing is passed over. -/
def executeWord (word : Word) : Action Flow :=
  match Instruction.decode? word.text with
  | none => pure .advance
  | some instruction => execute instruction

/-- Carry out the word under the pointer and say where the thread goes on: at
the next word behind it in the grid as it is then, or where the instruction has
sent it. -/
def perform (word : Word) : Action (Option Location) := do
  match (← executeWord word) with
  | .transfer target => return target
  | .advance =>
    let frame ← get
    return frame.program.grid.nextWord (frame.pointer.right word.length)

end Palimpsest.Frame
