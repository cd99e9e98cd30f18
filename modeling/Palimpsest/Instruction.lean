import Palimpsest.Text.Basic

/-!
# Instructions

The word under a thread is its instruction: the first character picks the
operation and the rest is the operand. Some operations have pictographs that
stand for their letter; the first pictograph in the table that a word begins
with is exchanged for its letter before the word is read. A word that picks no
operation does nothing.
-/

namespace Palimpsest

/-- The operations. -/
inductive Opcode
  | load
  | save
  | math
  | branch
  | jump
  | halt
  | find
  | appendWord
  | addLine
  | deleteWord
  | deleteLetter
  | paste
  | move
  | drop
  | swap
  | duplicate
  | readLetter
  | jumpIndirect
  deriving DecidableEq, Repr

/-- The operation that a character picks. -/
def Opcode.ofChar? : Char → Option Opcode
  | 'l' => some .load
  | 's' => some .save
  | 'm' => some .math
  | 'j' => some .branch
  | 'J' => some .jump
  | 'h' => some .halt
  | 'f' => some .find
  | 'p' => some .appendWord
  | 'o' => some .addLine
  | 'd' => some .deleteWord
  | 'c' => some .deleteLetter
  | 'n' => some .paste
  | 't' => some .move
  | 'u' => some .drop
  | 'v' => some .swap
  | 'w' => some .duplicate
  | 'y' => some .readLetter
  | 'r' => some .jumpIndirect
  | _ => none

/-- An operation with its operand. -/
structure Instruction where
  opcode : Opcode
  operand : Text
  deriving DecidableEq, Repr

namespace Instruction

/-- The variation selector that asks for the coloured form of a pictograph. -/
def colouredForm : Char := Char.ofNat 0xfe0f

/-- Pictographs with the letters they stand for. The coloured form of a
pictograph comes before the plain one, which is a beginning of it. -/
def synonyms : List (Text × Char) :=
  [(['🔼'], 'l'),
   (['🔽'], 's'),
   (['🧮'], 'm'),
   (['❓'], 'j'),
   (['❗'], 'J'),
   (['⛔'], 'h'),
   (['🔍'], 'f'),
   (['✏', colouredForm], 'p'),
   (['✏'], 'p'),
   (['🗑', colouredForm], 'd'),
   (['🗑'], 'd')]

/-- A word with its leading pictograph exchanged for the letter it stands for. -/
def normalize (word : Text) : Text :=
  match synonyms.find? fun synonym => synonym.1.isPrefixOf word with
  | some (pictograph, letter) => letter :: word.drop pictograph.length
  | none => word

/-- The instruction that a word spells, if it picks an operation. -/
def decode? (word : Text) : Option Instruction :=
  match normalize word with
  | [] => none
  | first :: operand => (Opcode.ofChar? first).map fun opcode => ⟨opcode, operand⟩

end Instruction

/-- Directions in which a location can be moved. -/
inductive Direction
  | up
  | down
  | left
  | right
  deriving DecidableEq, Repr

namespace Direction

/-- The direction that a text names. -/
def ofText? (name : Text) : Option Direction :=
  if name = ['u', 'p'] then some .up
  else if name = ['d', 'o', 'w', 'n'] then some .down
  else if name = ['l', 'e', 'f', 't'] then some .left
  else if name = ['r', 'i', 'g', 'h', 't'] then some .right
  else none

/-- Rows down and columns to the right for one step in a direction. -/
def step : Direction → Int × Int
  | .up => (-1, 0)
  | .down => (1, 0)
  | .left => (0, -1)
  | .right => (0, 1)

end Direction

end Palimpsest
