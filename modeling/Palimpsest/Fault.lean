import Palimpsest.Location.Basic
import Palimpsest.Text.Quoted

/-!
# Faults and failures

A fault is a condition under which a running program has no defined meaning:
it stops the run and is reported with the thread and the place where it arose.
A failure is either a fault or a request that could not be carried out at all,
such as writing a number with too many digits. Searches that find nothing are
neither.
-/

namespace Palimpsest

/-- The families of faults that reports distinguish. -/
inductive FaultKind
  | general
  | underflow
  | operand
  | location
  deriving DecidableEq, Repr

/-- The name of a family of faults in reports. -/
def FaultKind.name : FaultKind → String
  | .general => "RuntimeErrorVolute"
  | .underflow => "StackUnderflowError"
  | .operand => "MathOperandError"
  | .location => "LocationError"

/-- What went wrong. Locations and rows are counted from zero here and from one
in messages. -/
inductive Cause
  /-- A value was needed and memory was empty. -/
  | emptyMemory
  /-- A value was needed as a number and starts with none. -/
  | notANumber (value : Text)
  /-- A value was needed as a location and does not show one. -/
  | notALocation (value : Text)
  /-- A letter was asked for where there is none. -/
  | noLetter (location : Location)
  /-- An edit in a row that does not exist. -/
  | noRow (row : Int)
  /-- An edit in an existing row, before its start or past its end. -/
  | outsideRow (location : Location)
  /-- A row was to be inserted where none can be. -/
  | noRowBefore (row : Int)
  /-- A jump to a place that is neither a letter nor the start of a row. -/
  | jumpOutside (location : Location)
  /-- A fault known only by its family and wording. -/
  | stated (kind : FaultKind) (message : String)
  deriving DecidableEq, Repr

namespace Cause

/-- The family that a cause belongs to. -/
def kind : Cause → FaultKind
  | .emptyMemory => .underflow
  | .notANumber _ => .operand
  | .notALocation _ => .location
  | .noLetter _ => .location
  | .noRow _ => .location
  | .outsideRow _ => .location
  | .noRowBefore _ => .location
  | .jumpOutside _ => .location
  | .stated kind _ => kind

/-- A row or column as messages number it, from one. -/
def ordinal (index : Int) : String :=
  String.ofList (Numeral.text (index + 1))

/-- The wording of a cause. -/
def message : Cause → String
  | .emptyMemory => "pop from empty memory"
  | .notANumber value => "not a number: " ++ String.ofList (Text.quoted value)
  | .notALocation value => "not an encoded location: " ++ String.ofList (Text.quoted value)
  | .noLetter location => "no letter at " ++ location.toString
  | .noRow row => "no row " ++ ordinal row ++ " to edit"
  | .outsideRow location =>
    "column " ++ ordinal location.col ++ " is outside row " ++ ordinal location.row
  | .noRowBefore row => "cannot insert a row before row " ++ ordinal row
  | .jumpOutside location => "indirect jump to " ++ location.toString ++ " is outside the program"
  | .stated _ message => message

/-- Whether every number in the wording is short enough to be written. -/
def fits : Cause → Bool
  | .noLetter location => location.fits
  | .noRow row => Numeral.fits (row + 1)
  | .outsideRow location => location.fits
  | .noRowBefore row => Numeral.fits (row + 1)
  | .jumpOutside location => location.fits
  | _ => true

end Cause

/-- A cause together with the thread and the place where it arose, as far as
they are known. -/
structure Fault where
  cause : Cause
  thread : Option String
  location : Option Location
  deriving DecidableEq, Repr

namespace Fault

/-- The family of a fault. -/
def kind (fault : Fault) : FaultKind :=
  fault.cause.kind

/-- The wording of a fault without its place. -/
def message (fault : Fault) : String :=
  fault.cause.message

/-- Fill in the thread and the place where they are still unknown. -/
def arisingIn (fault : Fault) (thread : String) (location : Location) : Fault where
  cause := fault.cause
  thread := some (fault.thread.getD thread)
  location := some (fault.location.getD location)

/-- The parts of the place of a fault that are known, in words. -/
def place (fault : Fault) : List String :=
  (fault.thread.map ("thread " ++ ·)).toList ++
    (fault.location.map fun location => "at " ++ location.toString).toList

/-- The wording of a fault with its place in parentheses. -/
def report (fault : Fault) : String :=
  match fault.place with
  | [] => fault.message
  | parts => fault.message ++ " (" ++ ", ".intercalate parts ++ ")"

/-- Whether the place can be written. -/
def fits (fault : Fault) : Bool :=
  fault.location.all Location.fits

end Fault

/-- Why an operation did not succeed. -/
inductive Failure
  /-- The running program is at fault. -/
  | fault (fault : Fault)
  /-- A number has too many digits to be written. -/
  | overlong
  /-- A numeral has too many digits to be read. -/
  | overlongNumeral (digits : Nat)
  /-- A buffer was to be edited before its start. -/
  | negativeOffset (offset : Int)
  /-- A row was asked for by a number that no row has. -/
  | noSuchRow
  /-- A row was asked for by a number beyond all row numbers. -/
  | unreachableRow
  /-- A run was asked for without a budget. -/
  | noBudget
  /-- A click was asked for without a location. -/
  | noLocation
  deriving DecidableEq, Repr

namespace Failure

/-- The failure that a cause leads to. A cause whose wording would need a
number that cannot be written is reported as just that. -/
def ofCause (cause : Cause) : Failure :=
  if cause.fits then .fault ⟨cause, none, none⟩ else .overlong

/-- Fill in where a fault arose; other failures have no place. -/
def arisingIn (failure : Failure) (thread : String) (location : Location) : Failure :=
  match failure with
  | .fault raised => .fault (raised.arisingIn thread location)
  | other => other

/-- The name of a family of failures in reports. -/
def kindName : Failure → String
  | .fault raised => raised.kind.name
  | .noSuchRow => "IndexError"
  | .unreachableRow => "IndexError"
  | .noBudget => "TypeError"
  | .noLocation => "AttributeError"
  | _ => "ValueError"

/-- How the limit on digits is worded, with a remark on the value at hand. -/
def limitMessage (remark : String) : String :=
  "Exceeds the limit (" ++ toString Numeral.digitLimit ++
    " digits) for integer string conversion" ++ remark ++
    "; use sys.set_int_max_str_digits() to increase the limit"

/-- The wording of a failure. -/
def message : Failure → String
  | .fault raised => raised.report
  | .overlong => limitMessage ""
  | .overlongNumeral digits => limitMessage (": value has " ++ toString digits ++ " digits")
  | .negativeOffset offset => "negative buffer offset: " ++ String.ofList (Numeral.text offset)
  | .noSuchRow => "list index out of range"
  | .unreachableRow => "cannot fit 'int' into an index-sized integer"
  | .noBudget => "'>=' not supported between instances of 'int' and 'list'"
  | .noLocation => "'list' object has no attribute 'encode'"

end Failure

/-- The report of a fault, unless its place cannot be written. -/
def Fault.describe (fault : Fault) : Except Failure String :=
  if fault.fits then .ok fault.report else .error .overlong

end Palimpsest
