import Palimpsest.CommandLine.Run
import Palimpsest.CommandLine.Stamp
import Std.Time.DateTime.Timestamp

/-!
# The command

The command reads its program, hands everything to `CommandLine.call`, and
prints and writes what comes of it.
-/

namespace Palimpsest.Main

open CommandLine (Outcome Request Settings WrittenFile)

/-- The bytes of a file, if it can be read. -/
def readFile (path : String) : IO (Option (List UInt8)) := do
  try
    return some (← IO.FS.readBinFile path).toList
  catch _ =>
    return none

/-- All bytes of standard input. -/
partial def readInput (input : IO.FS.Stream) (before : ByteArray) : IO ByteArray := do
  let block ← input.read 65536
  if block.isEmpty then return before else readInput input (before ++ block)

/-- The stamp of a run that starts now. -/
def stampNow : IO Stamp := do
  let seconds := (← Std.Time.Timestamp.now).toSecondsSinceUnixEpoch.val
  let bytes ← IO.getRandomBytes 16
  return Stamp.ofClock seconds.toNat bytes.toList

/-- Write files, and say whether all of them could be written. -/
def writeFiles (files : List WrittenFile) : IO Bool := do
  try
    for file in files do
      IO.FS.writeFile file.path file.content
    return true
  catch _ =>
    return false

/-- Print what was collected and give the exit code. -/
def finish (outcome : Outcome) : IO UInt32 := do
  (← IO.getStdout).putStr outcome.stdout
  (← IO.getStderr).putStr outcome.stderr
  match outcome.exit with
  | .ok code => return UInt32.ofNat code
  | .error mishap =>
    IO.eprintln (mishap.kind ++ ": " ++ mishap.message)
    return 1

/-- The file that the words ask to be run, and whether standard input is. -/
def programOf (words : List String) : Option String × Bool :=
  match CommandLine.parse words with
  | .ok (.run settings) => (settings.path, settings.path.isNone)
  | _ => (none, false)

/-- Answer a call with the files that are really there. -/
def run (words : List String) : IO UInt32 := do
  let stamp ← stampNow
  let (path, fromInput) := programOf words
  let bytes ← match path with
    | some path => readFile path
    | none => pure none
  let input ← if fromInput then readInput (← IO.getStdin) .empty else pure .empty
  let stdin := Utf8.decodeEscaping input.toList
  let read : String → Except FileError (List UInt8) := fun _ =>
    match bytes with
    | some content => .ok content
    | none => .error .missing
  let outcome := CommandLine.call words ⟨read, fun path => .ok (some path)⟩ stamp stdin
  if (← writeFiles outcome.written) then finish outcome
  else finish (CommandLine.call words ⟨read, fun _ => .error .missing⟩ stamp stdin)

end Palimpsest.Main

/-- Run a program from the command line. -/
def main (words : List String) : IO UInt32 :=
  Palimpsest.Main.run words
