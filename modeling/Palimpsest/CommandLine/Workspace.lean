import Palimpsest.Text.Utf8

/-!
# Workspaces

A workspace is what the command line can see of the files around it: what they
hold, and where new ones can be written. `Workspace.ofFiles` makes one from a
list of files, whose directories exist exactly when something lies in them.
Around the files lies a system of which little is known: the directories above
the workspace, the usual directories under the root, and the devices that
swallow what is written to them or have no room for it.
-/

namespace Palimpsest

/-- Why a file cannot be read or written. -/
inductive FileError
  | missing
  | isDirectory
  | notADirectory
  | nameTooLong
  | noSpace
  | nullCharacter
  deriving DecidableEq, Repr

namespace FileError

/-- The name of a file error in reports. -/
def kindName : FileError → String
  | .missing => "FileNotFoundError"
  | .isDirectory => "IsADirectoryError"
  | .notADirectory => "NotADirectoryError"
  | .nameTooLong => "OSError"
  | .noSpace => "OSError"
  | .nullCharacter => "ValueError"

/-- A reason with the path it is about. -/
def about (reason path : String) : String :=
  reason ++ ": " ++ String.ofList (Text.quoted path.toList)

/-- The wording of a file error, with the path it is about. -/
def message (error : FileError) (path : String) : String :=
  match error with
  | .missing => about "[Errno 2] No such file or directory" path
  | .isDirectory => about "[Errno 21] Is a directory" path
  | .notADirectory => about "[Errno 20] Not a directory" path
  | .nameTooLong => about "[Errno 36] File name too long" path
  | .noSpace => "[Errno 28] No space left on device"
  | .nullCharacter => "embedded null byte"

/-- Whether an error just means that there is no such file. -/
def isAbsence : FileError → Bool
  | .missing => true
  | .notADirectory => true
  | .nullCharacter => true
  | _ => false

end FileError

/-- What can be seen of the files around. -/
structure Workspace where
  /-- The bytes of a file, or why it cannot be read. -/
  read : String → Except FileError (List UInt8)
  /-- Where a file turns up that is written at a path, or why it cannot be. There
  is no name for what was there before or lies outside. -/
  write : String → Except FileError (Option String)

namespace Path

/-- The parts of a path between its slashes. Empty parts and single dots mean
nothing and are left out. -/
def parts (path : String) : List String :=
  ((path.toList.splitOn '/').map String.ofList).filter fun part => part != "" && part != "."

/-- The slashes that a path begins with. Two of them are kept; more mean the same
as one. -/
def root (path : String) : String :=
  match (path.toList.takeWhile (· == '/')).length with
  | 0 => ""
  | 2 => "//"
  | _ => "/"

/-- A path without the parts that mean nothing. -/
def normalize (path : String) : String :=
  let shown := root path ++ "/".intercalate (parts path)
  if shown.isEmpty then "." else shown

/-- The last part of a path. -/
def name (path : String) : String :=
  (parts path).getLast?.getD ""

end Path

namespace Workspace

/-- Files by their parts, with what they hold. -/
abbrev Listing := List (List String × List UInt8)

/-- A place in the system. -/
inductive Place
  /-- In the workspace. -/
  | inside (parts : List String)
  /-- Below a directory that lies so many levels above the workspace. -/
  | above (levels : Nat) (parts : List String)
  /-- Below the root. -/
  | system (parts : List String)
  deriving DecidableEq, Repr

/-- What there is at a place. -/
inductive Entry
  | file (bytes : List UInt8)
  | directory
  /-- It swallows what is written to it. -/
  | sink
  /-- It has no room for anything. -/
  | full
  /-- A file can be put here. -/
  | free
  /-- There is nothing and can be nothing. -/
  | nothing
  deriving DecidableEq, Repr

/-- The usual directories under the root. -/
def systemDirectories : List (List String) :=
  [[], ["bin"], ["dev"], ["etc"], ["home"], ["lib"], ["opt"], ["proc"], ["root"], ["run"],
   ["sbin"], ["sys"], ["tmp"], ["usr"], ["var"]]

/-- The devices that swallow what is written to them. -/
def sinks : List (List String) := [["dev", "null"], ["dev", "zero"]]

/-- The device that has no room. -/
def fullDevice : List String := ["dev", "full"]

/-- The directory of running processes, in which nothing can be put. -/
def processDirectory : List String := ["proc"]

/-- Whether a directory with the given parts exists: the whole workspace, or one
with something in it. -/
def isDirectory (files : Listing) (parts : List String) : Bool :=
  parts.isEmpty ||
    files.any fun file => parts.isPrefixOf file.1 && decide (parts.length < file.1.length)

/-- What there is at a place below the root. -/
def systemEntry (parts : List String) : Entry :=
  if systemDirectories.contains parts then .directory
  else if sinks.contains parts then .sink
  else if parts = fullDevice then .full
  else if processDirectory.isPrefixOf parts then .nothing
  else if systemDirectories.contains parts.dropLast then .free
  else .nothing

/-- What there is at a place, of which only the last name may be new. -/
def entryAt (files : Listing) : Place → Entry
  | .inside parts =>
    match files.lookup parts with
    | some bytes => .file bytes
    | none => if isDirectory files parts then .directory else .free
  | .above _ parts => if parts.isEmpty then .directory else .free
  | .system parts => systemEntry parts

namespace Place

/-- The directory that a place lies in. The root lies in itself. -/
def parent : Place → Place
  | .inside [] => .above 1 []
  | .inside parts => .inside parts.dropLast
  | .above levels [] => .above (levels + 1) []
  | .above levels parts => .above levels parts.dropLast
  | .system parts => .system parts.dropLast

/-- The place of the given name in a directory. -/
def child (name : String) : Place → Place
  | .inside parts => .inside (parts ++ [name])
  | .above levels parts => .above levels (parts ++ [name])
  | .system parts => .system (parts ++ [name])

/-- The name of a place in the workspace. -/
def name? : Place → Option String
  | .inside parts => some ("/".intercalate parts)
  | _ => none

end Place

/-- How many bytes a name can have. -/
def longestName : Nat := 255

/-- How many bytes a path can have. -/
def longestPath : Nat := 4095

/-- Follow the parts of a path from a place; two dots lead back up. -/
def follow (files : Listing) : Place → List String → Except FileError Place
  | place, [] => .ok place
  | place, part :: rest =>
    match entryAt files place with
    | .directory =>
      if part = ".." then follow files place.parent rest
      else if longestName < part.utf8ByteSize then .error .nameTooLong
      else follow files (place.child part) rest
    | .free => .error .missing
    | .nothing => .error .missing
    | _ => .error .notADirectory

/-- The place that a path leads to. -/
def resolve (files : Listing) (path : String) : Except FileError Place :=
  if path.toList.contains (Char.ofNat 0) then .error .nullCharacter
  else if longestPath < (Path.normalize path).utf8ByteSize then .error .nameTooLong
  else
    let start : Place := if (Path.root path).isEmpty then .inside [] else .system []
    follow files start (Path.parts path)

/-- The bytes of a file, or why it cannot be read. -/
def readFrom (files : Listing) (path : String) : Except FileError (List UInt8) :=
  match resolve files path with
  | .error error => .error error
  | .ok place =>
    match entryAt files place with
    | .file bytes => .ok bytes
    | .directory => .error .isDirectory
    | _ => .error .missing

/-- Where a file turns up that is written at a path, or why it cannot be. -/
def writeTo (files : Listing) (path : String) : Except FileError (Option String) :=
  match resolve files path with
  | .error error => .error error
  | .ok place =>
    match entryAt files place with
    | .directory => .error .isDirectory
    | .nothing => .error .missing
    | .full => .error .noSpace
    | .free => .ok place.name?
    | _ => .ok none

/-- The workspace of a list of files. -/
def ofFiles (files : List (String × List UInt8)) : Workspace :=
  let listing := files.map fun file => (Path.parts file.1, file.2)
  ⟨readFrom listing, writeTo listing⟩

end Workspace

end Palimpsest
