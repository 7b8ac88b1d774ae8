import ComponentCompiler.Path

/-!
The state of a disk: a finite map from places to entries. A place is the list of names that leads to it from the root;
the root itself is always a directory. Relative paths start at the working directory.

What has become different on a disk are files that are new or hold something else, and directories that are new. Links
do not count.
-/

namespace ComponentCompiler

namespace Disk

inductive Fault where
  | notFound
  | alreadyExists
  | notADirectory
  | isADirectory
  | nameTooLong
  | tooManyLinks
  | nulOctet
  | notText
  | refused (reason : String)
  deriving DecidableEq, Repr

def Fault.message : Fault → String
  | .notFound => "No such file or directory (os error 2)"
  | .alreadyExists => "File exists (os error 17)"
  | .notADirectory => "Not a directory (os error 20)"
  | .isADirectory => "Is a directory (os error 21)"
  | .nameTooLong => "File name too long (os error 36)"
  | .tooManyLinks => "Too many levels of symbolic links (os error 40)"
  | .nulOctet => "file name contained an unexpected NUL byte"
  | .notText => "stream did not contain valid UTF-8"
  | .refused reason => reason

/-- a place on the disk: the names from the root down -/
abbrev Place := List Name

/-- what can stand at a place -/
inductive Entry where
  | file (content : List UInt8)
  | directory
  | link (target : Path)
  deriving DecidableEq, Repr

end Disk

/-- a disk and the place of the working directory -/
structure Disk where
  entries : List (Disk.Place × Disk.Entry)
  workingDir : Disk.Place
  deriving DecidableEq, Repr

namespace Disk

def entry? (d : Disk) (place : Place) : Option Entry :=
  if place.isEmpty then some .directory else (d.entries.find? (·.1 == place)).map (·.2)

/-- the disk with an entry at a place, in the stead of what was there -/
def put (d : Disk) (place : Place) (entry : Entry) : Disk :=
  { d with entries := (place, entry) :: d.entries.filter (·.1 != place) }

def children (d : Disk) (place : Place) : List (Name × Entry) :=
  d.entries.filterMap fun (other, entry) =>
    match other.getLast? with
    | some name => if other.dropLast == place then some (name, entry) else none
    | none => none

/-! ## Changes -/

/-- a path below some place, and the content of a file or nothing for a directory -/
structure Change where
  path : Path
  content : Option (List UInt8)
  deriving DecidableEq, Repr

/-- the names below a place as a path -/
def pathOf (names : List Name) : Path :=
  match names with
  | [] => ⟨[]⟩
  | first :: rest => ⟨first ++ rest.flatMap (Path.slash :: ·)⟩

/-- an entry that was not there before, or not like this -/
def changeAt (before : Disk) (base place : Place) (entry : Entry) : Option Change :=
  if base.isPrefixOf place && place != base && before.entry? place != some entry then
    match entry with
    | .file content => some ⟨pathOf (place.drop base.length), some content⟩
    | .directory => some ⟨pathOf (place.drop base.length), none⟩
    | .link _ => none
  else none

/-- the changes below a place, in the order of their paths -/
def changes (before after : Disk) (base : Place) : List Change :=
  (after.entries.filterMap fun (place, entry) => changeAt before base place entry).mergeSort fun a b =>
    Path.octetsLe a.path.octets b.path.octets

end Disk

end ComponentCompiler
