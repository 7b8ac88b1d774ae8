import ComponentCompiler.CommandLine
import ComponentCompiler.Discovery

/-!
The program: the words of the command line, the real file system and the standard streams. Everything that is decided is
decided in `CommandLine.execute`; here its requests are passed on.
-/

namespace ComponentCompiler.Main

open Text

/-- a failure of the file system as a fault of the disk -/
def faultOf : IO.Error → Disk.Fault
  | .noFileOrDirectory .. => .notFound
  | .alreadyExists .. => .alreadyExists
  | .inappropriateType _ code _ => if code == 20 then .notADirectory else .isADirectory
  | .invalidArgument _ code details =>
    if code == 36 then .nameTooLong else if code == 40 then .tooManyLinks else .refused details
  | failure => .refused (toString failure)

/-- do something with the file system -/
def attempt {α : Type} (action : IO α) : IO (Except Disk.Fault α) := do
  match ← action.toBaseIO with
  | .ok result => return .ok result
  | .error failure => return .error (faultOf failure)

def readText (p : Path) : IO (Except Disk.Fault String) := do
  match ← attempt (IO.FS.readBinFile p.display) with
  | .error fault => return .error fault
  | .ok content =>
    match Utf8.decode? content.toList with
    | some text => return .ok text
    | none => return .error .notText

def isPresent (p : Path) : IO Bool := do
  return (← attempt (IO.FS.realPath p.display)).isOk

def isDirectory (p : Path) : IO Bool := do
  match ← attempt (IO.FS.realPath p.display) with
  | .ok real => real.isDir
  | .error _ => return false

/-- the names that lead to an absolute path -/
def placeOf (real : String) : Disk.Place :=
  (Path.ofString real).parts.filterMap fun part =>
    match part with
    | .entry name => some name
    | _ => none

def withDirs (disk : Disk) (place : Disk.Place) : Disk :=
  (List.range place.length).foldl (fun disk n => disk.put (place.take (n + 1)) .directory) disk

/-- what is known of the file system: the directories that were looked through, and what was found -/
structure Survey where
  seen : List Disk.Place
  disk : Disk

/-- look through a directory, given by its absolute path, and through the directories below it and behind its links -/
partial def survey (known : Survey) (dir : String) : IO Survey := do
  let place := placeOf dir
  if known.seen.contains place then return known
  let mut known : Survey := { seen := place :: known.seen, disk := withDirs known.disk place }
  match ← attempt (do (← IO.FS.realPath dir).readDir) with
  | .error _ => return known
  | .ok entries =>
    for entry in entries do
      let here := place ++ [(Path.ofString entry.fileName).octets]
      match ← attempt (IO.FS.realPath entry.path) with
      | .error _ => pure ()
      | .ok real =>
        let there := placeOf real.toString
        if ← real.isDir then known ← survey known real.toString
        else known := { known with disk := (withDirs known.disk there.dropLast).put there (.file []) }
        if here != there then
          known := { known with disk := known.disk.put here (.link (.ofString real.toString)) }
    return known

/-- the sources below a directory: found below its absolute path and told from the path as given -/
def sourcesBelow (dir : Path) : IO (List Path) := do
  match ← attempt (IO.FS.realPath dir.display) with
  | .error _ => return []
  | .ok real =>
    let base := Path.ofString real.toString
    let known ← survey { seen := [], disk := { entries := [], workingDir := [] } } real.toString
    let skipped := if base.octets == [Path.slash] then 1 else base.octets.length + 1
    return (Discovery.sources known.disk base).map fun p => dir.join ⟨p.octets.drop skipped⟩

/-- the file system and the standard streams as a host -/
def host (shows : Level → Bool) : Host IO
  | .readText p => readText p
  | .isPresent p => isPresent p
  | .isDirectory p => isDirectory p
  | .sourcesBelow dir => sourcesBelow dir
  | .makeDirs p => attempt (IO.FS.createDirAll p.display)
  | .writeText p text => attempt (IO.FS.writeFile p.display text)
  | .note entry => do if shows entry.level then IO.println entry.line
  | .print line => IO.println line
  | .complain line => IO.eprintln line

end ComponentCompiler.Main

open ComponentCompiler in
/-- run the command line; one that is not understood ends with exit code 2 -/
def main (words : List String) : IO UInt32 := do
  match CommandLine.parse words with
  | .ok invocation =>
    let code ← (CommandLine.execute invocation).runIn (Main.host invocation.shows)
    return code.toUInt32
  | .error _ =>
    CommandLine.usageLines.forM fun line => IO.eprintln line
    return 2
