import ComponentCompiler.Artifact
import ComponentCompiler.Task

/-!
Writing an artifact below an output root. Every component has a directory of its own; the directory is made first, then
the source is written, and then the stylesheet and the script if there are any, both at once. The first failure ends the
writing, and what was written before it stays. When the stylesheet or the script fails the other one may be under way:
then nobody waits for it, and it is still written, or not any more.
-/

namespace ComponentCompiler

/-- what was written for a component -/
structure Written where
  dir : Path
  component : Path
  styles : Option Path
  script : Option Path
  deriving DecidableEq, Repr

namespace Output

/-- why an artifact was not written -/
inductive Fault where
  | makeDirs (dir : Path) (fault : Disk.Fault)
  | writeText (path : Path) (fault : Disk.Fault)
  deriving DecidableEq, Repr

/-- the fault of the disk behind a fault -/
def Fault.disk : Fault → Disk.Fault
  | .makeDirs _ fault => fault
  | .writeText _ fault => fault

def Fault.message : Fault → String
  | .makeDirs dir fault => "Failed to create directory " ++ dir.display ++ ": " ++ fault.message
  | .writeText path fault => "Failed to write " ++ path.display ++ ": " ++ fault.message

def componentDir (root : Path) (identifier : String) : Path :=
  (root.join (.ofString "components")).join (.ofString identifier)

def makeDirs (dir : Path) : ExceptT Fault Task Unit := ExceptT.mk do
  match ← Task.makeDirs dir with
  | .ok () => return .ok ()
  | .error fault => return .error (.makeDirs dir fault)

def writeFile (path : Path) (text : String) : ExceptT Fault Task Unit := ExceptT.mk do
  match ← Task.writeText path text with
  | .ok () => return .ok ()
  | .error fault => return .error (.writeText path fault)

/-- write a file if there is a text for it -/
def writeOptional (dir : Path) (name : String) (text : Option String) : ExceptT Fault Task (Option Path) :=
  match text with
  | none => return none
  | some text => do
    let path := dir.join (.ofString name)
    writeFile path text
    return some path

/-- write an artifact below an output root -/
def write (artifact : Artifact) (root : Path) : ExceptT Fault Task Written := do
  let dir := componentDir root artifact.identifier
  makeDirs dir
  let component := dir.join (.ofString artifact.files.component)
  writeFile component artifact.source
  let (styles, script) ← Task.tryBoth (writeOptional dir artifact.files.styles artifact.styles)
    (writeOptional dir artifact.files.script artifact.script)
  Task.note .debug ("Wrote " ++ artifact.identifier ++ " to " ++ dir.display)
  return { dir, component, styles, script }

end Output

end ComponentCompiler
