import ComponentCompiler.Task
import ComponentCompiler.Toml.Document

/-!
The settings file: defaults for the compile command, in the section `compile` of a TOML document. A file that is not
there leaves everything open; other sections and other keys are of no concern.
-/

namespace ComponentCompiler

/-- defaults for the compile command -/
structure Settings where
  output : Option Path := none
  target : Option String := none
  deriving DecidableEq, Repr

namespace Settings

inductive Fault where
  | unread (path : Path)
  | malformed (path : Path)
  deriving DecidableEq, Repr

def Fault.message : Fault → String
  | .unread path => "Failed to read " ++ path.display
  | .malformed path => "Failed to parse " ++ path.display

/-- an optional text among the entries of a table: none if there is something else -/
def text? (entries : Toml.Entries) (key : String) : Option (Option String) :=
  match Toml.find? entries key with
  | none => some none
  | some (.string s) => some (some s)
  | some _ => none

/-- the settings of a section: a table, or an array that begins with output and target. A point in time counts as a
table without our keys. -/
def ofSection? : Toml.Value → Option Settings
  | .table _ entries => do
    let output ← text? entries "output"
    let target ← text? entries "target"
    return { output := output.map Path.ofString, target }
  | .array (.string output :: .string target :: _) =>
    some { output := some (Path.ofString output), target := some target }
  | .moment _ => some {}
  | _ => none

def ofText? (text : String) : Option Settings := do
  let entries ← Toml.read text
  match Toml.find? entries "compile" with
  | none => return {}
  | some found => ofSection? found

def report (path : Path) : String :=
  "Loaded config from " ++ path.display

def load (path : Path) : ExceptT Fault Task Settings := ExceptT.mk do
  if ← Task.isPresent path then
    match ← Task.readText path with
    | .error _ => return .error (.unread path)
    | .ok text =>
      match ofText? text with
      | none => return .error (.malformed path)
      | some settings =>
        Task.note .debug (report path)
        return .ok settings
  else return .ok {}

end Settings

end ComponentCompiler
