import ComponentCompiler.Build
import ComponentCompiler.Registry
import ComponentCompiler.Settings
import ComponentCompiler.Text.Basic

/-!
The compile command: one source or all sources below a directory, printed in a dry run or written below an output root.
Two sources that would be written to one directory are refused before anything is written. A source that fails does not
stop the others.
-/

namespace ComponentCompiler.Command

open Text

/-- what is to be compiled, and how -/
structure Options where
  target : Option String := none
  source : Path
  output : Option Path := none
  props : Option Path := none
  debug : Bool := false
  deriving DecidableEq, Repr

/-- how a run ends well, or for want of a target -/
inductive Outcome where
  | compiled (count : Nat)
  | dryRun (count : Nat)
  | unsupportedTarget
  deriving DecidableEq, Repr

/-- two sources that lead to one component -/
structure Collision where
  first : Path
  second : Path
  identifier : String
  deriving DecidableEq, Repr

inductive Fault where
  | noTarget
  | propsForDirectory
  | noOutput
  | collision (c : Collision)
  | build (fault : Build.Fault)
  | failures (failed total : Nat)
  deriving Repr

def Fault.message : Fault → String
  | .noTarget => "No target given. Pass one (e.g. `webcc compile react`) or set [compile] target"
  | .propsForDirectory => "--props applies to a single component, not a directory of sources"
  | .noOutput => "--output is required unless --debug is set"
  | .collision c =>
    c.first.display ++ " and " ++ c.second.display ++ " both compile to component " ++ c.identifier ++
      "; rename one of them"
  | .build fault => fault.message
  | .failures failed total => toString failed ++ " of " ++ toString total ++ " component(s) failed to compile"

/-- the message for a fault and the messages of the faults behind it -/
def Fault.trail : Fault → List String
  | .build fault => fault.trail
  | fault => [fault.message]

/-- messages in one line, the faults behind a fault after it -/
def joinTrail (messages : List String) : String :=
  ": ".intercalate messages

/-- a failure of one source: in building it or in writing it -/
inductive SourceFault where
  | build (fault : Build.Fault)
  | write (identifier : String) (fault : Output.Fault)
  deriving Repr

def SourceFault.trail : SourceFault → List String
  | .build fault => fault.trail
  | .write identifier fault => ["Failed to write " ++ identifier, fault.message, fault.disk.message]

/-! ## The parts of a run -/

/-- the first source whose identifier an earlier one has, looked for among `later`; `seen` holds the earlier ones -/
def collisionAfter? (seen : List (String × Path)) : (later : List Path) → Option Collision
  | [] => none
  | source :: later =>
    let identifier := Naming.identifierOf source
    match seen.find? (·.1 == identifier) with
    | some (_, first) => some ⟨first, source, identifier⟩
    | none => collisionAfter? (seen ++ [(identifier, source)]) later

/-- two sources that lead to one component, if there are any -/
def collision? (sources : List Path) : Option Collision :=
  collisionAfter? [] sources

/-- what a dry run prints for a component -/
def dump (c : Component) (artifact : Artifact) (displayName : String) : String :=
  "\n".intercalate [
    "----HTML----", c.markup,
    "-----JS-----", c.script.getD "No JavaScript",
    "----CSS-----", c.styles.getD "No CSS",
    centre '-' 12 displayName.toUpper, artifact.source,
    "------------"]

/-- what is said about targets when one is not supported -/
def supportedNotice (r : Registry) : String :=
  "Sorry, webcc currently only supports the following targets:\n" ++
    "\n".intercalate (r.targets.map fun t => "- " ++ t.displayName)

/-- build a component and write it -/
def compileOne (target : Target) (props : Option Path) (output : Path) (source : Path) :
    ExceptT SourceFault Task Written := do
  let c ← (Build.component target source props).adapt SourceFault.build
  (Output.write (target.emit c) output).adapt (SourceFault.write c.identifier)

def report (source : Path) : Except SourceFault Written → Task Unit
  | .ok written => Task.note .info (source.display ++ " -> " ++ written.dir.display)
  | .error fault => Task.note .error ("Failed to compile " ++ source.display ++ ": " ++ joinTrail fault.trail)

/-- a source and how compiling it ended -/
abbrev Result := Path × Except SourceFault Written

def failureCount (results : List Result) : Nat :=
  results.countP fun (_, result) => !result.isOk

/-- the sources of a run -/
def sourcesFor (options : Options) : ExceptT Fault Task (List Path) := do
  if ← Task.isDirectory options.source then
    if options.props.isSome then throw .propsForDirectory
    (Build.discover options.source).adapt Fault.build
  else return [options.source]

/-- build and print one source -/
def preview (target : Target) (props : Option Path) (source : Path) : ExceptT Fault Task Unit := do
  Task.note .info ("Debugging [" ++ source.display ++ "]")
  let c ← (Build.component target source props).adapt Fault.build
  Task.print (dump c (target.emit c) target.displayName)

/-- build and print all sources; the first failure ends the run -/
def dryRun (target : Target) (props : Option Path) (sources : List Path) : ExceptT Fault Task Outcome := do
  sources.forM (preview target props)
  return .dryRun sources.length

/-- compile one of several sources -/
def attempt (target : Target) (props : Option Path) (output source : Path) : Task Result := do
  return (source, ← (compileOne target props output source).run)

/-- compile the sources side by side -/
def compileEach (target : Target) (props : Option Path) (output : Path) (sources : List Path) : Task (List Result) :=
  Task.gather (sources.map (attempt target props output))

/-- compile and write all sources -/
def realRun (target : Target) (props : Option Path) (output : Path) (sources : List Path) :
    ExceptT Fault Task Outcome := do
  if let some c := collision? sources then throw (.collision c)
  Task.note .info
    ("Compiling " ++ toString sources.length ++ " component(s) to " ++ target.displayName ++ "...")
  let results ← compileEach target props output sources
  results.forM fun (source, result) => report source result
  let failed := failureCount results
  if failed > 0 then throw (.failures failed sources.length)
  Task.note .info ("WebC to " ++ target.displayName ++ " compilation successful!")
  return .compiled sources.length

def runFor (target : Target) (options : Options) (settings : Settings) : ExceptT Fault Task Outcome := do
  let sources ← sourcesFor options
  if options.debug then dryRun target options.props sources
  else
    match options.output.or settings.output with
    | none => throw .noOutput
    | some output => realRun target options.props output sources

def run (options : Options) (settings : Settings) : ExceptT Fault Task Outcome := do
  match options.target.or settings.target with
  | none => throw .noTarget
  | some wanted =>
    match Registry.builtin.get wanted with
    | .ok target => runFor target options settings
    | .error e =>
      Task.note .error e.message
      Task.complain (supportedNotice .builtin)
      return .unsupportedTarget

end ComponentCompiler.Command
