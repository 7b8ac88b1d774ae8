import ComponentCompiler.Assembly
import ComponentCompiler.Output
import ComponentCompiler.Props
import ComponentCompiler.Target

/-!
Building one component: read its source and its props, compile the template, and assemble the component.
-/

namespace ComponentCompiler.Build

/-- why a component was not built -/
inductive Fault where
  | sourceUnread (source : Path) (fault : Disk.Fault)
  | propsUnread (path : Path) (fault : Disk.Fault)
  | propsRefused (path : Path) (fault : Props.Fault)
  | templateRefused (source : Path) (fault : Template.Unterminated)
  deriving Repr

def Fault.message : Fault → String
  | .sourceUnread source fault => "Failed to read source " ++ source.display ++ ": " ++ fault.message
  | .propsUnread path fault => "Failed to read props file " ++ path.display ++ ": " ++ fault.message
  | .propsRefused path fault => "Failed to parse props file " ++ path.display ++ ": " ++ fault.message
  | .templateRefused source fault => "Failed to compile " ++ source.display ++ ": " ++ fault.message

/-- the message for a fault and the messages of the faults behind it -/
def Fault.trail (f : Fault) : List String :=
  match f with
  | .sourceUnread _ fault => [f.message, fault.message]
  | .propsUnread _ fault => [f.message, fault.message]
  | _ => [f.message]

def readSource (source : Path) : ExceptT Fault Task String := ExceptT.mk do
  match ← Task.readText source with
  | .ok text => return .ok text
  | .error fault => return .error (.sourceUnread source fault)

def parseProps (path : Path) (text : String) : Except Fault Props :=
  match Props.read text with
  | .ok props => .ok props
  | .error fault => .error (.propsRefused path fault)

def loadProps (path : Path) : ExceptT Fault Task Props := ExceptT.mk do
  match ← Task.readText path with
  | .ok text => return parseProps path text
  | .error fault => return .error (.propsUnread path fault)

def loadOptionalProps (path : Option Path) : ExceptT Fault Task (Option Props) :=
  match path with
  | none => return none
  | some path => return some (← loadProps path)

def compileTemplate (source : Path) (text : String) (data : Option (List (String × String))) :
    Except Fault Compiled :=
  match Template.compile source text data with
  | .ok compiled => .ok compiled
  | .error fault => .error (.templateRefused source fault)

/-- the report on a compiled template -/
def compiledReport (source : Path) (compiled : Compiled) : String :=
  "Compiled " ++ source.display ++ " (" ++ toString compiled.stylesheets.length ++ " stylesheets, " ++
    toString compiled.scripts.length ++ " scripts)"

/-- the report on a source that gives no name -/
def namelessReport (source : Path) : String :=
  "No component name in " ++ source.display ++ ", falling back to " ++ Naming.fallback

/-- build the component of a source for a target -/
def component (target : Target) (source : Path) (propsPath : Option Path) : ExceptT Fault Task Component := do
  let text ← readSource source
  let props ← loadOptionalProps propsPath
  let compiled ← ExceptT.mk (pure (compileTemplate source text (props.map target.placeholders)))
  Task.note .debug (compiledReport source compiled)
  if (Naming.ofPath? source).isNone then
    Task.note .debug (namelessReport source)
  return Component.assemble source compiled props

/-- the sources below a directory -/
def discover (dir : Path) : ExceptT Fault Task (List Path) := ExceptT.mk do
  if ← Task.isDirectory dir then
    return .ok (← Task.sourcesBelow dir)
  else
    return .error (.sourceUnread dir (.refused "not a directory"))

end ComponentCompiler.Build
