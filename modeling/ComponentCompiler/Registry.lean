import ComponentCompiler.Target
import ComponentCompiler.Text.LowerCase

/-!
The registry of targets. A target registered under a name that is taken replaces the older one and goes to the end. A
lookup compares the lower case of what is wanted with the registered names as they are.
-/

namespace ComponentCompiler

open Text

/-- targets, in the order of their registration -/
structure Registry where
  targets : List Target
  deriving DecidableEq, Repr

/-- a target was asked for that is not registered -/
structure UnsupportedTarget where
  target : String
  supported : List String
  deriving DecidableEq, Repr

def UnsupportedTarget.message (e : UnsupportedTarget) : String :=
  "Unsupported target '" ++ e.target ++ "' (supported: " ++ ", ".intercalate e.supported ++ ")"

namespace Registry

def empty : Registry := ⟨[]⟩

/-- add a target at the end, in place of one with exactly its name -/
def register (r : Registry) (t : Target) : Registry :=
  ⟨r.targets.filter (fun other => other.name != t.name) ++ [t]⟩

/-- the registry after a list of registrations -/
def registerAll (r : Registry) (ts : List Target) : Registry :=
  ts.foldl register r

def builtin : Registry :=
  empty.registerAll Target.builtin

def names (r : Registry) : List String :=
  r.targets.map (·.name)

/-- the target whose name is the lower case of what is wanted -/
def get (r : Registry) (wanted : String) : Except UnsupportedTarget Target :=
  match r.targets.find? fun t => t.name == lowercase wanted with
  | some t => .ok t
  | none => .error ⟨wanted, r.names⟩

/-- whether a lookup succeeds -/
def contains (r : Registry) (wanted : String) : Bool :=
  (r.get wanted).isOk

def lines (r : Registry) : List String :=
  r.targets.map Target.line

end Registry

end ComponentCompiler
