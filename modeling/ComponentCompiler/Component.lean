import ComponentCompiler.Naming
import ComponentCompiler.Props

/-!
A component between its template and its target: markup, styles, script, name and props. It is built from its markup by
steps, each of which sets one aspect; a component is interactive exactly when its last script step brought a script.
-/

namespace ComponentCompiler

/-- a component that no target has shaped yet -/
structure Component where
  markup : String
  styles : Option String := none
  script : Option String := none
  interactive : Bool := false
  identifier : String := Naming.fallback
  tag : Option String := none
  props : Option Props := none
  deriving DecidableEq, Repr

namespace Component

/-- one step of building a component -/
inductive Step where
  | name (identifier : String) (tag : Option String)
  | styles (text : Option String)
  | script (text : Option String)
  | props (props : Option Props)
  deriving DecidableEq, Repr

def ofMarkup (markup : String) : Component :=
  { markup }

/-- one step; an empty identifier stands for the fallback -/
def set (c : Component) : Step → Component
  | .name identifier tag =>
    { c with identifier := if identifier.isEmpty then Naming.fallback else identifier, tag }
  | .styles text => { c with styles := text }
  | .script text => { c with script := text, interactive := text.isSome }
  | .props props => { c with props }

/-- the component after a list of steps -/
def build (markup : String) (steps : List Step) : Component :=
  steps.foldl set (ofMarkup markup)

/-- whether the component's element is bound to a handle: it has a script and an element of its own -/
def isWired (c : Component) : Bool :=
  c.interactive && c.tag.isSome

end Component

end ComponentCompiler
