import ComponentCompiler.Artifact
import ComponentCompiler.Dialect
import ComponentCompiler.Layout
import ComponentCompiler.Text.Basic

/-!
Targets: the frameworks that components are compiled to. A target knows its file names, how it writes a prop inside
markup, and how it turns a component into source text.
-/

namespace ComponentCompiler

open Text

/-- how many braces stand around a prop inside markup -/
inductive PropBraces where
  | single
  | double
  deriving DecidableEq, Repr

/-- how a target shapes the source of a component -/
structure Shape where
  dialect : Dialect
  layout : Layout
  handleModule : String
  deriving DecidableEq, Repr

/-- a target; without a shape the markup itself is the source -/
structure Target where
  name : String
  displayName : String
  files : FileNames
  braces : PropBraces := .single
  shape : Option Shape := none
  deriving DecidableEq, Repr

namespace Target

def react : Target where
  name := "react"
  displayName := "React"
  files := { component := "index.tsx" }
  shape := some ⟨.react, .jsx, "react"⟩

def astro : Target where
  name := "astro"
  displayName := "Astro"
  files := { component := "index.astro" }
  shape := some ⟨.astro, .astro, ""⟩

def preact : Target where
  name := "preact"
  displayName := "Preact"
  files := { component := "index.tsx" }
  shape := some ⟨.preact, .jsx, "preact/hooks"⟩

def vue : Target where
  name := "vue"
  displayName := "Vue"
  files := { component := "index.vue" }
  braces := .double
  shape := some ⟨.vue, .vue, "vue"⟩

def builtin : List Target := [react, astro, preact, vue]

/-- the expression that shows a prop inside markup -/
def placeholder (t : Target) (prop : String) : String :=
  match t.braces with
  | .single => "\x7b" ++ prop ++ "\x7d"
  | .double => "\x7b\x7b " ++ prop ++ " \x7d\x7d"

/-- the expressions of declared props, by name -/
def placeholders (t : Target) (props : Props) : List (String × String) :=
  props.names.map fun name => (name, t.placeholder name)

/-- what a layout is told about a component -/
def viewOf (shape : Shape) (c : Component) : View where
  identifier := c.identifier
  styles := c.styles.isSome
  script := c.script.isSome
  wired := c.isWired
  props := c.props.map Props.text
  handleModule := shape.handleModule

/-- a component's markup as a shape writes it -/
def markupOf (shape : Shape) (c : Component) : String :=
  shape.dialect.normalize c.markup c.tag c.interactive

def sourceOf (t : Target) (c : Component) : String :=
  match t.shape with
  | some shape => shape.layout.render (viewOf shape c) (markupOf shape c)
  | none => c.markup

def emit (t : Target) (c : Component) : Artifact :=
  Artifact.ofComponent c (t.sourceOf c) t.files

/-- the line that lists a target: name, framework, component file -/
def line (t : Target) : String :=
  padRight 8 t.name ++ " " ++ t.displayName ++ " (" ++ t.files.component ++ ")"

end Target

end ComponentCompiler
