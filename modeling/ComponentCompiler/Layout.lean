import ComponentCompiler.Text.Quoted
import ComponentCompiler.Props

/-!
Layouts of component sources. A layout is the text before and the text after the markup, in chunks: each chunk is a text
or a slot for a value, and appears only if the component has what the chunk needs. Values are put in as they are.
-/

namespace ComponentCompiler

open Text

/-- what a layout knows of a component besides its markup -/
structure View where
  identifier : String
  styles : Bool
  script : Bool
  wired : Bool
  props : Option PropsText
  handleModule : String
  deriving DecidableEq, Repr

namespace Layout

/-- what a chunk can depend on -/
inductive Need where
  | styles
  | script
  | wired
  | props
  deriving DecidableEq, Repr

/-- what a chunk can show -/
inductive Content where
  | text (s : String)
  | identifier
  | handleModule
  | propsType
  | propsPattern
  deriving DecidableEq, Repr

/-- a piece of a layout and what it needs -/
structure Chunk where
  needs : List Need
  content : Content
  deriving DecidableEq, Repr

end Layout

/-- the text around the markup -/
structure Layout where
  before : List Layout.Chunk
  after : List Layout.Chunk
  deriving DecidableEq, Repr

namespace Layout

def Need.met (view : View) : Need → Bool
  | .styles => view.styles
  | .script => view.script
  | .wired => view.wired
  | .props => view.props.isSome

def Content.render (view : View) : Content → String
  | .text s => s
  | .identifier => view.identifier
  | .handleModule => view.handleModule
  | .propsType => (view.props.map (·.typeLiteral)).getD ""
  | .propsPattern => (view.props.map (·.pattern)).getD ""

/-- the text of a chunk: empty if something is missing -/
def Chunk.render (view : View) (chunk : Chunk) : String :=
  if chunk.needs.all (Need.met view) then chunk.content.render view else ""

def renderChunks (view : View) (chunks : List Chunk) : String :=
  String.join (chunks.map (Chunk.render view))

def render (layout : Layout) (view : View) (markup : String) : String :=
  renderChunks view layout.before ++ markup ++ renderChunks view layout.after

/-- a text that always appears -/
def always (s : String) : Chunk := ⟨[], .text s⟩

/-- the identifier, always -/
def named : Chunk := ⟨[], .identifier⟩

/-- contents that share their needs -/
def given (needs : List Need) (contents : List Content) : List Chunk :=
  contents.map fun content => ⟨needs, content⟩

def propsTypeLine : List Content :=
  [.text "\ntype ", .identifier, .text "Props = ", .propsType, .text ";\n"]

/-- the first line of every component -/
def notice : String := "This component was auto-generated from a WebC template"

/-- function components of the JSX family -/
def jsx : Layout where
  before :=
    [always ("// " ++ notice ++ "\n")] ++
    given [.styles] [.text "import \"./index.css\";\n"] ++
    given [.script] [.text "import \"./web-component.js\";\n"] ++
    given [.wired] [.text "import \x7b useRef \x7d from \"", .handleModule, .text "\";\n"] ++
    given [.props] propsTypeLine ++
    [always "\nexport const ", named, always " = ("] ++
    given [.props] [.propsPattern, .text ": ", .identifier, .text "Props"] ++
    [always ") => \x7b\n"] ++
    given [.wired] [.text "  const wc = useRef(null);\n\n"] ++
    [always "  return (\n    <>\n      "]
  after := [always "\n    </>\n  );\n\x7d;\n\nexport default ", named, always ";\n"]

/-- components with a fenced head -/
def astro : Layout where
  before :=
    [always ("---\n// " ++ notice ++ "\n")] ++
    given [.styles] [.text "import \"./index.css\";\n"] ++
    given [.props] (propsTypeLine ++
      [.text "const ", .propsPattern, .text " = Astro.props as ", .identifier, .text "Props;\n"]) ++
    [always "---\n\n"]
  after :=
    [always "\n"] ++
    given [.script] [.text "\n<script>\n  import \"./web-component.js\";\n"] ++
    given [.script, .wired] [.text "\n  const wc = document.querySelector(\"[data-wc]\");\n"] ++
    given [.script] [.text "</script>\n"]

/-- single file components with a setup script -/
def vue : Layout where
  before :=
    [always ("<!-- " ++ notice ++ " -->\n<script setup lang=\"ts\">\n")] ++
    given [.script] [.text "import \"./web-component.js\";\n"] ++
    given [.wired] [.text "import \x7b ref \x7d from \"", .handleModule, .text "\";\n"] ++
    [always "\ndefineOptions(\x7b name: \"", named, always "\" \x7d);\n"] ++
    given [.props] (propsTypeLine ++
      [.text "const ", .propsPattern, .text " = defineProps<", .identifier, .text "Props>();\n"]) ++
    given [.wired] [.text "\nconst wc = ref(null);\n"] ++
    [always "</script>\n\n<template>\n  "]
  after :=
    [always "\n</template>\n"] ++
    given [.styles] [.text "\n<style src=\"./index.css\"></style>\n"]

structure Unknown where
  name : String
  deriving DecidableEq, Repr

def Unknown.message (u : Unknown) : String :=
  "template not found: template " ++ quoted u.name ++ " does not exist"

/-- the layout of a target, by the target's exact name -/
def named? (name : String) : Except Unknown Layout :=
  if name == "react" || name == "preact" then .ok jsx
  else if name == "astro" then .ok astro
  else if name == "vue" then .ok vue
  else .error ⟨name⟩

end Layout

end ComponentCompiler
