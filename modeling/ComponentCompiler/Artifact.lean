import ComponentCompiler.Component

/-!
What a target makes of a component: the texts of up to three files and their names. The script is guarded, so that it
runs only where custom elements exist.
-/

namespace ComponentCompiler

structure FileNames where
  component : String
  styles : String := "index.css"
  script : String := "web-component.js"
  deriving DecidableEq, Repr

/-- the files of one component -/
structure Artifact where
  source : String
  styles : Option String
  script : Option String
  identifier : String
  files : FileNames
  deriving DecidableEq, Repr

namespace Artifact

/-- a script that runs only where custom elements exist -/
def guardScript (script : String) : String :=
  "if (typeof window !== \"undefined\" && (\"customElements\" in window)) \x7b\n" ++ script ++ "\n\x7d\n"

/-- the artifact of a component with a given source text -/
def ofComponent (c : Component) (source : String) (files : FileNames) : Artifact where
  source
  styles := c.styles
  script := c.script.map guardScript
  identifier := c.identifier
  files

end Artifact

end ComponentCompiler
