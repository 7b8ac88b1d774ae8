import ComponentCompiler.Component
import ComponentCompiler.Template
import ComponentCompiler.Text.Basic

/-!
From a compiled template to a component. The first stylesheet and all scripts are taken over; a script that registers a
custom element gets the markup wrapped in the component's own element, so that there is an element to upgrade.
-/

namespace ComponentCompiler.Component

open Text

def nonEmpty? (s : String) : Option String :=
  if s.isEmpty then none else some s

/-- the call that registers a custom element -/
def defineCall : String := "customElements.define"

/-- the stylesheet of a component: the first one -/
def stylesOf (t : Compiled) : Option String :=
  t.stylesheets.head?.bind fun s => nonEmpty? (trimmed s)

/-- the script of a component: all of them, one below the other -/
def scriptOf (t : Compiled) : Option String :=
  nonEmpty? (trimmed ("\n".intercalate t.scripts))

def definesElement (script : Option String) : Bool :=
  match script with
  | some s => mentions s defineCall
  | none => false

/-- markup inside an element of its own -/
def wrapIn (tag markup : String) : String :=
  "<" ++ tag ++ ">\n  " ++ markup ++ "\n</" ++ tag ++ ">"

/-- the markup of a component with a given name -/
def markupFor (name : Option ComponentName) (t : Compiled) : String :=
  let markup := trimmed t.markup
  match name with
  | some name => if definesElement (scriptOf t) then wrapIn name.tag markup else markup
  | none => markup

/-- the steps that make a component out of a compiled template -/
def stepsFor (name : Option ComponentName) (t : Compiled) (props : Option Props) : List Step :=
  let naming :=
    match name with
    | some name => [Step.name name.identifier (some name.tag)]
    | none => []
  naming ++ [.styles (stylesOf t), .script (scriptOf t), .props props]

/-- the component that a source path, its compiled template and its props make -/
def assemble (path : Path) (t : Compiled) (props : Option Props) : Component :=
  let name := Naming.ofPath? path
  build (markupFor name t) (stepsFor name t props)

@[simp]
theorem assemble_styles (path : Path) (t : Compiled) (props : Option Props) :
    (assemble path t props).styles = stylesOf t := by
  cases h : Naming.ofPath? path <;> simp [assemble, build, stepsFor, set, h]

@[simp]
theorem assemble_script (path : Path) (t : Compiled) (props : Option Props) :
    (assemble path t props).script = scriptOf t := by
  cases h : Naming.ofPath? path <;> simp [assemble, build, stepsFor, set, h]

end ComponentCompiler.Component
