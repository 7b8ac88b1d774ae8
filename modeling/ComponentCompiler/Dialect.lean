import ComponentCompiler.Text.Basic

/-!
Dialects of markup. Targets differ in the attribute that carries classes and in the attribute that binds the component's
own element to a handle.
-/

namespace ComponentCompiler

open Text

/-- how a target writes markup -/
structure Dialect where
  classAttribute : String
  bindingAttribute : String
  deriving DecidableEq, Repr

namespace Dialect

def react : Dialect := ⟨"className=", "ref=\x7bwc\x7d"⟩

def preact : Dialect := ⟨"class=", "ref=\x7bwc\x7d"⟩

def astro : Dialect := ⟨"class=", "data-wc"⟩

def vue : Dialect := ⟨"class=", "ref=\"wc\""⟩

def bareTag (tag : String) : String :=
  "<" ++ tag ++ ">"

def boundTag (d : Dialect) (tag : String) : String :=
  "<" ++ tag ++ " " ++ d.bindingAttribute ++ ">"

/-- the markup with the dialect's class attribute -/
def withClasses (d : Dialect) (markup : String) : String :=
  replaced "class=" d.classAttribute markup

/-- the markup with the component's own element bound -/
def bind (d : Dialect) (tag markup : String) : String :=
  replaced (bareTag tag) (d.boundTag tag) markup

/-- markup in a dialect: class attributes first, then, for an interactive component with a tag, its own element -/
def normalize (d : Dialect) (markup : String) (tag : Option String) (interactive : Bool) : String :=
  let markup := d.withClasses markup
  match tag with
  | some tag => if interactive then d.bind tag markup else markup
  | none => markup

end Dialect

end ComponentCompiler
