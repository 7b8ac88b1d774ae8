import ComponentCompiler.Json.Reader

/-!
The props that a component declares: names with types, in the order of declaration. Types are texts of the target
language and are passed on as they are.

Declared props are read from a flat JSON object of names and type names. Only when the whole text is read are the values
looked at, in order, and the first one that is no string is refused.
-/

namespace ComponentCompiler

structure PropDecl where
  name : String
  type : String
  deriving DecidableEq, Repr

/-- declared props, in order; a name may be declared more than once -/
structure Props where
  decls : List PropDecl
  deriving DecidableEq, Repr

/-- props as they appear in a component's source: a type literal and a pattern that binds the names -/
structure PropsText where
  typeLiteral : String
  pattern : String
  deriving DecidableEq, Repr

namespace Props

def empty : Props := ⟨[]⟩

def push (props : Props) (decl : PropDecl) : Props :=
  ⟨props.decls ++ [decl]⟩

def names (props : Props) : List String :=
  props.decls.map (·.name)

/-- one field of the type literal -/
def field (decl : PropDecl) : String :=
  decl.name ++ ": " ++ decl.type ++ ";"

def text (props : Props) : PropsText where
  typeLiteral := "\x7b" ++ " ".intercalate (props.decls.map field) ++ "\x7d"
  pattern := "\x7b " ++ ", ".intercalate props.names ++ " \x7d"

/-! ## Reading -/

/-- why a text declares no props -/
inductive Fault where
  | json (fault : Json.Fault)
  | notAType (name : String) (found : Json.Value)
  deriving Repr

def Fault.message : Fault → String
  | .json fault => fault.message
  | .notAType name found => "prop '" ++ name ++ "' must map to a type name string, found " ++ found.text

/-- the declaration that a member makes -/
def declOf (member : String × Json.Value) : Except Fault PropDecl :=
  match member.2 with
  | .string type => .ok ⟨member.1, type⟩
  | found => .error (.notAType member.1 found)

def read (text : String) : Except Fault Props :=
  match Json.readObject text with
  | .error fault => .error (.json fault)
  | .ok members => (members.mapM declOf).map Props.mk

end Props

end ComponentCompiler
