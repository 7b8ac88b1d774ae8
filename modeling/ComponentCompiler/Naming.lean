import ComponentCompiler.Path

/-!
Names of components. A component is called after its source file: `cards/user-card.webc` has the tag `user-card` and the
identifier `UserCard`. A path that names no source below a directory leaves the component with the fallback identifier.
-/

namespace ComponentCompiler

open Text

/-- what a component is called: in code and as an element -/
structure ComponentName where
  identifier : String
  tag : String
  deriving DecidableEq, Repr

namespace Naming

/-- the identifier of a component without a name of its own -/
def fallback : String := "Component"

/-- the pieces between the dashes -/
def dashPieces : List Char → List (List Char)
  | [] => [[]]
  | c :: rest =>
    if c == '-' then [] :: dashPieces rest
    else
      match dashPieces rest with
      | piece :: more => (c :: piece) :: more
      | [] => [[c]]

/-- the text with its first letter large and the others small; only ASCII letters change -/
def capitalize : List Char → List Char
  | [] => []
  | c :: rest => c.toUpper :: rest.map Char.toLower

/-- a dashed text as an identifier: the pieces capitalized, without the dashes -/
def pascalChars (text : List Char) : List Char :=
  (dashPieces text).flatMap capitalize

def pascal (s : String) : String :=
  String.ofList (pascalChars s.toList)

def sourceEnding : List Char := ".webc".toList

/-- the last segment of a text that reads `.../segment.webc`, if the segment is not empty -/
def segment? (text : List Char) : Option (List Char) :=
  if sourceEnding.isSuffixOf text then
    let stem := text.take (text.length - sourceEnding.length)
    let segment := (stem.reverse.takeWhile (· != '/')).reverse
    if stem.contains '/' && !segment.isEmpty then some segment else none
  else none

/-- the name that a path text gives to its component -/
def derive? (path : String) : Option ComponentName :=
  (segment? path.toList).map fun segment => ⟨String.ofList (pascalChars segment), String.ofList segment⟩

/-- the text of a path with slashes for backslashes -/
def slashed (p : Path) : String :=
  String.ofList (p.display.toList.map fun c => if c == '\\' then '/' else c)

/-- the name that a path gives to its component -/
def ofPath? (p : Path) : Option ComponentName :=
  derive? (slashed p)

def identifierOf (p : Path) : String :=
  match ofPath? p with
  | some name => name.identifier
  | none => fallback

end Naming

end ComponentCompiler
