import ComponentCompiler.Path
import ComponentCompiler.Template.Pieces
import ComponentCompiler.Template.Token
import ComponentCompiler.Text.LowerCase

/-!
Compiling a template: style and script blocks are taken out of the text, and values are filled in for placeholder
tokens. Styles and scripts are both looked for in the whole text; the markup is what remains when first the style blocks
and then, in what is left, the script blocks are taken out. A block that is opened and not closed is refused.
-/

namespace ComponentCompiler

open Text

/-- a template taken apart, and the sources that took part in it -/
structure Compiled where
  markup : String
  stylesheets : List String
  scripts : List String
  sources : List Path
  deriving DecidableEq, Repr

namespace Template

/-- a block is opened and not closed -/
structure Unterminated where
  name : String
  deriving DecidableEq, Repr

def Unterminated.message (e : Unterminated) : String :=
  "unterminated <" ++ e.name ++ "> block"

/-- the bodies of the blocks of a kind, trimmed, without the blank ones -/
def extract (kind : BlockKind) (text : List Char) : List String :=
  (split kind text).bodies.map String.ofList

def remove (kind : BlockKind) (text : List Char) : List Char :=
  (split kind text).outside

/-- the text without any block: styles go first -/
def strip (text : List Char) : List Char :=
  remove .script (remove .style text)

/-- compile the template of a source; without data the tokens stay as they are -/
def compile (source : Path) (content : String) (data : Option (List (String × String))) :
    Except Unterminated Compiled :=
  let markup := strip content.toList
  match firstOpenName markup with
  | some name => .error ⟨lowercase (String.ofList name)⟩
  | none =>
    let filled :=
      match data with
      | some data => substitute data markup
      | none => markup
    .ok {
      markup := String.ofList filled
      stylesheets := extract .style content.toList
      scripts := extract .script content.toList
      sources := [source] }

end Template

end ComponentCompiler
