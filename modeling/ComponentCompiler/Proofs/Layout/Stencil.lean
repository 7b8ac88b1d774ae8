import ComponentCompiler.Proofs.Text
import ComponentCompiler.Layout

/-!
Stencils: layouts as they are written down, with the markup in its place.

A stencil is a text with marks. `{{ name }}` shows a value, and what stands between `{% if name %}` and `{% endif %}`
appears only if the component has what is named. A mark of the second kind takes the line break behind it along, and the
blanks before it if nothing else stands before it on its line. Everything else is text, up to the last line break.

`Stencil.read?` reads such a text. A stencil shows each value as it is (`Stencil.render`), so a layout whose pieces are
those of a stencil renders to the same source (`render_eq_of_pieces`). The layouts of the targets are those of the
stencils `jsxText`, `astroText` and `vueText`.
-/

namespace ComponentCompiler.Layout

open Text

/-- what a stencil shows at a place -/
inductive Slot where
  | content (c : Content)
  | markup
  deriving DecidableEq, Repr

/-- a layout with the markup in its place -/
inductive Stencil where
  | done
  | shown (slot : Slot) (rest : Stencil)
  | given (need : Need) (body rest : Stencil)
  deriving DecidableEq, Repr

def Slot.render (view : View) (markup : String) : Slot → String
  | .content c => c.render view
  | .markup => markup

namespace Stencil

def render (view : View) (markup : String) : Stencil → String
  | .done => ""
  | .shown slot rest => slot.render view markup ++ rest.render view markup
  | .given need body rest => (if need.met view then body.render view markup else "") ++ rest.render view markup

/-! ## Reading a stencil -/

/-- a character of the text, or what stands between the braces of a mark -/
inductive Sign where
  | char (c : Char)
  | value (inner : List Char)
  | block (inner : List Char)
  deriving DecidableEq, Repr

/-- the kinds of marks, by the character inside the braces -/
inductive Kind where
  | value
  | block
  deriving DecidableEq, Repr

/-- the signs of a text; inside a mark, its kind and what was read of it, in reverse -/
def signs? : Option (Kind × List Char) → List Char → Option (List Sign)
  | none, [] => some []
  | some _, [] => none
  | none, '{' :: '{' :: rest => signs? (some (.value, [])) rest
  | none, '{' :: '%' :: rest => signs? (some (.block, [])) rest
  | none, c :: rest => (signs? none rest).map (.char c :: ·)
  | some (.value, inner), '}' :: '}' :: rest => (signs? none rest).map (.value inner.reverse :: ·)
  | some (.block, inner), '%' :: '}' :: rest => (signs? none rest).map (.block inner.reverse :: ·)
  | some (kind, inner), c :: rest => signs? (some (kind, c :: inner)) rest

/-- the signs without the blanks before a block that begins its line; `indent` holds the blanks that the line began
with, none if it has begun with something else -/
def outdent : (indent : Option (List Char)) → List Sign → List Sign
  | indent, [] => (indent.getD []).map .char
  | _, .block inner :: rest => .block inner :: outdent none rest
  | indent, .value inner :: rest => (indent.getD []).map .char ++ .value inner :: outdent none rest
  | indent, .char c :: rest =>
    if c == '\n' then (indent.getD []).map .char ++ .char c :: outdent (some []) rest
    else
      match indent with
      | some blanks =>
        if c == ' ' || c == '\t' then outdent (some (blanks ++ [c])) rest
        else blanks.map .char ++ .char c :: outdent none rest
      | none => .char c :: outdent none rest

/-- the signs without the line break behind a block -/
def closeUp : List Sign → List Sign
  | .block inner :: .char '\n' :: rest => .block inner :: closeUp rest
  | sign :: rest => sign :: closeUp rest
  | [] => []

/-- what a name in a value mark stands for -/
def slotNames : List (String × Slot) :=
  [("identifier", .content .identifier), ("handle_module", .content .handleModule),
   ("props.type_decl", .content .propsType), ("props.param_pattern", .content .propsPattern), ("markup", .markup)]

/-- what a name in a block stands for -/
def needNames : List (String × Need) :=
  [("if styles", .styles), ("if script", .script), ("if wired", .wired), ("if props", .props)]

/-- put a sign before the stencils that are being made, innermost first, from the end of the text on -/
def put? : Sign → List Stencil → Option (List Stencil)
  | .char c, .shown (.content (.text s)) rest :: outer =>
    some (.shown (.content (.text (String.ofList [c] ++ s))) rest :: outer)
  | .char c, rest :: outer => some (.shown (.content (.text (String.ofList [c]))) rest :: outer)
  | .value inner, rest :: outer => do
    let slot ← slotNames.lookup (String.ofList (trim inner))
    return .shown slot rest :: outer
  | .block inner, stencils =>
    let words := String.ofList (trim inner)
    if words == "endif" then some (.done :: stencils)
    else
      match stencils with
      | body :: rest :: outer => do
        let need ← needNames.lookup words
        return .given need body rest :: outer
      | _ => none
  | _, [] => none

def read? (text : List Char) : Option Stencil := do
  let signs ← signs? none text
  match ← (closeUp (outdent (some []) signs)).foldrM put? [.done] with
  | [stencil] => return stencil
  | _ => none

end Stencil

/-! ## The stencils of the targets -/

/-- lines, each with its line break -/
def textOf (lines : List String) : List Char :=
  lines.flatMap fun line => line.toList ++ ['\n']

def jsxText : List Char :=
  textOf
    ["// This component was auto-generated from a WebC template",
      "\x7b% if styles %\x7d",
      "import \"./index.css\";",
      "\x7b% endif %\x7d",
      "\x7b% if script %\x7d",
      "import \"./web-component.js\";",
      "\x7b% endif %\x7d",
      "\x7b% if wired %\x7d",
      "import \x7b useRef \x7d from \"\x7b\x7b handle_module \x7d\x7d\";",
      "\x7b% endif %\x7d",
      "\x7b% if props %\x7d",
      "",
      "type \x7b\x7b identifier \x7d\x7dProps = \x7b\x7b props.type_decl \x7d\x7d;",
      "\x7b% endif %\x7d",
      "",
      "export const \x7b\x7b identifier \x7d\x7d = (\x7b% if props %\x7d\x7b\x7b props.param_pattern \x7d\x7d: " ++
        "\x7b\x7b identifier \x7d\x7dProps\x7b% endif %\x7d) => \x7b",
      "\x7b% if wired %\x7d",
      "  const wc = useRef(null);",
      "",
      "\x7b% endif %\x7d",
      "  return (",
      "    <>",
      "      \x7b\x7b markup \x7d\x7d",
      "    </>",
      "  );",
      "\x7d;",
      "",
      "export default \x7b\x7b identifier \x7d\x7d;"]

def astroText : List Char :=
  textOf
    ["---",
      "// This component was auto-generated from a WebC template",
      "\x7b% if styles %\x7d",
      "import \"./index.css\";",
      "\x7b% endif %\x7d",
      "\x7b% if props %\x7d",
      "",
      "type \x7b\x7b identifier \x7d\x7dProps = \x7b\x7b props.type_decl \x7d\x7d;",
      "const \x7b\x7b props.param_pattern \x7d\x7d = Astro.props as \x7b\x7b identifier \x7d\x7dProps;",
      "\x7b% endif %\x7d",
      "---",
      "",
      "\x7b\x7b markup \x7d\x7d",
      "\x7b% if script %\x7d",
      "",
      "<script>",
      "  import \"./web-component.js\";",
      "\x7b% if wired %\x7d",
      "",
      "  const wc = document.querySelector(\"[data-wc]\");",
      "\x7b% endif %\x7d",
      "</script>",
      "\x7b% endif %\x7d"]

def vueText : List Char :=
  textOf
    ["<!-- This component was auto-generated from a WebC template -->",
      "<script setup lang=\"ts\">",
      "\x7b% if script %\x7d",
      "import \"./web-component.js\";",
      "\x7b% endif %\x7d",
      "\x7b% if wired %\x7d",
      "import \x7b ref \x7d from \"\x7b\x7b handle_module \x7d\x7d\";",
      "\x7b% endif %\x7d",
      "",
      "defineOptions(\x7b name: \"\x7b\x7b identifier \x7d\x7d\" \x7d);",
      "\x7b% if props %\x7d",
      "",
      "type \x7b\x7b identifier \x7d\x7dProps = \x7b\x7b props.type_decl \x7d\x7d;",
      "const \x7b\x7b props.param_pattern \x7d\x7d = defineProps<\x7b\x7b identifier \x7d\x7dProps>();",
      "\x7b% endif %\x7d",
      "\x7b% if wired %\x7d",
      "",
      "const wc = ref(null);",
      "\x7b% endif %\x7d",
      "</script>",
      "",
      "<template>",
      "  \x7b\x7b markup \x7d\x7d",
      "</template>",
      "\x7b% if styles %\x7d",
      "",
      "<style src=\"./index.css\"></style>",
      "\x7b% endif %\x7d"]

/-! ## Stencils and layouts -/

/-- a place and all that it needs -/
structure Piece where
  needs : List Need
  slot : Slot
  deriving DecidableEq, Repr

def Piece.render (view : View) (markup : String) (piece : Piece) : String :=
  if piece.needs.all (Need.met view) then piece.slot.render view markup else ""

def renderPieces (view : View) (markup : String) (pieces : List Piece) : String :=
  String.join (pieces.map (Piece.render view markup))

/-- the places of a stencil, one after the other, inside of what is needed -/
def Stencil.pieces (needs : List Need) : Stencil → List Piece
  | .done => []
  | .shown slot rest => ⟨needs, slot⟩ :: rest.pieces needs
  | .given need body rest => body.pieces (needs ++ [need]) ++ rest.pieces needs

def Chunk.piece (chunk : Chunk) : Piece :=
  ⟨chunk.needs, .content chunk.content⟩

def pieces (layout : Layout) : List Piece :=
  layout.before.map Chunk.piece ++ ⟨[], .markup⟩ :: layout.after.map Chunk.piece

/-- one more place at the front; texts that stand side by side become one -/
def attach (piece : Piece) : List Piece → List Piece
  | [] => [piece]
  | next :: rest =>
    match piece.slot, next.slot with
    | .content (.text s), .content (.text t) =>
      if piece.needs = next.needs then ⟨piece.needs, .content (.text (s ++ t))⟩ :: rest else piece :: next :: rest
    | _, _ => piece :: next :: rest

/-- the same places with as few texts as possible -/
def joined (pieces : List Piece) : List Piece :=
  pieces.foldr attach []

section Render

variable (view : View) (markup : String)

@[simp]
theorem renderPieces_cons (piece : Piece) (rest : List Piece) :
    renderPieces view markup (piece :: rest) = piece.render view markup ++ renderPieces view markup rest := by
  simp [renderPieces, String.join_cons]

@[simp]
theorem renderPieces_append (front back : List Piece) :
    renderPieces view markup (front ++ back) = renderPieces view markup front ++ renderPieces view markup back := by
  simp [renderPieces, String.join_append]

theorem renderPieces_attach (piece : Piece) (rest : List Piece) :
    renderPieces view markup (attach piece rest) = piece.render view markup ++ renderPieces view markup rest := by
  cases rest with
  | nil => simp [attach]
  | cons next rest =>
    obtain ⟨needs, slot⟩ := piece
    obtain ⟨needs', slot'⟩ := next
    simp only [attach]
    split
    · split
      · rename_i hneeds
        obtain rfl : needs = needs' := hneeds
        by_cases hmet : needs.all (Need.met view)
        · simp [Piece.render, hmet, Slot.render, Content.render, String.append_assoc]
        · simp [Piece.render, hmet]
      · simp
    · simp

theorem renderPieces_joined (pieces : List Piece) :
    renderPieces view markup (joined pieces) = renderPieces view markup pieces := by
  induction pieces with
  | nil => rfl
  | cons piece rest ih =>
    rw [renderPieces_cons, ← ih]
    exact renderPieces_attach view markup piece (joined rest)

/-- the places inside of needs are a stencil that appears if they are met -/
theorem renderPieces_stencil (stencil : Stencil) (needs : List Need) :
    renderPieces view markup (stencil.pieces needs) =
      if needs.all (Need.met view) then stencil.render view markup else "" := by
  induction stencil generalizing needs with
  | done =>
    rw [Stencil.pieces, Stencil.render, ite_self]
    rfl
  | shown slot rest ih =>
    by_cases hmet : needs.all (Need.met view) <;> simp [Stencil.pieces, Stencil.render, Piece.render, ih, hmet]
  | given need body rest ihbody ihrest =>
    by_cases hmet : needs.all (Need.met view) <;>
      simp [Stencil.pieces, Stencil.render, ihbody, ihrest, hmet, List.all_append]

theorem renderPieces_chunks (chunks : List Chunk) :
    renderPieces view markup (chunks.map Chunk.piece) = renderChunks view chunks := by
  rw [renderPieces, renderChunks, List.map_map]
  rfl

theorem renderPieces_layout (layout : Layout) :
    renderPieces view markup layout.pieces = layout.render view markup := by
  rw [pieces, renderPieces_append, renderPieces_cons, renderPieces_chunks, renderPieces_chunks, render,
    String.append_assoc]
  rfl

/-- **A layout renders as its stencil.** -/
theorem render_eq_of_pieces {layout : Layout} {stencil : Stencil} (h : stencil.pieces [] = joined layout.pieces) :
    layout.render view markup = stencil.render view markup := by
  calc
    layout.render view markup = renderPieces view markup layout.pieces := (renderPieces_layout view markup layout).symm
    _ = renderPieces view markup (joined layout.pieces) := (renderPieces_joined view markup layout.pieces).symm
    _ = renderPieces view markup (stencil.pieces []) := by rw [h]
    _ = stencil.render view markup := renderPieces_stencil view markup stencil []

end Render

def IsStencilOf (text : List Char) (layout : Layout) : Prop :=
  (Stencil.read? text).map (·.pieces []) = some (joined layout.pieces)

instance (text : List Char) (layout : Layout) : Decidable (IsStencilOf text layout) :=
  inferInstanceAs (Decidable (_ = _))

theorem isStencilOf_jsx : IsStencilOf jsxText jsx := by decide +kernel

theorem isStencilOf_astro : IsStencilOf astroText astro := by decide +kernel

theorem isStencilOf_vue : IsStencilOf vueText vue := by decide +kernel

end ComponentCompiler.Layout
