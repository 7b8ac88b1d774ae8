import ComponentCompiler.Template.Search

/-!
A template cut at its blocks of one kind. `split` takes the first block, then the first block of what follows it, and so
on; the pieces it gives are the whole text again, in order.
-/

namespace ComponentCompiler.Template

open Text

/-- a text cut at its blocks of one kind: each block with what stands before it, and what is left at the end -/
structure Pieces where
  blocks : List (List Char × Block)
  rest : List Char
  deriving DecidableEq, Repr

/-- cut a text at its blocks of one kind, from left to right -/
def split (kind : BlockKind) (text : List Char) : Pieces :=
  match _h : findBlock kind text with
  | none => ⟨[], text⟩
  | some (before, block, after) =>
    let later := split kind after
    ⟨(before, block) :: later.blocks, later.rest⟩
termination_by text.length
decreasing_by exact firstBlock_length (findBlock_eq kind text ▸ _h)

/-- the text that the pieces were cut from -/
def Pieces.text (p : Pieces) : List Char :=
  p.blocks.flatMap (fun (before, block) => before ++ block.text) ++ p.rest

/-- the text without the blocks -/
def Pieces.outside (p : Pieces) : List Char :=
  p.blocks.flatMap (·.1) ++ p.rest

/-- the bodies of the blocks, trimmed, without the blank ones -/
def Pieces.bodies (p : Pieces) : List (List Char) :=
  (p.blocks.map fun (_, block) => trim block.body).filter (!·.isEmpty)

/-- cutting loses nothing -/
theorem split_text (kind : BlockKind) (text : List Char) : (split kind text).text = text := by
  fun_induction split kind text with
  | case1 text h => simp [Pieces.text]
  | case2 text before block after h later ih =>
    have heq := (firstBlock_eq (findBlock_eq kind text ▸ h)).1
    simp only [Pieces.text] at ih
    simp only [Pieces.text, List.flatMap_cons]
    rw [List.append_assoc, ih, heq]

end ComponentCompiler.Template
