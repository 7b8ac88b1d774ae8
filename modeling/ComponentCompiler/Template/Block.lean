import ComponentCompiler.Text.Basic
import ComponentCompiler.Text.Fold
import ComponentCompiler.Text.Word

/-!
Style and script blocks of a template. A block is an opening tag, a body and the first closing tag after it; names are
read without regard to case. The name of an opening tag ends where no word character follows, and the tag ends with the
first `>` after its name. `firstBlock` is the block at the first place of a text where one stands.
-/

namespace ComponentCompiler.Template

open Text

inductive BlockKind where
  | style
  | script
  deriving DecidableEq, Repr

/-- the name of the element, in small letters -/
def BlockKind.word : BlockKind → List Char
  | .style => "style".toList
  | .script => "script".toList

/-- a block as written -/
structure Block where
  opening : List Char
  body : List Char
  closing : List Char
  deriving DecidableEq, Repr

def Block.text (b : Block) : List Char :=
  b.opening ++ b.body ++ b.closing

/-- whether a word could end before this text -/
def endsWord : List Char → Bool
  | [] => true
  | c :: _ => !isWord c

/-- up to and with the first `>`, and what follows it -/
def throughAngle : List Char → Option (List Char × List Char)
  | [] => none
  | c :: rest =>
    if c == '>' then some ([c], rest)
    else (throughAngle rest).map fun (taken, after) => (c :: taken, after)

/-- the beginning of an opening tag, up to the end of its name, and what follows it -/
def tagStart? (kind : BlockKind) (text : List Char) : Option (List Char × List Char) :=
  match foldedStart? ('<' :: kind.word) text with
  | none => none
  | some (name, after) => if endsWord after then some (name, after) else none

/-- an opening tag at the beginning of the text, and what follows it -/
def opening? (kind : BlockKind) (text : List Char) : Option (List Char × List Char) :=
  match tagStart? kind text with
  | none => none
  | some (name, afterName) => (throughAngle afterName).map fun (attributes, after) => (name ++ attributes, after)

/-- a closing tag at the beginning of the text, and what follows it -/
def closing? (kind : BlockKind) (text : List Char) : Option (List Char × List Char) :=
  foldedStart? ('<' :: '/' :: kind.word ++ ['>']) text

/-- up to the first closing tag: the body, the tag, and what follows it -/
def untilClosing (kind : BlockKind) : List Char → Option (List Char × List Char × List Char)
  | [] => none
  | c :: rest =>
    match closing? kind (c :: rest) with
    | some (closing, after) => some ([], closing, after)
    | none => (untilClosing kind rest).map fun (body, closing, after) => (c :: body, closing, after)

/-- a block at the beginning of the text, and what follows it -/
def blockAt? (kind : BlockKind) (text : List Char) : Option (Block × List Char) :=
  match opening? kind text with
  | none => none
  | some (opening, afterOpening) =>
    (untilClosing kind afterOpening).map fun (body, closing, after) => (⟨opening, body, closing⟩, after)

/-- the first block of a text: what stands before it, the block, and what follows it -/
def firstBlock (kind : BlockKind) : List Char → Option (List Char × Block × List Char)
  | [] => none
  | c :: rest =>
    match blockAt? kind (c :: rest) with
    | some (block, after) => some ([], block, after)
    | none => (firstBlock kind rest).map fun (before, block, after) => (c :: before, block, after)

/-- the characters up to the first `>` and what follows it make up the text -/
theorem throughAngle_eq {text taken after : List Char} (h : throughAngle text = some (taken, after)) :
    text = taken ++ after := by
  induction text generalizing taken with
  | nil => simp [throughAngle] at h
  | cons c rest ih =>
    by_cases hc : c == '>'
    · simp [throughAngle, hc] at h
      simp [← h.1, h.2]
    · simp only [throughAngle, hc, Bool.false_eq_true, if_false, Option.map_eq_some_iff, Prod.exists,
        Prod.mk.injEq] at h
      obtain ⟨taken', after', h', rfl, rfl⟩ := h
      rw [ih h', List.cons_append]

/-- the beginning of a tag is a word in any case -/
theorem tagStart?_eq_some {kind : BlockKind} {text name after : List Char}
    (h : tagStart? kind text = some (name, after)) :
    foldedStart? ('<' :: kind.word) text = some (name, after) := by
  unfold tagStart? at h
  split at h
  · simp at h
  · next name' after' hname =>
    split at h
    · rw [hname]
      exact h
    · simp at h

/-- the opening tag and what follows it make up the text -/
theorem opening?_eq {kind : BlockKind} {text opening after : List Char}
    (h : opening? kind text = some (opening, after)) : text = opening ++ after ∧ opening ≠ [] := by
  unfold opening? at h
  split at h
  · simp at h
  · next name afterName hstart =>
    have hname := tagStart?_eq_some hstart
    simp only [Option.map_eq_some_iff, Prod.exists, Prod.mk.injEq] at h
    obtain ⟨attributes, after', h', rfl, rfl⟩ := h
    have hlen := foldedStart?_length hname
    refine ⟨by rw [foldedStart?_eq hname, throughAngle_eq h', List.append_assoc], ?_⟩
    intro hnil
    rw [List.append_eq_nil_iff] at hnil
    simp [hnil.1] at hlen

/-- the body, the closing tag and what follows it make up the text -/
theorem untilClosing_eq {kind : BlockKind} {text body closing after : List Char}
    (h : untilClosing kind text = some (body, closing, after)) : text = body ++ closing ++ after := by
  induction text generalizing body with
  | nil => simp [untilClosing] at h
  | cons c rest ih =>
    unfold untilClosing at h
    split at h
    · next closing' after' hclose =>
      simp only [Option.some.injEq, Prod.mk.injEq] at h
      obtain ⟨rfl, rfl, rfl⟩ := h
      simpa using foldedStart?_eq hclose
    · simp only [Option.map_eq_some_iff, Prod.exists, Prod.mk.injEq] at h
      obtain ⟨body', closing', after', h', rfl, rfl, rfl⟩ := h
      rw [ih h']
      simp

/-- a block and what follows it make up the text -/
theorem blockAt?_eq {kind : BlockKind} {text after : List Char} {block : Block}
    (h : blockAt? kind text = some (block, after)) : text = block.text ++ after ∧ block.opening ≠ [] := by
  unfold blockAt? at h
  split at h
  · simp at h
  · next opening afterOpening hopen =>
    simp only [Option.map_eq_some_iff, Prod.exists, Prod.mk.injEq] at h
    obtain ⟨body, closing, after', h', rfl, rfl⟩ := h
    have ho := opening?_eq hopen
    refine ⟨?_, ho.2⟩
    rw [ho.1, untilClosing_eq h']
    simp [Block.text]

/-- what stands before the first block, the block, and what follows it make up the text -/
theorem firstBlock_eq {kind : BlockKind} {text before after : List Char} {block : Block}
    (h : firstBlock kind text = some (before, block, after)) :
    text = before ++ block.text ++ after ∧ block.opening ≠ [] := by
  induction text generalizing before with
  | nil => simp [firstBlock] at h
  | cons c rest ih =>
    unfold firstBlock at h
    split at h
    · next block' after' hblock =>
      simp only [Option.some.injEq, Prod.mk.injEq] at h
      obtain ⟨rfl, rfl, rfl⟩ := h
      simpa using blockAt?_eq hblock
    · simp only [Option.map_eq_some_iff, Prod.exists, Prod.mk.injEq] at h
      obtain ⟨before', block', after', h', rfl, rfl, rfl⟩ := h
      have := ih h'
      exact ⟨by rw [this.1]; simp, this.2⟩

/-- what follows a block is shorter than the text -/
theorem firstBlock_length {kind : BlockKind} {text before after : List Char} {block : Block}
    (h : firstBlock kind text = some (before, block, after)) : after.length < text.length := by
  obtain ⟨heq, hne⟩ := firstBlock_eq h
  have : 0 < block.opening.length := List.length_pos_iff.2 hne
  rw [heq]
  simp [Block.text]
  omega

def endsName : List Char → Bool
  | [] => true
  | c :: _ => isBlank c || c == '/' || c == '>'

/-- the name of an opening tag at the beginning of the text, as written -/
def openName? (kind : BlockKind) (text : List Char) : Option (List Char) :=
  match foldedStart? ('<' :: kind.word) text with
  | some (written, after) => if endsName after then some (written.drop 1) else none
  | none => none

/-- the name of the first opening tag of either kind, as written -/
def firstOpenName : List Char → Option (List Char)
  | [] => none
  | c :: rest =>
    match openName? .style (c :: rest) with
    | some name => some name
    | none =>
      match openName? .script (c :: rest) with
      | some name => some name
      | none => firstOpenName rest

end ComponentCompiler.Template
