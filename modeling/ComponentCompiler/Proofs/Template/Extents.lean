import ComponentCompiler.Proofs.LowerCase
import ComponentCompiler.Proofs.Template.Lookalikes

/-!
Where blocks stand, said by places alone.

An extent gives the place where a block begins, the place of the `>` that ends its opening tag, and the place where its
closing tag begins. `Extent.IsIn` says which characters a text has to have at these places and between them; nothing in
it speaks of a search. `Sweep` says which extents a text has from left to right: each begins at the first place behind
the one before it where a block stands.

- `Extent.IsIn.unique`: one block at most begins at a place.
- `IsBlock.isIn`, `Extent.IsIn.isSome_blockAt?`: the extents are those of the blocks that the search at a place finds.
- `Sweep.unique`, `sweep_found`: there is one sweep, that of the matches.

`extract_and_remove_sweep` says that extraction and removal both go by this one sweep.
-/

namespace ComponentCompiler.Template

open Text

/-! ## Words and their ends at places -/

/-- a word stands at the place, in any case -/
def StandsAt (word text : List Char) (i : Nat) : Prop :=
  word <+: (text.drop i).map foldChar

instance (word text : List Char) (i : Nat) : Decidable (StandsAt word text i) :=
  inferInstanceAs (Decidable (word <+: (text.drop i).map foldChar))

def wordAt (text : List Char) (i : Nat) : Bool :=
  text[i]?.any isWord

/-- whether a word character stands before the place -/
def wordBefore (text : List Char) : Nat → Bool
  | 0 => false
  | i + 1 => wordAt text i

/-- a word begins or ends at the place -/
def IsBoundary (text : List Char) (i : Nat) : Prop :=
  wordBefore text i ≠ wordAt text i

instance (text : List Char) (i : Nat) : Decidable (IsBoundary text i) :=
  inferInstanceAs (Decidable (wordBefore text i ≠ wordAt text i))

theorem standsAt_iff {word text : List Char} {i : Nat} :
    StandsAt word text i ↔ ∃ written after, text.drop i = written ++ after ∧ written.map foldChar = word := by
  constructor
  · rintro ⟨rest, hrest⟩
    obtain ⟨written, after, htext, hword, -⟩ := List.map_eq_append_iff.1 hrest.symm
    exact ⟨written, after, htext, hword⟩
  · rintro ⟨written, after, htext, rfl⟩
    rw [StandsAt, htext, List.map_append]
    exact List.prefix_append _ _

theorem not_standsAt_iff {word text : List Char} {i : Nat} :
    ¬ StandsAt word text i ↔ foldedStart? word (text.drop i) = none := by
  rw [Option.eq_none_iff_forall_ne_some, standsAt_iff]
  simp only [ne_eq, Prod.forall, foldedStart?_eq_some_iff, not_exists]

theorem StandsAt.getElem? {word text : List Char} {i : Nat} (h : StandsAt word text i) {k : Nat}
    (hk : k < word.length) :
    text[i + k]?.map foldChar = word[k]? := by
  obtain ⟨written, after, htext, rfl⟩ := standsAt_iff.1 h
  rw [List.length_map] at hk
  rw [← List.getElem?_drop, htext, List.getElem?_append_left hk, List.getElem?_map]

/-- the other forms of a letter are letters too -/
theorem isWord_foldChar (c : Char) : isWord (foldChar c) = isWord c := by
  unfold foldChar
  split_ifs with hs hk
  · rw [← Char.ofNat_toNat c, beq_iff_eq.1 hs]
    decide
  · rw [← Char.ofNat_toNat c, beq_iff_eq.1 hk]
    decide +kernel
  · exact apply_toLower isWord (by decide) c

/-- the name of a kind ends with a word character -/
theorem wordBefore_of_standsAt {kind : BlockKind} {text : List Char} {i : Nat} (h : StandsAt kind.openWord text i) :
    wordBefore text (i + kind.openWord.length) = true := by
  obtain ⟨k, w, hlength, hw, hword⟩ : ∃ k w, kind.openWord.length = k + 1 ∧ kind.openWord[k]? = some w ∧
      isWord w = true := by
    cases kind
    · exact ⟨5, 'e', by decide, by decide, by decide⟩
    · exact ⟨6, 't', by decide, by decide, by decide⟩
  have hlast := h.getElem? (k := k) (by omega)
  rw [hw, Option.map_eq_some_iff] at hlast
  obtain ⟨c, hc, rfl⟩ := hlast
  rw [hlength, ← Nat.add_assoc, wordBefore, wordAt, hc]
  simpa [isWord_foldChar] using hword

theorem endsWord_drop (text : List Char) (i : Nat) : endsWord (text.drop i) = !wordAt text i := by
  rw [wordAt, ← List.head?_drop]
  cases text.drop i <;> rfl

/-- behind the name of a kind a boundary is where the word ends -/
theorem isBoundary_iff {kind : BlockKind} {text : List Char} {i : Nat} (h : StandsAt kind.openWord text i) :
    IsBoundary text (i + kind.openWord.length) ↔ endsWord (text.drop (i + kind.openWord.length)) = true := by
  rw [IsBoundary, wordBefore_of_standsAt h, endsWord_drop]
  cases wordAt text (i + kind.openWord.length) <;> decide

example : StandsAt BlockKind.style.openWord "a<ſTYLE-b>".toList 1 ∧ IsBoundary "a<ſTYLE-b>".toList 7 ∧
    ¬ IsBoundary "a<styles>".toList 7 := by
  decide

/-! ## Extents -/

/-- where the parts of a block stand: its beginning, the `>` of its opening tag, and its closing tag -/
structure Extent where
  start : Nat
  angle : Nat
  closing : Nat
  deriving DecidableEq, Repr

namespace Extent

/-- the place behind the closing tag -/
def stop (kind : BlockKind) (e : Extent) : Nat :=
  e.closing + kind.closeWord.length

def span (kind : BlockKind) (e : Extent) : Span :=
  ⟨e.start, e.stop kind⟩

/-- the characters between the `>` and the closing tag -/
def body (e : Extent) (text : List Char) : List Char :=
  (Span.mk (e.angle + 1) e.closing).slice text

/-- a block of a kind has this extent in a text: its name stands before a boundary, the `>` is the first one behind the
name, and the closing tag is the first one behind the `>` -/
structure IsIn (kind : BlockKind) (text : List Char) (e : Extent) : Prop where
  name : StandsAt kind.openWord text e.start
  boundary : IsBoundary text (e.start + kind.openWord.length)
  angle_behind : e.start + kind.openWord.length ≤ e.angle
  angle : text[e.angle]? = some '>'
  angle_first : ∀ i, e.start + kind.openWord.length ≤ i → i < e.angle → text[i]? ≠ some '>'
  closing_behind : e.angle < e.closing
  closing : StandsAt kind.closeWord text e.closing
  closing_first : ∀ i, e.angle < i → i < e.closing → ¬ StandsAt kind.closeWord text i

namespace IsIn

variable {kind : BlockKind} {text : List Char} {e e' : Extent}

theorem angle_le (h : e.IsIn kind text) (h' : e'.IsIn kind text) (hstart : e.start = e'.start) :
    e.angle ≤ e'.angle := by
  by_contra hlt
  exact h.angle_first e'.angle (hstart ▸ h'.angle_behind) (Nat.lt_of_not_le hlt) h'.angle

theorem closing_le (h : e.IsIn kind text) (h' : e'.IsIn kind text) (hangle : e.angle = e'.angle) :
    e.closing ≤ e'.closing := by
  by_contra hlt
  exact h.closing_first e'.closing (hangle ▸ h'.closing_behind) (Nat.lt_of_not_le hlt) h'.closing

/-- one block at most begins at a place -/
theorem unique (h : e.IsIn kind text) (h' : e'.IsIn kind text) (hstart : e.start = e'.start) : e = e' := by
  have hangle : e.angle = e'.angle := Nat.le_antisymm (h.angle_le h' hstart) (h'.angle_le h hstart.symm)
  have hclosing : e.closing = e'.closing := Nat.le_antisymm (h.closing_le h' hangle) (h'.closing_le h hangle.symm)
  cases e
  cases e'
  rw [Extent.mk.injEq]
  exact ⟨hstart, hangle, hclosing⟩

end IsIn

end Extent

/-! ### Extents and blocks -/

/-- a text from a place on is what it has up to a later place, and the text from there on -/
theorem drop_eq_slice_append (text : List Char) {i j : Nat} (h : i ≤ j) :
    text.drop i = (Span.mk i j).slice text ++ text.drop j := by
  obtain ⟨n, rfl⟩ := Nat.exists_eq_add_of_le h
  rw [Span.slice, Nat.add_sub_cancel_left, ← List.drop_drop, List.take_append_drop]

theorem foldedStart?_of_quiet {word rest part : List Char} (h : Quiet word rest part) {k : Nat} (hk : k < part.length) :
    foldedStart? word (part.drop k ++ rest) = none := by
  induction part generalizing k with
  | nil => exact absurd hk (Nat.not_lt_zero k)
  | cons c part ih =>
    cases k with
    | zero => exact h.1
    | succ k => exact ih h.2 (Nat.lt_of_succ_lt_succ hk)

def Match.extent (m : Match) : Extent :=
  ⟨m.start, m.start + (m.block.opening.length - 1), m.closingStart⟩

section

variable {kind : BlockKind} {text : List Char} {m : Match}

/-- a block where it stands has its extent there -/
theorem IsBlock.isIn (hblock : IsBlock kind m.block) (htext : text.drop m.start = m.block.text ++ text.drop m.stop) :
    m.extent.IsIn kind text := by
  obtain ⟨⟨name, front, hopening, hname, hfront, hword⟩, hclosing, hbody⟩ := hblock
  have hlength : name.length = kind.openWord.length := by rw [← hname, List.length_map]
  have hat : text.drop m.start = name ++ (front ++ '>' :: (m.block.body ++ (m.block.closing ++ text.drop m.stop))) := by
    rw [htext, Block.text, hopening]
    simp
  have hbehind : text.drop (m.start + kind.openWord.length) =
      front ++ '>' :: (m.block.body ++ (m.block.closing ++ text.drop m.stop)) := by
    rw [← hlength, ← List.drop_drop, hat, List.drop_left]
  have hopeningLength : m.block.opening.length = kind.openWord.length + front.length + 1 := by
    rw [hopening, ← hlength]
    simp
    omega
  have hangle : m.extent.angle = m.start + kind.openWord.length + front.length := by
    simp only [Match.extent]
    omega
  have hstands : StandsAt kind.openWord text m.start := standsAt_iff.2 ⟨name, _, hat, hname⟩
  refine ⟨hstands, (isBoundary_iff hstands).2 ?_, ?_, ?_, ?_, ?_, ?_, ?_⟩
  · rw [hbehind, ← List.singleton_append, ← List.append_assoc, endsWord_append _ (by simp)]
    exact hword
  · rw [hangle]
    exact Nat.le_add_right _ _
  · rw [hangle, ← List.getElem?_drop, hbehind]
    simp
  · intro i hi hlt hmark
    obtain ⟨k, rfl⟩ := Nat.exists_eq_add_of_le hi
    have hk : k < front.length := by
      rw [hangle] at hlt
      exact Nat.lt_of_add_lt_add_left hlt
    rw [show m.extent.start = m.start from rfl, ← List.getElem?_drop, hbehind, List.getElem?_append_left hk] at hmark
    exact hfront (List.mem_of_getElem? hmark)
  · simp only [Match.extent, Match.closingStart]
    omega
  · exact standsAt_iff.2 ⟨m.block.closing, _, drop_closingStart htext, hclosing⟩
  · intro i hi hlt
    have hfrom : m.start + m.block.opening.length ≤ i := by
      rw [hangle] at hi
      omega
    obtain ⟨k, rfl⟩ := Nat.exists_eq_add_of_le hfrom
    -- no closing tag begins inside the body, whatever follows the one that ends it
    have hk : k < m.block.body.length := Nat.lt_of_add_lt_add_left hlt
    have hlong : kind.closeWord.length ≤ m.block.closing.length := by rw [← hclosing, List.length_map]
    have hquiet : Quiet kind.closeWord (m.block.closing ++ text.drop m.stop) m.block.body :=
      quiet_extend [] _ hlong (by simpa using hbody)
    rw [not_standsAt_iff, ← List.drop_drop, drop_behind_opening htext, List.drop_append_of_le_length hk.le]
    exact foldedStart?_of_quiet hquiet hk

/-- where a block has its extent, the search at its beginning finds one -/
theorem Extent.IsIn.isSome_blockAt? {e : Extent} (h : e.IsIn kind text) :
    (blockAt? kind (text.drop e.start)).isSome := by
  obtain ⟨name, after, hat, hname⟩ := standsAt_iff.1 h.name
  obtain ⟨closing, rest, hclosingAt, hclosing⟩ := standsAt_iff.1 h.closing
  have hafter : text.drop (e.start + kind.openWord.length) = after := by
    rw [← hname, List.length_map, ← List.drop_drop, hat, List.drop_left]
  have hword : endsWord after = true := by
    rw [← hafter]
    exact (isBoundary_iff h.name).1 h.boundary
  have hbound : e.angle < text.length := (List.getElem?_eq_some_iff.1 h.angle).1
  have hmark : text.drop e.angle = '>' :: text.drop (e.angle + 1) := by
    rw [List.drop_eq_getElem_cons hbound, (List.getElem?_eq_some_iff.1 h.angle).2]
  rw [hat, blockAt?_isSome_iff hname hword]
  refine ⟨(Span.mk (e.start + kind.openWord.length) e.angle).slice text, e.body text, closing, rest, ?_, hclosing⟩
  rw [← hafter, drop_eq_slice_append text h.angle_behind, hmark, drop_eq_slice_append text h.closing_behind, hclosingAt]
  rfl

theorem body_extent (htext : text.drop m.start = m.block.text ++ text.drop m.stop) (hopening : m.block.opening ≠ []) :
    m.extent.body text = m.block.body := by
  have hpos := List.length_pos_iff.2 hopening
  have hfrom : m.start + (m.block.opening.length - 1) + 1 = m.start + m.block.opening.length := by omega
  rw [Extent.body, Match.extent, hfrom]
  exact slice_of_drop (drop_behind_opening htext) rfl

theorem span_extent (hblock : IsBlock kind m.block) : m.extent.span kind = m.span := by
  rw [Extent.span, Extent.stop, Match.span, Span.mk.injEq]
  refine ⟨rfl, ?_⟩
  simp only [Match.extent, Match.closingStart, Match.stop, Block.text, List.length_append, ← hblock.closing,
    List.length_map]
  omega

end

/-! ## Sweeps -/

/-- the extents of the blocks of a kind from a place on: none if no block begins there or later, and otherwise the
extent with the first beginning and the extents from its end on -/
inductive Sweep (kind : BlockKind) (text : List Char) : Nat → List Extent → Prop where
  | done {start : Nat} (past : ∀ e : Extent, e.IsIn kind text → e.start < start) : Sweep kind text start []
  | next {start : Nat} {e : Extent} {later : List Extent} (isIn : e.IsIn kind text) (le : start ≤ e.start)
      (first : ∀ e' : Extent, e'.IsIn kind text → start ≤ e'.start → e.start ≤ e'.start)
      (rest : Sweep kind text (e.stop kind) later) : Sweep kind text start (e :: later)

/-- **There is one sweep.** -/
theorem Sweep.unique {kind : BlockKind} {text : List Char} {start : Nat} {extents extents' : List Extent}
    (h : Sweep kind text start extents) (h' : Sweep kind text start extents') : extents = extents' := by
  induction h generalizing extents' with
  | done past =>
    cases h' with
    | done => rfl
    | next isIn le => exact absurd (past _ isIn) (Nat.not_lt_of_le le)
  | next isIn le first _ ih =>
    cases h' with
    | done past => exact absurd (past _ isIn) (Nat.not_lt_of_le le)
    | next isIn' le' first' rest' =>
      obtain rfl := isIn.unique isIn' (Nat.le_antisymm (first _ isIn' le') (first' _ isIn le))
      rw [ih rest']

/-- the extents of the matches are a sweep -/
theorem sweep_found (kind : BlockKind) (text : List Char) : Sweep kind text 0 ((found kind text).map Match.extent) := by
  refine foundFrom_induction (P := fun start ms => Sweep kind text start (ms.map Match.extent)) ?_ ?_ 0
  · intro start hno
    refine .done fun e hin => ?_
    by_contra hge
    have hsome := hin.isSome_blockAt?
    rw [hno e.start (Nat.le_of_not_lt hge)] at hsome
    cases hsome
  · intro start m ms hfirst hlater
    have hstop : m.extent.stop kind = m.stop := congrArg Span.stop (span_extent hfirst.block)
    refine .next (hfirst.block.isIn hfirst.stands) hfirst.le ?_ (hstop ▸ hlater)
    intro e hin hfrom
    by_contra hlt
    have hsome := hin.isSome_blockAt?
    rw [hfirst.first e.start hfrom (Nat.lt_of_not_le hlt)] at hsome
    cases hsome

/-- **Extraction and removal go by one sweep.** A text has one sweep of extents of a kind. What is extracted are the
bodies at these extents in order, trimmed and without the empty ones, and what removal leaves is the text without just
these extents. -/
theorem extract_and_remove_sweep (kind : BlockKind) (text : List Char) :
    ∃ extents, (∀ other, Sweep kind text 0 other ↔ other = extents) ∧
      extract kind text = ((extents.map fun e => trim (e.body text)).filter (!·.isEmpty)).map String.ofList ∧
      remove kind text = outside (extents.map (Extent.span kind)) text := by
  refine ⟨(found kind text).map Match.extent, ?_, ?_, ?_⟩
  · intro other
    constructor
    · intro h
      exact h.unique (sweep_found kind text)
    · rintro rfl
      exact sweep_found kind text
  · have hbodies : ((found kind text).map Match.extent).map (fun e => trim (e.body text)) =
        (found kind text).map fun m => trim m.block.body := by
      rw [List.map_map]
      refine List.map_congr_left fun m hm => ?_
      have hopening := (blockAt?_eq (blockAt?_of_mem_found hm)).2
      rw [Function.comp_apply, body_extent (mem_found hm).2 hopening]
    rw [extract_eq_bodies, hbodies]
  · have hspans : ((found kind text).map Match.extent).map (Extent.span kind) = spans kind text := by
      rw [List.map_map]
      exact List.map_congr_left fun m hm => span_extent (mem_found hm).1
    rw [remove_eq_outside, hspans]

/-- a closing tag that the opening tag takes in, an opening tag in the body, a closing tag with a long s, a closing tag
too many, and an opening tag that does not end -/
theorem crowded_text_swept :
    let text := "<style </style><style>a</ſtyle></style><style b".toList
    (∀ other, Sweep .style text 0 other ↔ other = [⟨0, 14, 23⟩]) ∧ extract .style text = ["<style>a"] ∧
      remove .style text = "</style><style b".toList := by
  intro text
  obtain ⟨extents, hsweep, hextract, hremove⟩ := extract_and_remove_sweep .style text
  have hfound : (found .style text).map Match.extent = [⟨0, 14, 23⟩] := by decide +kernel
  obtain rfl : [⟨0, 14, 23⟩] = extents := (hsweep _).1 (hfound ▸ sweep_found .style text)
  refine ⟨hsweep, ?_, ?_⟩
  · rw [hextract]
    decide +kernel
  · rw [hremove]
    decide +kernel

end ComponentCompiler.Template
