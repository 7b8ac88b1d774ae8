import ComponentCompiler.Proofs.Template.Document

/-!
What a block is, said without a search.

An opening tag is the beginning of a tag, a name that ends there, and no `>` but its last character. A block is an
opening tag, a body and a closing tag, and no closing tag begins inside the body. `blockAt?_eq_some_iff` says that the
search at a place finds exactly this. Nothing in it speaks of what follows the block, so a block stays a block wherever
it is put (`IsBlock.blockAt?`).
-/

namespace ComponentCompiler.Template

open Text

/-! ## Opening tags -/

/-- a text that is an opening tag of a kind: the name in any case, and then up to the first `>` -/
def IsOpening (kind : BlockKind) (opening : List Char) : Prop :=
  ∃ name front, opening = name ++ (front ++ ['>']) ∧ name.map foldChar = kind.openWord ∧ '>' ∉ front ∧
    endsWord (front ++ ['>']) = true

theorem tagStart?_eq_some_iff {kind : BlockKind} {text name after : List Char} :
    tagStart? kind text = some (name, after) ↔
      text = name ++ after ∧ name.map foldChar = kind.openWord ∧ endsWord after = true := by
  constructor
  · intro h
    obtain ⟨htext, hname⟩ := foldedStart?_eq_some_iff.1 (tagStart?_eq_some h)
    refine ⟨htext, hname, ?_⟩
    unfold tagStart? at h
    rw [tagStart?_eq_some h] at h
    by_contra hword
    simp [hword] at h
  · rintro ⟨rfl, hname, hword⟩
    have hstart : foldedStart? ('<' :: kind.word) (name ++ after) = some (name, after) :=
      foldedStart?_eq_some_iff.2 ⟨rfl, hname⟩
    rw [tagStart?, hstart]
    simp [hword]

/-- where a word ends does not depend on what comes later -/
theorem endsWord_append {front : List Char} (rest : List Char) (h : front ≠ []) :
    endsWord (front ++ rest) = endsWord front := by
  cases front with
  | nil => exact absurd rfl h
  | cons c front => rfl

theorem opening?_eq_some_iff {kind : BlockKind} {text opening after : List Char} :
    opening? kind text = some (opening, after) ↔ text = opening ++ after ∧ IsOpening kind opening := by
  constructor
  · intro h
    refine ⟨(opening?_eq h).1, ?_⟩
    unfold opening? at h
    split at h
    · cases h
    · next name afterName hstart =>
      obtain ⟨-, hname, hword⟩ := tagStart?_eq_some_iff.1 hstart
      simp only [Option.map_eq_some_iff, Prod.exists, Prod.mk.injEq] at h
      obtain ⟨attributes, after', hthrough, rfl, rfl⟩ := h
      obtain ⟨front, rfl, hfront⟩ := throughAngle_eq_some hthrough
      rw [throughAngle_eq hthrough, endsWord_append _ (by simp)] at hword
      exact ⟨name, front, rfl, hname, hfront, hword⟩
  · rintro ⟨rfl, name, front, rfl, hname, hfront, hword⟩
    have hstart : tagStart? kind (name ++ (front ++ ['>']) ++ after) = some (name, front ++ '>' :: after) := by
      refine tagStart?_eq_some_iff.2 ⟨by simp, hname, ?_⟩
      rw [← endsWord_append after (by simp)] at hword
      simpa using hword
    rw [opening?, hstart]
    simp [throughAngle_append after hfront]

/-! ## Blocks -/

/-- a text that is a block of a kind, cut into its parts: no closing tag begins inside the body -/
structure IsBlock (kind : BlockKind) (block : Block) : Prop where
  opening : IsOpening kind block.opening
  closing : block.closing.map foldChar = kind.closeWord
  body : Quiet kind.closeWord block.closing block.body

/-- a word that is no longer than a text is found at its beginning whatever follows the text -/
theorem foldedStart?_eq_none_of_length {word text rest rest' : List Char} (hlength : word.length ≤ text.length)
    (h : foldedStart? word (text ++ rest) = none) : foldedStart? word (text ++ rest') = none := by
  by_contra hsome
  obtain ⟨⟨written, after⟩, hw⟩ := Option.ne_none_iff_exists'.1 hsome
  obtain ⟨htext, hmap⟩ := foldedStart?_eq_some_iff.1 hw
  have hle : written.length ≤ text.length := by
    rw [← hmap, List.length_map] at hlength
    exact hlength
  obtain ⟨more, rfl⟩ := List.prefix_of_prefix_length_le ⟨after, htext.symm⟩ (List.prefix_append text rest') hle
  have hfound : foldedStart? word (written ++ more ++ rest) = some (written, more ++ rest) :=
    foldedStart?_eq_some_iff.2 ⟨by simp, hmap⟩
  rw [h] at hfound
  cases hfound

/-- what follows a closing tag does not matter for the tags before it -/
theorem quiet_extend {word part closing : List Char} (rest rest' : List Char) (hlength : word.length ≤ closing.length)
    (h : Quiet word (closing ++ rest) part) : Quiet word (closing ++ rest') part := by
  induction part with
  | nil => trivial
  | cons c part ih =>
    obtain ⟨hfirst, hlater⟩ := h
    refine ⟨?_, ih hlater⟩
    rw [← List.append_assoc] at hfirst ⊢
    refine foldedStart?_eq_none_of_length ?_ hfirst
    simp
    omega

theorem untilClosing_eq_some_iff {kind : BlockKind} {text body closing after : List Char} :
    untilClosing kind text = some (body, closing, after) ↔
      text = body ++ (closing ++ after) ∧ closing.map foldChar = kind.closeWord ∧
      Quiet kind.closeWord closing body := by
  constructor
  · intro h
    have hclose := untilClosing_closing h
    have hword : closing.map foldChar = kind.closeWord := (foldedStart?_eq_some_iff.1 hclose).2
    refine ⟨by simpa using untilClosing_eq h, hword, ?_⟩
    have hquiet : Quiet kind.closeWord (closing ++ after) body := by
      clear hclose hword
      induction text generalizing body with
      | nil => simp [untilClosing] at h
      | cons c rest ih =>
        have htext := untilClosing_eq h
        unfold untilClosing at h
        split at h
        · next hfound =>
          simp only [Option.some.injEq, Prod.mk.injEq] at h
          obtain ⟨rfl, -, -⟩ := h
          trivial
        · next hnone =>
          simp only [Option.map_eq_some_iff, Prod.exists, Prod.mk.injEq] at h
          obtain ⟨body', closing', after', h', rfl, rfl, rfl⟩ := h
          refine ⟨?_, ih h'⟩
          rw [htext, List.append_assoc] at hnone
          exact hnone
    have hlength : kind.closeWord.length ≤ closing.length := by rw [← hword, List.length_map]
    simpa using quiet_extend after [] hlength hquiet
  · rintro ⟨rfl, hword, hquiet⟩
    have hlength : kind.closeWord.length ≤ closing.length := by rw [← hword, List.length_map]
    have hclose : closing? kind (closing ++ after) = some (closing, after) := foldedStart?_eq_some_iff.2 ⟨rfl, hword⟩
    refine untilClosing_append (quiet_extend [] after hlength ?_) hclose
    simpa using hquiet

/-- **The search at a place finds exactly the blocks.** -/
theorem blockAt?_eq_some_iff {kind : BlockKind} {text after : List Char} {block : Block} :
    blockAt? kind text = some (block, after) ↔ text = block.text ++ after ∧ IsBlock kind block := by
  constructor
  · intro h
    refine ⟨(blockAt?_eq h).1, ?_⟩
    unfold blockAt? at h
    split at h
    · cases h
    · next opening afterOpening hopen =>
      simp only [Option.map_eq_some_iff, Prod.exists, Prod.mk.injEq] at h
      obtain ⟨body, closing, after', hclosed, rfl, rfl⟩ := h
      obtain ⟨-, hclosing, hbody⟩ := untilClosing_eq_some_iff.1 hclosed
      exact ⟨(opening?_eq_some_iff.1 hopen).2, hclosing, hbody⟩
  · rintro ⟨rfl, hopening, hclosing, hbody⟩
    have hopen : opening? kind (block.text ++ after) = some (block.opening, block.body ++ (block.closing ++ after)) :=
      opening?_eq_some_iff.2 ⟨by simp [Block.text], hopening⟩
    have hclosed : untilClosing kind (block.body ++ (block.closing ++ after)) =
        some (block.body, block.closing, after) :=
      untilClosing_eq_some_iff.2 ⟨rfl, hclosing, hbody⟩
    rw [blockAt?, hopen]
    simp only [hclosed, Option.map_some]

theorem IsBlock.blockAt? {kind : BlockKind} {block : Block} (h : IsBlock kind block) (after : List Char) :
    blockAt? kind (block.text ++ after) = some (block, after) :=
  blockAt?_eq_some_iff.2 ⟨rfl, h⟩

theorem IsBlock.text_pos {kind : BlockKind} {block : Block} (h : IsBlock kind block) : 0 < block.text.length := by
  have hne := (blockAt?_eq (h.blockAt? [])).2
  have hpos := List.length_pos_iff.2 hne
  simp [Block.text]
  omega

/-! ## Blocks of different kinds -/

def BlockKind.other : BlockKind → BlockKind
  | .style => .script
  | .script => .style

/-- where a block stands, the text begins with the name of its kind -/
theorem openWord_of_blockAt? {kind : BlockKind} {text : List Char} (h : (blockAt? kind text).isSome) :
    kind.openWord <+: text.map foldChar := by
  obtain ⟨⟨block, after⟩, hblock⟩ := Option.isSome_iff_exists.1 h
  obtain ⟨rfl, ⟨name, front, hopening, hname, -⟩, -⟩ := blockAt?_eq_some_iff.1 hblock
  rw [Block.text, hopening, ← hname]
  simp

/-- no place holds blocks of both kinds -/
theorem blockAt?_other {kind : BlockKind} {text : List Char} (h : (blockAt? kind text).isSome) :
    blockAt? kind.other text = none := by
  rw [← Option.not_isSome_iff_eq_none]
  intro hother
  have hcomparable := List.prefix_or_prefix_of_prefix (openWord_of_blockAt? h) (openWord_of_blockAt? hother)
  revert hcomparable
  cases kind <;> decide

/-- a closing tag has its one `<` at its beginning, and no name after it -/
theorem not_openWord_in_closeWord (kind kind' : BlockKind) {i : Nat} (hi : i < kind.closeWord.length)
    (rest : List Char) :
    ¬ kind'.openWord <+: kind.closeWord.drop i ++ rest := by
  intro hstart
  obtain ⟨word, hword⟩ : ∃ word, kind'.openWord = '<' :: 's' :: word := by cases kind' <;> exact ⟨_, rfl⟩
  obtain ⟨more, hmore⟩ := hstart
  rw [hword] at hmore
  cases i with
  | zero => simp [BlockKind.closeWord] at hmore
  | succ i =>
    have htail : kind.closeWord.drop (i + 1) = kind.closeWord.tail.drop i := by simp
    have hplain : '<' ∉ kind.closeWord.tail := by cases kind <;> decide
    have hne : kind.closeWord.tail.drop i ≠ [] := by
      rw [← htail]
      simpa using hi
    obtain ⟨c, later, hc⟩ := List.exists_cons_of_ne_nil hne
    rw [htail, hc] at hmore
    have hangle : '<' = c := (List.cons.inj hmore).1
    have hmem : c ∈ kind.closeWord.tail := (List.drop_suffix i _).subset (by simp [hc])
    exact hplain (hangle ▸ hmem)

/-- no block begins inside a closing tag -/
theorem blockAt?_in_closing {kind kind' : BlockKind} {closing : List Char} (h : closing.map foldChar = kind.closeWord)
    {i : Nat} (hi : i < closing.length) (rest : List Char) : blockAt? kind' (closing.drop i ++ rest) = none := by
  rw [← Option.not_isSome_iff_eq_none]
  intro hsome
  have hopen := openWord_of_blockAt? hsome
  rw [List.map_append, List.map_drop, h] at hopen
  refine not_openWord_in_closeWord kind kind' ?_ _ hopen
  rw [← h, List.length_map]
  exact hi

end ComponentCompiler.Template
