import ComponentCompiler.Template.Block

/-!
Searching a text for its first block. The search ends at the first place where a tag begins: if no block comes of it,
there is no `>` or no closing tag in all of the rest, so no later place can hold a block either. `findBlock_eq` says
that the search finds what `firstBlock` describes.
-/

namespace ComponentCompiler.Template

open Text

/-- the first block of a text, looked for no further than the first place where a tag begins -/
def findBlock (kind : BlockKind) : List Char → Option (List Char × Block × List Char)
  | [] => none
  | c :: rest =>
    if (tagStart? kind (c :: rest)).isSome then
      (blockAt? kind (c :: rest)).map fun (block, after) => ([], block, after)
    else (findBlock kind rest).map fun (before, block, after) => (c :: before, block, after)

/-! ## What a failed look says about the rest -/

/-- in a word without regard to case `>` stands for itself -/
theorem foldChar_angle {c w : Char} (h : foldChar c == w) (hc : c = '>') : w = '>' := by
  have hangle : foldChar '>' = '>' := by decide
  rw [hc, hangle] at h
  exact (beq_iff_eq.1 h).symm

/-- a word without `>` is written without `>` -/
theorem foldedStart?_no_angle {word text written after : List Char} (hw : '>' ∉ word)
    (h : foldedStart? word text = some (written, after)) : '>' ∉ written := by
  induction word generalizing text written with
  | nil =>
    simp only [foldedStart?, Option.some.injEq, Prod.mk.injEq] at h
    rw [← h.1]
    exact hw
  | cons w word ih =>
    cases text with
    | nil => simp [foldedStart?] at h
    | cons c rest =>
      by_cases hc : foldChar c == w
      · simp only [foldedStart?, hc, if_true, Option.map_eq_some_iff, Prod.exists, Prod.mk.injEq] at h
        obtain ⟨written', after', h', rfl, rfl⟩ := h
        simp only [List.mem_cons, not_or] at hw ⊢
        exact ⟨fun he => hw.1 (foldChar_angle hc he.symm).symm, ih hw.2 h'⟩
      · simp [foldedStart?, hc] at h

/-- the beginning of a tag holds no `>` -/
theorem tagStart?_no_angle {kind : BlockKind} {text name after : List Char}
    (h : tagStart? kind text = some (name, after)) : '>' ∉ name :=
  foldedStart?_no_angle (by cases kind <;> decide) (tagStart?_eq_some h)

/-- without a first `>` there is none -/
theorem throughAngle_eq_none {text : List Char} (h : throughAngle text = none) : '>' ∉ text := by
  induction text with
  | nil => simp
  | cons c rest ih =>
    by_cases hc : c == '>'
    · simp [throughAngle, hc] at h
    · simp only [throughAngle, hc, Bool.false_eq_true, if_false, Option.map_eq_none_iff] at h
      simp only [List.mem_cons, not_or]
      exact ⟨fun he => hc (beq_iff_eq.2 he.symm), ih h⟩

/-- the first `>` is the last character of what is taken, and the only one of its kind there -/
theorem throughAngle_eq_some {text taken after : List Char} (h : throughAngle text = some (taken, after)) :
    ∃ front, taken = front ++ ['>'] ∧ '>' ∉ front := by
  induction text generalizing taken with
  | nil => simp [throughAngle] at h
  | cons c rest ih =>
    by_cases hc : c == '>'
    · simp only [throughAngle, hc, if_true, Option.some.injEq, Prod.mk.injEq] at h
      exact ⟨[], by simp [← h.1, beq_iff_eq.1 hc], by simp⟩
    · simp only [throughAngle, hc, Bool.false_eq_true, if_false, Option.map_eq_some_iff, Prod.exists,
        Prod.mk.injEq] at h
      obtain ⟨taken', after', h', rfl, rfl⟩ := h
      obtain ⟨front, rfl, hfront⟩ := ih h'
      refine ⟨c :: front, by simp, ?_⟩
      simp only [List.mem_cons, not_or]
      exact ⟨fun he => hc (beq_iff_eq.2 he.symm), hfront⟩

/-- an opening tag holds a `>` -/
theorem opening?_angle {kind : BlockKind} {text opening after : List Char}
    (h : opening? kind text = some (opening, after)) : '>' ∈ opening := by
  unfold opening? at h
  split at h
  · simp at h
  · simp only [Option.map_eq_some_iff, Prod.exists, Prod.mk.injEq] at h
    obtain ⟨attributes, after', h', rfl, rfl⟩ := h
    obtain ⟨front, rfl, -⟩ := throughAngle_eq_some h'
    simp

/-- where no closing tag is found, none stands at any place -/
theorem untilClosing_eq_none {kind : BlockKind} {text tail : List Char} (h : untilClosing kind text = none)
    (ht : tail <:+ text) : closing? kind tail = none := by
  induction text with
  | nil =>
    rw [List.suffix_nil.1 ht]
    cases kind <;> rfl
  | cons c rest ih =>
    unfold untilClosing at h
    split at h
    · simp at h
    · next hclose =>
      rw [Option.map_eq_none_iff] at h
      rcases List.suffix_cons_iff.1 ht with rfl | ht
      · exact hclose
      · exact ih h ht

/-- the closing tag that is found stands where the body ends -/
theorem untilClosing_closing {kind : BlockKind} {text body closing after : List Char}
    (h : untilClosing kind text = some (body, closing, after)) :
    closing? kind (closing ++ after) = some (closing, after) := by
  induction text generalizing body with
  | nil => simp [untilClosing] at h
  | cons c rest ih =>
    unfold untilClosing at h
    split at h
    · next closing' after' hclose =>
      simp only [Option.some.injEq, Prod.mk.injEq] at h
      obtain ⟨-, rfl, rfl⟩ := h
      rw [← foldedStart?_eq hclose]
      exact hclose
    · simp only [Option.map_eq_some_iff, Prod.exists, Prod.mk.injEq] at h
      obtain ⟨body', closing', after', h', -, rfl, rfl⟩ := h
      exact ih h'

/-- a tail that comes after a `>` does not reach before the first `>` of the text -/
theorem suffix_after_angle {front rest opened tail : List Char} (hfront : '>' ∉ front) (ho : '>' ∈ opened)
    (hs : opened ++ tail <:+ front ++ '>' :: rest) : tail <:+ rest := by
  have htail : tail <:+ front ++ '>' :: rest := (List.suffix_append opened tail).trans hs
  have hrest : rest <:+ front ++ '>' :: rest :=
    (List.suffix_cons '>' rest).trans (List.suffix_append front _)
  by_cases hlen : tail.length ≤ rest.length
  · exact List.suffix_of_suffix_length_le htail hrest hlen
  · exfalso
    have hle : ('>' :: rest).length ≤ tail.length := by simp; omega
    obtain ⟨between, rfl⟩ := List.suffix_of_suffix_length_le (List.suffix_append front ('>' :: rest)) htail hle
    obtain ⟨before, hbefore⟩ := hs
    rw [← List.append_assoc, ← List.append_assoc] at hbefore
    have := List.append_cancel_right hbefore
    exact hfront (this ▸ by simp [ho])

/-- where a tag begins and no block comes of it, no later place holds a block -/
theorem blockAt?_eq_none_of_suffix {kind : BlockKind} {text later : List Char}
    (hstart : (tagStart? kind text).isSome) (hnone : blockAt? kind text = none) (hlater : later <:+ text) :
    blockAt? kind later = none := by
  obtain ⟨⟨name, afterName⟩, hname⟩ := Option.isSome_iff_exists.1 hstart
  have htext := foldedStart?_eq (tagStart?_eq_some hname)
  have hangle := tagStart?_no_angle hname
  cases hblock : blockAt? kind later with
  | none => rfl
  | some found =>
    exfalso
    unfold blockAt? at hblock
    split at hblock
    · simp at hblock
    · next opening afterOpening hopen =>
      simp only [Option.map_eq_some_iff, Prod.exists] at hblock
      obtain ⟨body, closing, after, hclosed, -⟩ := hblock
      have hin := opening?_angle hopen
      rw [(opening?_eq hopen).1] at hlater
      cases hthrough : throughAngle afterName with
      | none =>
        have hmem : '>' ∈ text := hlater.subset (by simp [hin])
        rw [htext, List.mem_append] at hmem
        exact hmem.elim hangle (throughAngle_eq_none hthrough)
      | some taken =>
        obtain ⟨attributes, rest⟩ := taken
        obtain ⟨front, rfl, hfront⟩ := throughAngle_eq_some hthrough
        have hunclosed : untilClosing kind rest = none := by
          simpa [blockAt?, opening?, hname, hthrough] using hnone
        rw [htext, throughAngle_eq hthrough] at hlater
        have hno : '>' ∉ name ++ front := by simp [hangle, hfront]
        have htail : afterOpening <:+ rest := suffix_after_angle hno hin (by simpa using hlater)
        rw [untilClosing_eq hclosed, List.append_assoc] at htail
        have hnot := untilClosing_eq_none hunclosed ((List.suffix_append body _).trans htail)
        rw [untilClosing_closing hclosed] at hnot
        simp at hnot

/-- there is no first block where no place holds one -/
theorem firstBlock_eq_none {kind : BlockKind} {text : List Char}
    (h : ∀ later, later <:+ text → blockAt? kind later = none) : firstBlock kind text = none := by
  induction text with
  | nil => rfl
  | cons c rest ih =>
    rw [firstBlock, h _ (List.suffix_refl _)]
    simp [ih fun later hl => h later (hl.trans (List.suffix_cons c rest))]

/-- no block stands where no tag begins -/
theorem blockAt?_eq_none_of_tagStart? {kind : BlockKind} {text : List Char} (h : tagStart? kind text = none) :
    blockAt? kind text = none := by
  simp [blockAt?, opening?, h]

/-- the search finds the first block -/
theorem findBlock_eq (kind : BlockKind) (text : List Char) : findBlock kind text = firstBlock kind text := by
  induction text with
  | nil => rfl
  | cons c rest ih =>
    by_cases hstart : (tagStart? kind (c :: rest)).isSome
    · rw [findBlock, if_pos hstart]
      cases hblock : blockAt? kind (c :: rest) with
      | some found => simp [firstBlock, hblock]
      | none =>
        exact (firstBlock_eq_none fun later hl => blockAt?_eq_none_of_suffix hstart hblock hl).symm
    · rw [findBlock, if_neg hstart, firstBlock, ih]
      rw [Bool.not_eq_true, Option.isSome_eq_false_iff, Option.isNone_iff_eq_none] at hstart
      rw [blockAt?_eq_none_of_tagStart? hstart]

end ComponentCompiler.Template
