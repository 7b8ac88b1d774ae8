import ComponentCompiler.Proofs.Text
import ComponentCompiler.Text.Basic

/-!
Occurrences of one text in another, and replacing them.

`occursIn_iff` says that the search is the relation `<:+:`. Replacing goes from left to right: an occurrence at the
beginning is replaced (`replaceAll_old_append`), another character stays (`replaceAll_cons`), and a character that the
old text does not have divides the work (`replaceAll_append_cons`). Every fact about replacing is proved along these
steps (`occurrence_induction`).

A replacement can make new occurrences where what is put in meets its surroundings. `BeginsOutside` excludes this: an
occurrence of one text cannot begin inside the other. Under this condition an occurrence in the result was there before,
at a place that was not replaced (`exists_start_of_infix_replaceAll`), and replacing can be taken back
(`replaceAll_cancel`).
-/

namespace ComponentCompiler.Text

/-! ## Occurrences -/

/-- the search finds a text exactly where it is -/
theorem occursIn_iff {pattern text : List Char} : occursIn pattern text = true ↔ pattern <:+: text := by
  induction text with
  | nil => simp [occursIn]
  | cons c rest ih => simp [occursIn, List.infix_cons_iff, ih]

theorem mentions_iff {s pattern : String} : mentions s pattern = true ↔ pattern.toList <:+: s.toList :=
  occursIn_iff

/-- what comes before a character that a text does not have holds all of its beginning -/
theorem prefix_of_not_mem {c : Char} {pattern front rest : List Char} (hc : c ∉ pattern)
    (h : pattern <+: front ++ c :: rest) : pattern <+: front := by
  rcases List.prefix_or_prefix_of_prefix h (List.prefix_append front (c :: rest)) with hle | ⟨more, rfl⟩
  · exact hle
  · rw [List.prefix_append_right_inj] at h
    cases more with
    | nil => simp
    | cons d more =>
      obtain ⟨rfl, -⟩ := List.cons_prefix_cons.1 h
      refine absurd ?_ hc
      simp

/-- an occurrence of characters that all stay survives when others are dropped at the front -/
theorem infix_dropWhile {p : Char → Bool} {pattern text : List Char} (hp : ∀ c ∈ pattern, p c = false)
    (h : pattern <:+: text) : pattern <:+: text.dropWhile p := by
  induction text with
  | nil => exact h
  | cons c rest ih =>
    by_cases hc : p c
    · rw [List.dropWhile_cons_of_pos hc]
      apply ih
      rcases List.infix_cons_iff.1 h with hstart | hlater
      · cases pattern with
        | nil => exact List.nil_infix
        | cons d pattern =>
          obtain ⟨rfl, -⟩ := List.cons_prefix_cons.1 hstart
          have := hp d List.mem_cons_self
          rw [hc] at this
          cases this
      · exact hlater
    · rw [List.dropWhile_cons_of_neg hc]
      exact h

/-- trimming takes nothing away from an occurrence without blanks -/
theorem infix_trim {pattern text : List Char} (hp : ∀ c ∈ pattern, isBlank c = false) (h : pattern <:+: text) :
    pattern <:+: trim text := by
  have hfront : pattern <:+: text.dropWhile isBlank := infix_dropWhile hp h
  rw [trim, ← List.reverse_infix, List.reverse_reverse]
  apply infix_dropWhile
  · intro c hc
    exact hp c (List.mem_reverse.1 hc)
  · exact List.reverse_infix.2 hfront

/-! ## Replacing -/

section Replace

variable {old new : List Char}

theorem replaceFrom_eq_drop (skip : Nat) (text : List Char) :
    replaceFrom old new skip text = replaceAll old new (text.drop skip) := by
  induction skip generalizing text with
  | zero => rfl
  | succ skip ih =>
    cases text with
    | nil => simp [replaceFrom, replaceAll]
    | cons c rest =>
      rw [replaceFrom, ih]
      rfl

theorem replaceAll_cons {c : Char} {rest : List Char} (h : ¬ old <+: c :: rest) :
    replaceAll old new (c :: rest) = c :: replaceAll old new rest := by
  rw [replaceAll, replaceFrom, if_neg (by simpa using h)]
  rfl

theorem replaceAll_old_append (hne : old ≠ []) (rest : List Char) :
    replaceAll old new (old ++ rest) = new ++ replaceAll old new rest := by
  cases old with
  | nil => exact absurd rfl hne
  | cons c more =>
    rw [List.cons_append, replaceAll, replaceFrom, if_pos, replaceFrom_eq_drop]
    · simp
    · simp

/-- a character that is not the first of an occurrence stays -/
theorem replaceAll_cons_of_ne {c d : Char} {more rest : List Char} (hne : c ≠ d) :
    replaceAll (d :: more) new (c :: rest) = c :: replaceAll (d :: more) new rest := by
  apply replaceAll_cons
  intro hstart
  exact hne (List.cons_prefix_cons.1 hstart).1.symm

/-- where nothing occurs, nothing is replaced -/
theorem replaceAll_eq_self {text : List Char} (h : ¬ old <:+: text) : replaceAll old new text = text := by
  induction text with
  | nil => rfl
  | cons c rest ih =>
    rw [List.infix_cons_iff, not_or] at h
    rw [replaceAll_cons h.1, ih h.2]

/-- along a text: it begins with an occurrence, or its first character stays -/
theorem occurrence_induction {motive : List Char → Prop} (hne : old ≠ []) (nil : motive [])
    (found : ∀ rest, motive rest → motive (old ++ rest))
    (other : ∀ c rest, ¬ old <+: c :: rest → motive rest → motive (c :: rest)) (text : List Char) : motive text := by
  -- by the length of the text: what is left of it behind an occurrence is shorter
  induction hlength : text.length using Nat.strong_induction_on generalizing text with
  | _ n ih =>
    by_cases hstart : old <+: text
    · obtain ⟨rest, rfl⟩ := hstart
      have hshorter : rest.length < n := by
        have hpos := List.length_pos_iff.2 hne
        rw [List.length_append] at hlength
        omega
      exact found rest (ih rest.length hshorter rest rfl)
    · cases text with
      | nil => exact nil
      | cons c rest =>
        have hshorter : rest.length < n := by
          rw [← hlength]
          simp
        exact other c rest hstart (ih rest.length hshorter rest rfl)

theorem replaceAll_cons_of_not_mem {c : Char} (hne : old ≠ []) (hc : c ∉ old) (rest : List Char) :
    replaceAll old new (c :: rest) = c :: replaceAll old new rest := by
  cases old with
  | nil => exact absurd rfl hne
  | cons d more =>
    apply replaceAll_cons_of_ne
    rintro rfl
    exact hc List.mem_cons_self

/-- **Replacing goes on separately** on the two sides of a character that the old text does not have. -/
theorem replaceAll_append_cons {c : Char} (hne : old ≠ []) (hc : c ∉ old) (front rest : List Char) :
    replaceAll old new (front ++ c :: rest) = replaceAll old new front ++ c :: replaceAll old new rest := by
  induction front using occurrence_induction hne with
  | nil => exact replaceAll_cons_of_not_mem hne hc rest
  | found later ih =>
    rw [List.append_assoc, replaceAll_old_append hne, replaceAll_old_append hne, ih, List.append_assoc]
  | other d front hstart ih =>
    have hstart' : ¬ old <+: d :: (front ++ c :: rest) := by
      intro hlonger
      exact hstart (prefix_of_not_mem hc hlonger)
    rw [List.cons_append, replaceAll_cons hstart', replaceAll_cons hstart, ih]
    rfl

/-- a text in its own place changes nothing -/
theorem replaceAll_same (hne : old ≠ []) (text : List Char) : replaceAll old old text = text := by
  induction text using occurrence_induction hne with
  | nil => rfl
  | found rest ih => rw [replaceAll_old_append hne, ih]
  | other c rest hstart ih => rw [replaceAll_cons hstart, ih]

end Replace

/-! ## What replacing makes occur -/

/-- an occurrence of `pattern` cannot begin inside `part`, whatever follows the part -/
def BeginsOutside (pattern part : List Char) : Prop :=
  ∀ rest, rest <:+ part → rest ≠ [] → ¬ rest <+: pattern ∧ ¬ pattern <+: rest

instance (pattern part : List Char) : Decidable (BeginsOutside pattern part) :=
  decidable_of_iff (∀ rest ∈ part.tails, rest ≠ [] → ¬ rest <+: pattern ∧ ¬ pattern <+: rest)
    (by simp only [List.mem_tails, BeginsOutside])

section Seams

variable {old new pattern part : List Char}

theorem beginsOutside_cons_iff {c : Char} :
    BeginsOutside pattern (c :: part) ↔
      (¬ c :: part <+: pattern ∧ ¬ pattern <+: c :: part) ∧ BeginsOutside pattern part := by
  constructor
  · intro h
    refine ⟨h _ List.suffix_rfl (by simp), ?_⟩
    intro rest hrest
    exact h rest (hrest.trans (List.suffix_cons c part))
  · rintro ⟨hwhole, hpart⟩ rest hrest hne
    rcases List.suffix_cons_iff.1 hrest with rfl | hrest
    · exact hwhole
    · exact hpart rest hrest hne

/-- where its first character is not, a text does not begin -/
theorem beginsOutside_of_not_mem {c : Char} (hc : c ∉ part) : BeginsOutside (c :: pattern) part := by
  intro rest hrest hne
  cases rest with
  | nil => exact absurd rfl hne
  | cons d rest =>
    have hd : d ∈ part := hrest.subset List.mem_cons_self
    constructor <;> intro hstart <;> obtain ⟨rfl, -⟩ := List.cons_prefix_cons.1 hstart <;> exact hc hd

/-- a text is not cut off by the end of a part whose last character it does not have -/
theorem beginsOutside_concat {c : Char} (hc : c ∉ pattern) (h : ¬ pattern <:+: part ++ [c]) :
    BeginsOutside pattern (part ++ [c]) := by
  intro rest hrest hne
  constructor
  · intro hstart
    have hlast : rest.getLast hne = c := by
      have hget := hrest.getLast hne
      simpa using hget
    exact hc (hstart.subset (hlast ▸ List.getLast_mem hne))
  · intro hstart
    exact h (hstart.isInfix.trans hrest.isInfix)

theorem BeginsOutside.infix_append (h : BeginsOutside pattern part) {after : List Char}
    (hin : pattern <:+: part ++ after) :
    pattern <:+: after := by
  induction part with
  | nil => exact hin
  | cons c part ih =>
    obtain ⟨⟨hshort, hlong⟩, hpart⟩ := beginsOutside_cons_iff.1 h
    rcases List.infix_cons_iff.1 hin with hstart | hlater
    · rcases List.prefix_or_prefix_of_prefix hstart (List.prefix_append (c :: part) after) with hle | hge
      · exact absurd hle hlong
      · exact absurd hge hshort
    · exact ih hpart hlater

/-- what the result begins with, the text begins with, if no replacement can take part in it -/
theorem prefix_of_prefix_replaceAll (hne : old ≠ []) (h : BeginsOutside new pattern) {text : List Char}
    (hstart : pattern <+: replaceAll old new text) : pattern <+: text := by
  induction text using occurrence_induction hne generalizing pattern with
  | nil => exact hstart
  | found rest ih =>
    rw [replaceAll_old_append hne] at hstart
    cases pattern with
    | nil => exact List.nil_prefix
    | cons d pattern =>
      obtain ⟨⟨hshort, hlong⟩, -⟩ := beginsOutside_cons_iff.1 h
      rcases List.prefix_or_prefix_of_prefix hstart (List.prefix_append new _) with hle | hge
      · exact absurd hle hshort
      · exact absurd hge hlong
  | other c rest hkept ih =>
    rw [replaceAll_cons hkept] at hstart
    cases pattern with
    | nil => exact List.nil_prefix
    | cons d pattern =>
      obtain ⟨rfl, hlater⟩ := List.cons_prefix_cons.1 hstart
      exact List.cons_prefix_cons.2 ⟨rfl, ih (beginsOutside_cons_iff.1 h).2 hlater⟩

/-- **No occurrence is made.** If neither of the two can begin inside the other, a text that occurs in the result occurs
in the text itself, at a place where nothing was replaced. -/
theorem exists_start_of_infix_replaceAll (hne : old ≠ []) {c : Char} (hout : BeginsOutside (c :: pattern) new)
    (hin : BeginsOutside new pattern) {text : List Char} (h : c :: pattern <:+: replaceAll old new text) :
    ∃ rest, rest <:+ text ∧ c :: pattern <+: rest ∧ ¬ old <+: rest := by
  induction text using occurrence_induction hne with
  | nil => exact absurd (List.infix_nil.1 h) (by simp)
  | found later ih =>
    rw [replaceAll_old_append hne] at h
    obtain ⟨rest, hrest, hstart⟩ := ih (hout.infix_append h)
    exact ⟨rest, hrest.trans (List.suffix_append old later), hstart⟩
  | other d later hkept ih =>
    rw [replaceAll_cons hkept] at h
    rcases List.infix_cons_iff.1 h with hstart | hlater
    · obtain ⟨rfl, hmore⟩ := List.cons_prefix_cons.1 hstart
      have hmore' := prefix_of_prefix_replaceAll hne hin hmore
      exact ⟨c :: later, List.suffix_rfl, List.cons_prefix_cons.2 ⟨rfl, hmore'⟩, hkept⟩
    · obtain ⟨rest, hrest, hstart⟩ := ih hlater
      exact ⟨rest, hrest.trans (List.suffix_cons d later), hstart⟩

theorem infix_of_infix_replaceAll (hne : old ≠ []) {c : Char} (hout : BeginsOutside (c :: pattern) new)
    (hin : BeginsOutside new pattern) {text : List Char} (h : c :: pattern <:+: replaceAll old new text) :
    c :: pattern <:+: text := by
  obtain ⟨rest, hrest, hstart, -⟩ := exists_start_of_infix_replaceAll hne hout hin h
  exact hstart.isInfix.trans hrest.isInfix

theorem not_infix_replaceAll {c : Char} (hout : BeginsOutside (c :: pattern) new) (hin : BeginsOutside new pattern)
    (text : List Char) : ¬ c :: pattern <:+: replaceAll (c :: pattern) new text := by
  intro h
  obtain ⟨rest, -, hstart, hkept⟩ := exists_start_of_infix_replaceAll (by simp) hout hin h
  exact hkept hstart

/-- **Replacing can be taken back** if the text put in does not overlap itself and was nowhere before. -/
theorem replaceAll_cancel (hne : old ≠ []) {c : Char} (hself : BeginsOutside (c :: new) new) {text : List Char}
    (h : ¬ c :: new <:+: text) : replaceAll (c :: new) old (replaceAll old (c :: new) text) = text := by
  induction text using occurrence_induction hne with
  | nil => rfl
  | found rest ih =>
    have hrest : ¬ c :: new <:+: rest := by
      intro hlater
      exact h (hlater.trans (List.suffix_append old rest).isInfix)
    rw [replaceAll_old_append hne, replaceAll_old_append (by simp), ih hrest]
  | other d rest hkept ih =>
    rw [List.infix_cons_iff, not_or] at h
    have hstart : ¬ c :: new <+: d :: replaceAll old (c :: new) rest := by
      intro hmade
      obtain ⟨rfl, hmore⟩ := List.cons_prefix_cons.1 hmade
      exact h.1 (List.cons_prefix_cons.2 ⟨rfl, prefix_of_prefix_replaceAll hne hself hmore⟩)
    rw [replaceAll_cons hkept, replaceAll_cons hstart, ih h.2]

/-- an occurrence lies on one side of a character that it does not have -/
theorem infix_append_cons {c : Char} (hc : c ∉ pattern) {front rest : List Char} (h : pattern <:+: front ++ c :: rest) :
    pattern <:+: front ∨ pattern <:+: rest := by
  induction front with
  | nil =>
    rcases List.infix_cons_iff.1 h with hstart | hlater
    · exact Or.inl (prefix_of_not_mem hc hstart).isInfix
    · exact Or.inr hlater
  | cons d front ih =>
    rcases List.infix_cons_iff.1 h with hstart | hlater
    · exact Or.inl (prefix_of_not_mem hc hstart).isInfix
    · rcases ih hlater with hfront | hrest
      · exact Or.inl (hfront.trans (List.suffix_cons d front).isInfix)
      · exact Or.inr hrest

end Seams

theorem toList_replaced (old new s : String) :
    (replaced old new s).toList = replaceAll old.toList new.toList s.toList :=
  String.toList_ofList

end ComponentCompiler.Text
