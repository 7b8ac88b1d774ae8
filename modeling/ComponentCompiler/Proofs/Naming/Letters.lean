import ComponentCompiler.Proofs.LowerCase
import ComponentCompiler.Proofs.Naming

/-!
Identifiers letter by letter.

An identifier is made by cutting a text at its dashes and putting the capitalized pieces together. The same comes of one
pass over the text that remembers only whether the next letter leads, that is, comes first or right behind a dash
(`pascalChars_eq_onePass`). So each character of an identifier is told from one place of the text
(`getElem?_onePass`), and what identifiers tell apart are the letters of their texts without regard to case
(`map_toLower_onePass`). `pascal_letter_by_letter` puts this together.
-/

namespace ComponentCompiler.Naming

open Text

/-! ## One pass -/

/-- a letter as an identifier shows it -/
def cased (leads : Bool) (c : Char) : Char :=
  if leads then c.toUpper else c.toLower

/-- the identifier of a text in one pass; `leads` tells whether its first character leads -/
def onePass (leads : Bool) : List Char → List Char
  | [] => []
  | c :: rest => if c = '-' then onePass true rest else cased leads c :: onePass false rest

@[simp]
theorem onePass_dash (leads : Bool) (rest : List Char) : onePass leads ('-' :: rest) = onePass true rest := by
  simp [onePass]

theorem onePass_letter (leads : Bool) {c : Char} (rest : List Char) (h : c ≠ '-') :
    onePass leads (c :: rest) = cased leads c :: onePass false rest := by
  simp [onePass, h]

theorem exists_dashPieces (text : List Char) : ∃ first more, dashPieces text = first :: more := by
  cases text with
  | nil => exact ⟨[], [], rfl⟩
  | cons c rest =>
    unfold dashPieces
    split_ifs
    · exact ⟨_, _, rfl⟩
    · split <;> exact ⟨_, _, rfl⟩

/-- the pass capitalizes every piece but the one that it begins in, if that began earlier -/
theorem onePass_of_dashPieces {text first : List Char} {more : List (List Char)} (h : dashPieces text = first :: more)
    (leads : Bool) :
    onePass leads text = (if leads then capitalize first else first.map Char.toLower) ++ more.flatMap capitalize := by
  induction text generalizing leads first more with
  | nil =>
    obtain ⟨rfl, rfl⟩ := List.cons.inj h
    cases leads <;> rfl
  | cons c rest ih =>
    obtain ⟨next, later, hrest⟩ := exists_dashPieces rest
    by_cases hdash : c = '-'
    · subst hdash
      simp only [dashPieces, beq_self_eq_true, if_true, List.cons.injEq] at h
      obtain ⟨rfl, rfl⟩ := h
      rw [onePass_dash, ih hrest true, hrest]
      cases leads <;> simp [capitalize]
    · simp only [dashPieces, beq_iff_eq, hdash, if_false, hrest, List.cons.injEq] at h
      obtain ⟨rfl, rfl⟩ := h
      rw [onePass_letter leads rest hdash, ih hrest false]
      cases leads <;> simp [cased, capitalize]

/-- **One pass is enough.** -/
theorem pascalChars_eq_onePass (text : List Char) : pascalChars text = onePass true text := by
  obtain ⟨first, more, hpieces⟩ := exists_dashPieces text
  rw [onePass_of_dashPieces hpieces true, pascalChars, hpieces, List.flatMap_cons, if_pos rfl]

/-- behind a dash the pass begins anew -/
theorem onePass_append (leads : Bool) (a b : List Char) :
    onePass leads (a ++ '-' :: b) = onePass leads a ++ onePass true b := by
  induction a generalizing leads with
  | nil => exact onePass_dash leads b
  | cons c a ih =>
    by_cases hdash : c = '-'
    · subst hdash
      rw [List.cons_append, onePass_dash, onePass_dash, ih]
    · rw [List.cons_append, onePass_letter leads _ hdash, onePass_letter leads _ hdash, ih, List.cons_append]

/-! ## Places -/

/-- the letter number `k` of a text, counted from zero, dashes not among the letters: it is `c` and stands at the place
`i` -/
structure IsLetter (text : List Char) (k i : Nat) (c : Char) : Prop where
  stands : text[i]? = some c
  ne_dash : c ≠ '-'
  rank : (text.take i).countP (· != '-') = k

def leadsAt (leads : Bool) (text : List Char) : Nat → Bool
  | 0 => leads
  | i + 1 => text[i]? == some '-'

theorem leadsAt_cons_succ (leads : Bool) (a : Char) (rest : List Char) (i : Nat) :
    leadsAt leads (a :: rest) (i + 1) = leadsAt (a == '-') rest i := by
  cases i <;> simp [leadsAt]

theorem isLetter_cons_zero {a c : Char} {rest : List Char} {k : Nat} :
    IsLetter (a :: rest) k 0 c ↔ a = c ∧ c ≠ '-' ∧ k = 0 := by
  constructor
  · rintro ⟨hstands, hne, hrank⟩
    exact ⟨by simpa using hstands, hne, by simpa using hrank.symm⟩
  · rintro ⟨rfl, hne, rfl⟩
    exact ⟨rfl, hne, rfl⟩

theorem isLetter_dash_succ {c : Char} {rest : List Char} {k i : Nat} :
    IsLetter ('-' :: rest) k (i + 1) c ↔ IsLetter rest k i c := by
  constructor
  · rintro ⟨hstands, hne, hrank⟩
    exact ⟨by simpa using hstands, hne, by simpa using hrank⟩
  · rintro ⟨hstands, hne, hrank⟩
    exact ⟨by simpa using hstands, hne, by simpa using hrank⟩

theorem isLetter_cons_succ {a c : Char} {rest : List Char} {k i : Nat} (ha : a ≠ '-') :
    IsLetter (a :: rest) k (i + 1) c ↔ ∃ k', k = k' + 1 ∧ IsLetter rest k' i c := by
  constructor
  · rintro ⟨hstands, hne, hrank⟩
    refine ⟨(rest.take i).countP (· != '-'), ?_, ⟨by simpa using hstands, hne, rfl⟩⟩
    simpa [ha] using hrank.symm
  · rintro ⟨k', rfl, hstands, hne, hrank⟩
    exact ⟨by simpa using hstands, hne, by simpa [ha] using hrank⟩

/-- a character of the identifier is the letter of the same number, in the case of its place -/
theorem getElem?_onePass (leads : Bool) (text : List Char) (k : Nat) (d : Char) :
    (onePass leads text)[k]? = some d ↔ ∃ i c, IsLetter text k i c ∧ d = cased (leadsAt leads text i) c := by
  -- the flag is left general: the rest of the text is read with `true` behind a dash and with `false` behind a letter
  induction text generalizing leads k d with
  | nil =>
    simp only [onePass, List.getElem?_nil, reduceCtorEq, false_iff]
    rintro ⟨i, c, hletter, -⟩
    simpa using hletter.stands
  | cons a rest ih =>
    by_cases hdash : a = '-'
    · subst hdash
      rw [onePass_dash, ih]
      constructor
      · rintro ⟨i, c, hletter, rfl⟩
        exact ⟨i + 1, c, isLetter_dash_succ.2 hletter, by rw [leadsAt_cons_succ]; rfl⟩
      · rintro ⟨i, c, hletter, rfl⟩
        cases i with
        | zero =>
          obtain ⟨rfl, hne, -⟩ := isLetter_cons_zero.1 hletter
          exact absurd rfl hne
        | succ i => exact ⟨i, c, isLetter_dash_succ.1 hletter, by rw [leadsAt_cons_succ]; rfl⟩
    · have hfirst : (a == '-') = false := by simpa using hdash
      rw [onePass_letter leads rest hdash]
      constructor
      · intro h
        cases k with
        | zero => exact ⟨0, a, isLetter_cons_zero.2 ⟨rfl, hdash, rfl⟩, by simpa [leadsAt] using h.symm⟩
        | succ k =>
          obtain ⟨i, c, hletter, rfl⟩ := (ih false k d).1 (by simpa using h)
          exact ⟨i + 1, c, (isLetter_cons_succ hdash).2 ⟨k, rfl, hletter⟩, by rw [leadsAt_cons_succ, hfirst]⟩
      · rintro ⟨i, c, hletter, rfl⟩
        cases i with
        | zero =>
          obtain ⟨rfl, -, rfl⟩ := isLetter_cons_zero.1 hletter
          rfl
        | succ i =>
          obtain ⟨k, rfl, hlater⟩ := (isLetter_cons_succ hdash).1 hletter
          rw [List.getElem?_cons_succ, leadsAt_cons_succ, hfirst]
          exact (ih false k _).2 ⟨i, c, hlater, rfl⟩

theorem cased_leadsAt (text : List Char) (i : Nat) (c : Char) :
    cased (leadsAt true text i) c = if i = 0 ∨ text[i - 1]? = some '-' then c.toUpper else c.toLower := by
  cases i <;> simp [leadsAt, cased]

/-! ## What identifiers tell apart -/

/-- the letters of a text -/
def undashed (s : String) : String :=
  String.ofList (s.toList.filter (· != '-'))

theorem toLower_cased (leads : Bool) (c : Char) : (cased leads c).toLower = c.toLower := by
  cases leads
  · exact Char.toLower_toLower_eq_toLower c
  · exact Char.toLower_toUpper_eq_toLower c

/-- the pass drops the dashes and changes the case of letters at most -/
theorem map_toLower_onePass (leads : Bool) (text : List Char) :
    (onePass leads text).map Char.toLower = (text.filter (· != '-')).map Char.toLower := by
  induction text generalizing leads with
  | nil => rfl
  | cons c rest ih =>
    by_cases hdash : c = '-'
    · subst hdash
      rw [onePass_dash, ih]
      rfl
    · rw [onePass_letter leads rest hdash, List.map_cons, toLower_cased, ih]
      simp [hdash]

theorem toList_pascal (s : String) : (pascal s).toList = onePass true s.toList := by
  rw [pascal, String.toList_ofList, pascalChars_eq_onePass]

theorem sameButCase_of_pascal_eq {s t : String} (h : pascal s = pascal t) : SameButCase (undashed s) (undashed t) := by
  have hpass : onePass true s.toList = onePass true t.toList := by rw [← toList_pascal, ← toList_pascal, h]
  calc (undashed s).toList.map Char.toLower
      = (onePass true s.toList).map Char.toLower := by rw [map_toLower_onePass, undashed, String.toList_ofList]
    _ = (onePass true t.toList).map Char.toLower := by rw [hpass]
    _ = (undashed t).toList.map Char.toLower := by rw [map_toLower_onePass, undashed, String.toList_ofList]

/-- **Identifiers, letter by letter.** The character number `k` of an identifier is the letter number `k` of the text,
as a capital if the letter comes first in the text or right behind a dash and small otherwise, and there are no
characters but these. So the parts of a text before and behind a dash give their identifiers one after the other, only
dashes give none, and two texts give the same identifier only if they have the same letters but for the case. -/
theorem pascal_letter_by_letter :
    (∀ (s : String) (k : Nat) (d : Char), (pascal s).toList[k]? = some d ↔
      ∃ i c, IsLetter s.toList k i c ∧
        d = if i = 0 ∨ s.toList[i - 1]? = some '-' then c.toUpper else c.toLower) ∧
    (∀ a b : String, pascal (a ++ "-" ++ b) = pascal a ++ pascal b) ∧
    (∀ s : String, pascal s = "" ↔ ∀ c ∈ s.toList, c = '-') ∧
    (∀ s t : String, pascal s = pascal t → SameButCase (undashed s) (undashed t)) := by
  refine ⟨?_, ?_, ?_, fun s t => sameButCase_of_pascal_eq⟩
  · intro s k d
    rw [toList_pascal, getElem?_onePass]
    simp only [cased_leadsAt]
  · intro a b
    rw [← String.toList_inj, toList_pascal]
    simpa [toList_pascal] using onePass_append true a.toList b.toList
  · intro s
    rw [← pascalChars_eq_nil_iff, pascal, ← String.toList_inj, String.toList_ofList]
    rfl

/-- two stems that differ in their dashes and in the case of letters -/
theorem dashes_and_case_lost :
    pascal "x--tab-LE" = pascal "x-TAB--le-" ∧ SameButCase (undashed "x--tab-LE") (undashed "x-TAB--le-") ∧
      IsLetter "x--tab-LE".toList 5 8 'E' ∧ (pascal "x--tab-LE").toList[5]? = some 'e' := by
  obtain ⟨hletters, -, -, hsame⟩ := pascal_letter_by_letter
  have hpascal : pascal "x--tab-LE" = pascal "x-TAB--le-" := by decide
  have hletter : IsLetter "x--tab-LE".toList 5 8 'E' := ⟨by decide, by decide, by decide⟩
  exact ⟨hpascal, hsame _ _ hpascal, hletter, (hletters _ _ _).2 ⟨8, 'E', hletter, by decide⟩⟩

end ComponentCompiler.Naming
