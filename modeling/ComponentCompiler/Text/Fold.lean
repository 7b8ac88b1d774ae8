/-!
Comparison without regard to case, as far as it concerns ASCII words. Besides its capital, the letter s has the long
form U+017F and the letter k the Kelvin sign U+212A.
-/

namespace ComponentCompiler.Text

/-- the small ASCII letter that a character stands for, or the character itself -/
def foldChar (c : Char) : Char :=
  if c.toNat == 0x17F then 's' else if c.toNat == 0x212A then 'k' else c.toLower

/-- a text that begins with a word in any case: the word as written, and what follows -/
def foldedStart? : List Char → List Char → Option (List Char × List Char)
  | [], text => some ([], text)
  | _ :: _, [] => none
  | w :: word, c :: rest =>
    if foldChar c == w then (foldedStart? word rest).map fun (written, after) => (c :: written, after) else none

/-- the word as written and what follows make up the text -/
theorem foldedStart?_eq {word text written after : List Char} (h : foldedStart? word text = some (written, after)) :
    text = written ++ after := by
  induction word generalizing text written with
  | nil => simp [foldedStart?] at h; simp [h.1.symm, h.2]
  | cons w word ih =>
    cases text with
    | nil => simp [foldedStart?] at h
    | cons c rest =>
      by_cases hc : foldChar c == w
      · simp only [foldedStart?, hc, if_true, Option.map_eq_some_iff, Prod.exists, Prod.mk.injEq] at h
        obtain ⟨written', after', h', rfl, rfl⟩ := h
        rw [ih h', List.cons_append]
      · simp [foldedStart?, hc] at h

/-- the word as written is as long as the word -/
theorem foldedStart?_length {word text written after : List Char} (h : foldedStart? word text = some (written, after)) :
    written.length = word.length := by
  induction word generalizing text written with
  | nil => simp [foldedStart?] at h; simp [h.1.symm]
  | cons w word ih =>
    cases text with
    | nil => simp [foldedStart?] at h
    | cons c rest =>
      by_cases hc : foldChar c == w
      · simp only [foldedStart?, hc, if_true, Option.map_eq_some_iff, Prod.exists, Prod.mk.injEq] at h
        obtain ⟨written', after', h', rfl, rfl⟩ := h
        simp [ih h']
      · simp [foldedStart?, hc] at h

end ComponentCompiler.Text
