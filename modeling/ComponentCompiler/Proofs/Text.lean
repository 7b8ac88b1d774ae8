import Mathlib.Data.List.DropRight
import Mathlib.Data.List.Infix
import ComponentCompiler.Text.Basic
import ComponentCompiler.Text.Fold
import ComponentCompiler.Text.Utf8
import ComponentCompiler.Text.Word

/-!
Facts about texts that do not depend on what the texts are for: words found without regard to case, trimming, and the
octets of a text.

- `foldedStart?_eq_some_iff`: a text begins with a word exactly when some first part of it folds to the word.
- `Quiet`: no occurrence of a word starts inside a part of a text; `quiet_of_not_foldedIn` gets it from the part alone,
  when the word has its one `<` at its beginning.
- `trim_eq_self`, `trim_eq_nil_iff`: what trimming leaves alone and what it makes empty.
- `reverse_takeWhile_append`: what follows the last separator.
- `Utf8.encode_injective`, `Utf8.mem_encode`: two texts with the same octets are the same, and an ASCII octet comes from
  its own character only.
-/

namespace ComponentCompiler.Text

/-! ## Words without regard to case -/

/-- the word occurs in the text, without regard to case -/
def FoldedIn (word text : List Char) : Prop :=
  word <:+: text.map foldChar

instance (word text : List Char) : Decidable (FoldedIn word text) :=
  inferInstanceAs (Decidable (word <:+: text.map foldChar))

theorem FoldedIn.mono {word part text : List Char} (h : FoldedIn word part) (hp : part <:+: text) :
    FoldedIn word text :=
  h.trans (hp.map foldChar)

theorem foldedStart?_of_map {written : List Char} (after : List Char) :
    foldedStart? (written.map foldChar) (written ++ after) = some (written, after) := by
  induction written with
  | nil => simp [foldedStart?]
  | cons c written ih => simp [foldedStart?, ih]

theorem map_of_foldedStart? {word text written after : List Char}
    (h : foldedStart? word text = some (written, after)) : written.map foldChar = word := by
  induction word generalizing text written with
  | nil =>
    simp only [foldedStart?, Option.some.injEq, Prod.mk.injEq] at h
    simp [← h.1]
  | cons w word ih =>
    cases text with
    | nil => simp [foldedStart?] at h
    | cons c rest =>
      by_cases hc : foldChar c == w
      · simp only [foldedStart?, hc, if_true, Option.map_eq_some_iff, Prod.exists, Prod.mk.injEq] at h
        obtain ⟨written', after', h', rfl, rfl⟩ := h
        rw [List.map_cons, ih h', beq_iff_eq.1 hc]
      · simp [foldedStart?, hc] at h

theorem foldedStart?_eq_some_iff {word text written after : List Char} :
    foldedStart? word text = some (written, after) ↔ text = written ++ after ∧ written.map foldChar = word := by
  constructor
  · intro h
    exact ⟨foldedStart?_eq h, map_of_foldedStart? h⟩
  · rintro ⟨rfl, rfl⟩
    exact foldedStart?_of_map after

/-- where a text begins with a word, the word occurs in it -/
theorem foldedIn_of_foldedStart? {word text : List Char} (h : (foldedStart? word text).isSome) :
    FoldedIn word text := by
  obtain ⟨⟨written, after⟩, hw⟩ := Option.isSome_iff_exists.1 h
  obtain ⟨rfl, rfl⟩ := foldedStart?_eq_some_iff.1 hw
  exact ⟨[], after.map foldChar, by simp⟩

theorem foldedStart?_eq_none_of_not_foldedIn {word text : List Char} (h : ¬ FoldedIn word text) :
    foldedStart? word text = none := by
  rw [← Option.not_isSome_iff_eq_none]
  exact fun hs => h (foldedIn_of_foldedStart? hs)

/-! ### ASCII letters -/

theorem toNat_toLower (c : Char) :
    c.toLower.toNat = if 65 ≤ c.toNat ∧ c.toNat ≤ 90 then c.toNat + 32 else c.toNat := by
  have hd : ('a'.val - 'A'.val).toNat = 32 := by decide
  by_cases h : c.val ≥ 'A'.val ∧ c.val ≤ 'Z'.val
  · have hn : 65 ≤ c.toNat ∧ c.toNat ≤ 90 := h
    have hlower : c.toLower = ⟨c.val + ('a'.val - 'A'.val), _⟩ := dif_pos h
    rw [hlower, if_pos hn, Char.toNat_mk, UInt32.toNat_add, hd, Char.toNat_val]
    omega
  · have hn : ¬ (65 ≤ c.toNat ∧ c.toNat ≤ 90) := h
    have hlower : c.toLower = c := dif_neg h
    rw [hlower, if_neg hn]

/-- the small forms of ASCII letters are letters, so no other ASCII character comes of one -/
theorem eq_of_toLower_eq {c w : Char} (h : c.toLower = w) (hw : w.toNat < 97) : c = w := by
  have hn := congrArg Char.toNat h
  rw [toNat_toLower] at hn
  split_ifs at hn with hc
  · omega
  · exact Char.toNat_inj.1 hn

theorem toNat_toUpper (c : Char) :
    c.toUpper.toNat = if 97 ≤ c.toNat ∧ c.toNat ≤ 122 then c.toNat - 32 else c.toNat := by
  have hd : ('A'.val - 'a'.val).toNat = 2 ^ 32 - 32 := by decide
  by_cases h : 'a'.val ≤ c.val ∧ c.val ≤ 'z'.val
  · have hn : 97 ≤ c.toNat ∧ c.toNat ≤ 122 := h
    have hupper : c.toUpper = ⟨c.val + ('A'.val - 'a'.val), _⟩ := dif_pos h
    rw [hupper, if_pos hn, Char.toNat_mk, UInt32.toNat_add, hd, Char.toNat_val]
    omega
  · have hn : ¬ (97 ≤ c.toNat ∧ c.toNat ≤ 122) := h
    have hupper : c.toUpper = c := dif_neg h
    rw [hupper, if_neg hn]

theorem eq_of_toUpper_eq {c w : Char} (h : c.toUpper = w) (hw : w.toNat < 65) : c = w := by
  have hn := congrArg Char.toNat h
  rw [toNat_toUpper] at hn
  split_ifs at hn with hc
  · omega
  · exact Char.toNat_inj.1 hn

/-- a character below the small letters is the only one that folds to itself -/
theorem eq_of_foldChar_eq {c w : Char} (h : foldChar c = w) (hw : w.toNat < 97) : c = w := by
  unfold foldChar at h
  split_ifs at h with hs hk
  · rw [← h] at hw; exact absurd hw (by decide)
  · rw [← h] at hw; exact absurd hw (by decide)
  · exact eq_of_toLower_eq h hw

theorem foldChar_of_toLower {c w : Char} (h : c.toLower = w) (hw : w.toNat < 128) : foldChar c = w := by
  have hn := congrArg Char.toNat h
  rw [toNat_toLower] at hn
  unfold foldChar
  split_ifs with hs hk
  · rw [beq_iff_eq] at hs; split_ifs at hn <;> omega
  · rw [beq_iff_eq] at hk; split_ifs at hn <;> omega
  · exact h

/-- a word in ASCII case folds to the word in small letters -/
theorem map_foldChar_of_toLower {written word : List Char} (h : written.map Char.toLower = word)
    (hw : ∀ w ∈ word, w.toNat < 128) : written.map foldChar = word := by
  rw [← h]
  refine List.map_congr_left fun c hc => ?_
  exact foldChar_of_toLower rfl (hw _ (h ▸ List.mem_map_of_mem hc))

/-! ### Parts of a text in which no occurrence starts -/

/-- no occurrence of the word starts inside `part`, when `rest` follows it -/
def Quiet (word rest : List Char) : (part : List Char) → Prop
  | [] => True
  | c :: part => foldedStart? word (c :: part ++ rest) = none ∧ Quiet word rest part

theorem Quiet.append {word a b rest : List Char} (ha : Quiet word (b ++ rest) a) (hb : Quiet word rest b) :
    Quiet word rest (a ++ b) := by
  induction a with
  | nil => exact hb
  | cons c a ih => exact ⟨by simpa using ha.1, ih ha.2⟩

theorem foldedStart?_cons_ne {w c : Char} {word text : List Char} (h : foldChar c ≠ w) :
    foldedStart? (w :: word) (c :: text) = none := by
  simp [foldedStart?, h]

/-- a part without `<` holds no beginning of a tag -/
theorem quiet_of_not_mem {word part : List Char} (rest : List Char) (h : '<' ∉ part) :
    Quiet ('<' :: word) rest part := by
  induction part with
  | nil => trivial
  | cons c part ih =>
    simp only [List.mem_cons, not_or] at h
    exact ⟨foldedStart?_cons_ne fun hc => h.1 (eq_of_foldChar_eq hc (by decide)).symm, ih h.2⟩

theorem prefix_takeWhile {α : Type} {p : α → Bool} {front text : List α} (h : front <+: text)
    (hp : ∀ a ∈ front, p a) : front <+: text.takeWhile p := by
  obtain ⟨rest, rfl⟩ := h
  rw [List.takeWhile_append_of_pos hp]
  exact List.prefix_append _ _

/-- an occurrence of a word whose only `<` is its first character ends before the next `<`, so it can be looked for in
the part and what follows the part up to a `<` -/
theorem quiet_of_not_foldedIn {word part rest : List Char} (hword : '<' ∉ word)
    (h : ¬ FoldedIn ('<' :: word) (part ++ rest.takeWhile (· != '<'))) : Quiet ('<' :: word) rest part := by
  induction part with
  | nil => trivial
  | cons c part ih =>
    refine ⟨?_, ih fun hf => h (hf.mono ((List.suffix_cons c _).isInfix))⟩
    rw [← Option.not_isSome_iff_eq_none]
    intro hsome
    obtain ⟨⟨written, after⟩, hw⟩ := Option.isSome_iff_exists.1 hsome
    obtain ⟨htext, hmap⟩ := foldedStart?_eq_some_iff.1 hw
    have hpre : written <+: c :: part ++ rest.takeWhile (· != '<') := by
      rcases List.append_eq_append_iff.1 htext with ⟨more, rfl, hrest⟩ | ⟨more, hpart, -⟩
      · refine (List.prefix_append_right_inj _).2 (prefix_takeWhile ⟨after, hrest.symm⟩ fun a ha => ?_)
        -- what the occurrence takes of `rest` stands behind its first character
        have hmem : foldChar a ∈ word := by
          simp only [List.cons_append, List.map_cons, List.cons.injEq, List.map_append] at hmap
          rw [← hmap.2]
          exact List.mem_append_right _ (List.mem_map_of_mem ha)
        have hangle : foldChar '<' = '<' := by decide
        simp only [bne_iff_ne, ne_eq]
        rintro rfl
        exact hword (hangle ▸ hmem)
      · exact (hpart ▸ List.prefix_append written more).trans (List.prefix_append _ _)
    obtain ⟨behind, hbehind⟩ := hpre.map foldChar
    exact h ⟨[], behind, by rw [← hbehind, hmap]; simp⟩

/-! ## White space -/

def blankCodes : List Nat :=
  [0x20, 0x09, 0x0A, 0x0B, 0x0C, 0x0D, 0x85, 0xA0, 0x1680, 0x2000, 0x2001, 0x2002, 0x2003, 0x2004, 0x2005,
   0x2006, 0x2007, 0x2008, 0x2009, 0x200A, 0x2028, 0x2029, 0x202F, 0x205F, 0x3000]

theorem mem_blankCodes {c : Char} (h : isBlank c) : c.toNat ∈ blankCodes := by
  simp only [isBlank, Bool.or_eq_true, beq_iff_eq, Bool.and_eq_true, decide_eq_true_eq] at h
  simp only [blankCodes, List.mem_cons, List.not_mem_nil, or_false]
  omega

/-- white space ends a word -/
theorem isWord_of_isBlank {c : Char} (h : isBlank c) : isWord c = false := by
  have hall : blankCodes.all (fun n => !isWord (Char.ofNat n)) = true := by decide +kernel
  have hc := List.all_eq_true.1 hall _ (mem_blankCodes h)
  rwa [Char.ofNat_toNat, Bool.not_eq_true'] at hc

/-! ## Trimming -/

/-- neither the first nor the last character is white space -/
def Tight (text : List Char) : Prop :=
  (∀ c ∈ text.head?, isBlank c = false) ∧ ∀ c ∈ text.getLast?, isBlank c = false

theorem trim_eq_rdropWhile (text : List Char) : trim text = (text.dropWhile isBlank).rdropWhile isBlank :=
  rfl

theorem trim_eq_nil_iff {text : List Char} : trim text = [] ↔ ∀ c ∈ text, isBlank c := by
  rw [trim_eq_rdropWhile, List.rdropWhile_eq_nil_iff]
  constructor
  · intro h
    rw [← List.dropWhile_eq_nil_iff]
    by_contra hne
    have hhead := List.head_dropWhile_not isBlank hne
    rw [h _ (List.head_mem hne)] at hhead
    exact absurd hhead (by decide)
  · intro h c hc
    exact h c ((List.dropWhile_suffix _).subset hc)

theorem trim_eq_self {text : List Char} (h : Tight text) : trim text = text := by
  have hfront : text.dropWhile isBlank = text := by
    cases text with
    | nil => rfl
    | cons c rest => exact List.dropWhile_cons_of_neg (by simp [h.1 c rfl])
  rw [trim_eq_rdropWhile, hfront, List.rdropWhile_eq_self_iff]
  intro hne
  simp [h.2 _ (List.getLast?_eq_some_getLast hne)]

theorem tight_trim (text : List Char) : Tight (trim text) := by
  rw [trim_eq_rdropWhile]
  constructor
  · intro c hc
    -- the front of the text is not touched by what is cut off at its end
    obtain ⟨cut, hcut⟩ := List.rdropWhile_prefix isBlank (text.dropWhile isBlank)
    have hne : (text.dropWhile isBlank).rdropWhile isBlank ≠ [] := by
      intro hnil
      simp [hnil] at hc
    have hhead : (text.dropWhile isBlank).head? = some c := by
      rw [← hcut, List.head?_append_of_ne_nil _ hne]
      exact hc
    have hnot := List.head?_dropWhile_not isBlank text
    rw [hhead] at hnot
    exact hnot
  · intro c hc
    obtain ⟨hne, hlast⟩ := List.mem_getLast?_eq_getLast hc
    have hnot := List.rdropWhile_last_not isBlank (text.dropWhile isBlank) hne
    rw [← hlast, Bool.not_eq_true] at hnot
    exact hnot

theorem tight_append {a b : List Char} (between : List Char) (ha : Tight a) (hb : Tight b) (hane : a ≠ [])
    (hbne : b ≠ []) : Tight (a ++ between ++ b) := by
  constructor
  · intro c hc
    rw [List.append_assoc, List.head?_append_of_ne_nil _ hane] at hc
    exact ha.1 c hc
  · intro c hc
    rw [List.getLast?_append_of_ne_nil _ hbne] at hc
    exact hb.2 c hc

/-- texts that are tight and not empty make a tight text when they are joined -/
theorem tight_intercalate (between : List Char) {texts : List (List Char)}
    (h : ∀ text ∈ texts, Tight text ∧ text ≠ []) :
    Tight (between.intercalate texts) ∧ (texts ≠ [] → between.intercalate texts ≠ []) := by
  induction texts with
  | nil => exact ⟨⟨by simp, by simp⟩, by simp⟩
  | cons text texts ih =>
    obtain ⟨htext, hne⟩ := h text List.mem_cons_self
    cases texts with
    | nil => simpa using ⟨htext, hne⟩
    | cons next texts =>
      obtain ⟨hrest, hrestNe⟩ := ih fun t ht => h t (List.mem_cons_of_mem _ ht)
      rw [List.intercalate_cons_cons]
      exact ⟨tight_append between htext hrest hne (hrestNe (by simp)), fun _ => by simp [hne]⟩

/-! ## The last separator -/

theorem exists_last_of_mem {α : Type} {a : α} {l : List α} (h : a ∈ l) :
    ∃ front back, l = front ++ a :: back ∧ a ∉ back := by
  obtain ⟨back, front, hsplit, hback⟩ := List.eq_append_cons_of_mem (List.mem_reverse.2 h)
  refine ⟨front.reverse, back.reverse, ?_, fun hmem => hback (List.mem_reverse.1 hmem)⟩
  rw [← List.reverse_reverse l, hsplit]
  simp

/-- what is taken from the end up to a separator is what follows the last one -/
theorem reverse_takeWhile_append {α : Type} [DecidableEq α] {a : α} (front : List α) {back : List α} (h : a ∉ back) :
    ((front ++ a :: back).reverse.takeWhile (· != a)).reverse = back := by
  have hback : ∀ b ∈ back.reverse, (b != a) = true := by
    intro b hmem
    rw [bne_iff_ne]
    rintro rfl
    exact h (List.mem_reverse.1 hmem)
  rw [List.reverse_append, List.reverse_cons, List.append_assoc, List.singleton_append,
    List.takeWhile_append_of_pos hback]
  simp

/-! ## Octets -/

namespace Utf8

theorem not_ascii_ofNat {n : Nat} (h : 128 ≤ n) (h' : n < 256) : ¬ (UInt8.ofNat n).toNat < 128 := by
  rw [UInt8.toNat_ofNat_of_lt' h']
  omega

/-- the octets of a character beyond ASCII are beyond ASCII -/
theorem toNat_of_mem_utf8EncodeChar {c : Char} {b : UInt8} (h : b ∈ String.utf8EncodeChar c) (hb : b.toNat < 128) :
    c.toNat = b.toNat := by
  revert h
  fun_cases String.utf8EncodeChar c with
  | case1 v hv =>
    simp only [List.mem_singleton]
    rintro rfl
    rw [UInt8.toNat_ofNat_of_lt' (by simp only [UInt8.size]; omega)]
    rfl
  | case2 =>
    intro h
    simp only [List.mem_cons, List.not_mem_nil, or_false] at h
    rcases h with rfl | rfl <;> exact absurd hb (not_ascii_ofNat (by omega) (by omega))
  | case3 =>
    intro h
    simp only [List.mem_cons, List.not_mem_nil, or_false] at h
    rcases h with rfl | rfl | rfl <;> exact absurd hb (not_ascii_ofNat (by omega) (by omega))
  | case4 =>
    intro h
    simp only [List.mem_cons, List.not_mem_nil, or_false] at h
    rcases h with rfl | rfl | rfl | rfl <;> exact absurd hb (not_ascii_ofNat (by omega) (by omega))

theorem mem_encode {s : String} {b : UInt8} (h : b ∈ encode s) (hb : b.toNat < 128) :
    Char.ofNat b.toNat ∈ s.toList := by
  obtain ⟨c, hc, hbc⟩ := List.mem_flatMap.1 h
  rw [← toNat_of_mem_utf8EncodeChar hbc hb, Char.ofNat_toNat]
  exact hc

theorem encode_injective {s t : String} (h : encode s = encode t) : s = t := by
  rw [← String.toByteArray_inj, ← String.utf8Encode_toList, ← String.utf8Encode_toList, List.utf8Encode,
    List.utf8Encode]
  exact congrArg List.toByteArray h

end Utf8

end ComponentCompiler.Text
