import Mathlib.Data.List.Chain
import ComponentCompiler.Proofs.Template.Openings

/-!
Filling in values, said without a search.

A text is cut into parts, text and tokens in turn, where no part of text holds a token of its own (`Cut`). Parts may end
or begin with braces, as in the text `{{{ a }}}`. But a token has its braces together at its two ends, so that no token
begins in a part of text and ends beyond it (`token?_append`), and none begins inside another. What reading the text
from left to right finds is therefore what the parts say (`pieces_whole`).

`substitute_exact` draws three conclusions: filling in values changes the parts one by one, every text has a cut, and
only one but for empty parts.
-/

namespace ComponentCompiler.Template

open Text

/-! ## Tokens -/

/-- a token as it may be written: white space, a name and white space -/
structure Token.IsWritten (t : Token) : Prop where
  lead : ∀ c ∈ t.lead, isBlank c
  name : ∃ c rest, t.name = c :: rest ∧ startsName c ∧ ∀ d ∈ rest, continuesName d
  trail : ∀ c ∈ t.trail, isBlank c

/-- what follows the opening braces of a token -/
def Token.inner (t : Token) : List Char :=
  t.lead ++ (t.name ++ (t.trail ++ ['}', '}']))

theorem Token.text_eq (t : Token) : t.text = '{' :: '{' :: t.inner := by
  simp [Token.text, Token.inner]

theorem not_continuesName_of_isBlank {c : Char} (h : isBlank c) : continuesName c = false := by
  have hdollar : c ≠ '$' := by
    rintro rfl
    revert h
    decide
  simp [continuesName, isWord_of_isBlank h, hdollar]

theorem not_startsName_of_isBlank {c : Char} (h : isBlank c) : startsName c = false := by
  have hall : blankCodes.all (fun n => !startsName (Char.ofNat n)) = true := by decide
  have hc := List.all_eq_true.1 hall _ (mem_blankCodes h)
  rwa [Char.ofNat_toNat, Bool.not_eq_true'] at hc

/-- no brace opens behind the two at the beginning of a token -/
theorem Token.IsWritten.brace_not_mem_inner {t : Token} (h : t.IsWritten) : '{' ∉ t.inner := by
  obtain ⟨c, rest, hname, hstarts, hcontinues⟩ := h.name
  have hblank : isBlank '{' = false := by decide
  intro hmem
  simp only [Token.inner, hname, List.mem_append, List.mem_cons, List.not_mem_nil, or_false] at hmem
  rcases hmem with hlead | (rfl | hrest) | htrail | hclose | hclose
  · simp [h.lead _ hlead] at hblank
  · revert hstarts
    decide
  · have := hcontinues _ hrest
    revert this
    decide
  · simp [h.trail _ htrail] at hblank
  · cases hclose
  · cases hclose

/-- white space and a closing brace both end a name -/
theorem name?_append {c : Char} {rest trail : List Char} (hstarts : startsName c)
    (hcontinues : ∀ d ∈ rest, continuesName d) (htrail : ∀ d ∈ trail, isBlank d) (after : List Char) :
    name? (c :: (rest ++ (trail ++ '}' :: after))) = some (c :: rest, trail ++ '}' :: after) := by
  have hends : (trail ++ '}' :: after).takeWhile continuesName = [] ∧
      (trail ++ '}' :: after).dropWhile continuesName = trail ++ '}' :: after := by
    have hbrace : continuesName '}' = false := by decide
    cases trail with
    | nil => simp [hbrace]
    | cons d trail => simp [not_continuesName_of_isBlank (htrail d List.mem_cons_self)]
  simp only [name?, hstarts, if_true]
  rw [List.takeWhile_append_of_pos hcontinues, List.dropWhile_append_of_pos hcontinues, hends.1, hends.2,
    List.append_nil]

theorem tokenBody?_inner {t : Token} (h : t.IsWritten) (after : List Char) :
    tokenBody? (t.inner ++ after) = some (t, after) := by
  obtain ⟨lead, name, trail⟩ := t
  obtain ⟨hlead, ⟨c, rest, hname, hstarts, hcontinues⟩, htrail⟩ := h
  simp only at hlead hname htrail
  subst hname
  have hblank : ¬ isBlank c := by
    intro hc
    rw [not_startsName_of_isBlank hc] at hstarts
    cases hstarts
  have hbrace : isBlank '}' = false := by decide
  have hinner : Token.inner ⟨lead, c :: rest, trail⟩ ++ after =
      lead ++ c :: (rest ++ (trail ++ '}' :: '}' :: after)) := by
    simp [Token.inner]
  rw [hinner, tokenBody?, List.dropWhile_append_of_pos hlead, List.dropWhile_cons_of_neg hblank,
    name?_append hstarts hcontinues htrail]
  simp only
  rw [List.takeWhile_append_of_pos hlead, List.takeWhile_cons_of_neg hblank, List.append_nil,
    List.takeWhile_append_of_pos htrail, List.dropWhile_append_of_pos htrail]
  simp [hbrace, closeBraces?]

theorem isWritten_of_token? {text after : List Char} {t : Token} (h : token? text = some (t, after)) : t.IsWritten := by
  unfold token? at h
  split at h
  · next rest =>
    unfold tokenBody? at h
    split at h
    · cases h
    · next name afterName hname =>
      simp only [Option.map_eq_some_iff, Prod.mk.injEq] at h
      obtain ⟨after', -, rfl, -⟩ := h
      refine ⟨fun c hc => List.mem_takeWhile_imp hc, ?_, fun c hc => List.mem_takeWhile_imp hc⟩
      cases hrest : rest.dropWhile isBlank with
      | nil =>
        rw [hrest] at hname
        cases hname
      | cons c more =>
        rw [hrest] at hname
        by_cases hc : startsName c
        · simp only [name?, hc, if_true, Option.some.injEq, Prod.mk.injEq] at hname
          exact ⟨c, _, hname.1.symm, hc, fun d hd => List.mem_takeWhile_imp hd⟩
        · simp [name?, hc] at hname
  · cases h

/-- **The search at a place finds exactly the tokens.** -/
theorem token?_eq_some_iff {text after : List Char} {t : Token} :
    token? text = some (t, after) ↔ text = t.text ++ after ∧ t.IsWritten := by
  constructor
  · intro h
    exact ⟨token?_eq h, isWritten_of_token? h⟩
  · rintro ⟨rfl, hwritten⟩
    rw [Token.text_eq, List.cons_append, List.cons_append, token?]
    exact tokenBody?_inner hwritten after

/-! ## Texts without tokens -/

/-- a token stands somewhere in the text -/
def HoldsToken (text : List Char) : Prop :=
  ∃ t : Token, t.IsWritten ∧ t.text <:+: text

theorem holdsToken_iff {text : List Char} : HoldsToken text ↔ ∃ tail ∈ text.tails, (token? tail).isSome := by
  constructor
  · rintro ⟨t, hwritten, before, after, rfl⟩
    refine ⟨t.text ++ after, ?_, ?_⟩
    · rw [List.mem_tails, List.append_assoc]
      exact List.suffix_append before _
    · rw [token?_eq_some_iff.2 ⟨rfl, hwritten⟩]
      rfl
  · rintro ⟨tail, htail, hsome⟩
    obtain ⟨⟨t, after⟩, htoken⟩ := Option.isSome_iff_exists.1 hsome
    obtain ⟨rfl, hwritten⟩ := token?_eq_some_iff.1 htoken
    have hsuffix : t.text ++ after <:+ text := (List.mem_tails _ _).1 htail
    exact ⟨t, hwritten, (List.prefix_append t.text after).isInfix.trans hsuffix.isInfix⟩

instance (text : List Char) : Decidable (HoldsToken text) :=
  decidable_of_iff _ holdsToken_iff.symm

theorem HoldsToken.mono {part text : List Char} (h : HoldsToken part) (hpart : part <:+: text) : HoldsToken text := by
  obtain ⟨t, hwritten, hin⟩ := h
  exact ⟨t, hwritten, hin.trans hpart⟩

/-- the end of the text, or the beginning of a token -/
def StopsText (rest : List Char) : Prop :=
  rest = [] ∨ ∃ t more, t.IsWritten ∧ rest = Token.text t ++ more

/-- an opening brace of a token behind its beginning is the second one -/
theorem Token.IsWritten.inner_eq {t : Token} (h : t.IsWritten) {front back : List Char} (hne : front ≠ [])
    (htext : t.text = front ++ '{' :: back) : t.inner = back := by
  rw [Token.text_eq] at htext
  cases front with
  | nil => exact absurd rfl hne
  | cons c front =>
    obtain ⟨-, htext⟩ := List.cons.inj htext
    cases front with
    | nil => exact (List.cons.inj htext).2
    | cons d front =>
      obtain ⟨-, hinner⟩ := List.cons.inj htext
      refine absurd ?_ h.brace_not_mem_inner
      rw [hinner]
      simp

/-- **No token straddles.** In a text without tokens, before a token or the end, no token begins. -/
theorem token?_append {chars rest : List Char} (hne : chars ≠ []) (hplain : ¬ HoldsToken chars)
    (hrest : StopsText rest) :
    token? (chars ++ rest) = none := by
  by_contra hsome
  obtain ⟨⟨u, after⟩, htoken⟩ := Option.ne_none_iff_exists'.1 hsome
  obtain ⟨htext, hwritten⟩ := token?_eq_some_iff.1 htoken
  rcases List.append_eq_append_iff.1 htext with ⟨m, hu, hm⟩ | ⟨m, hchars, -⟩
  · cases m with
    | nil =>
      apply hplain
      exact ⟨u, hwritten, by simp [hu]⟩
    | cons d m =>
      -- the rest is not empty, so two braces follow the text, and only the first of them could belong to the token `u`
      rcases hrest with rfl | ⟨t, more, -, rfl⟩
      · cases hm
      · simp only [Token.text_eq, List.cons_append, List.cons.injEq] at hm
        obtain ⟨rfl, hm⟩ := hm
        have hinner := hwritten.inner_eq hne hu
        cases m with
        | nil => simp [Token.inner] at hinner
        | cons e m =>
          obtain ⟨rfl, -⟩ := List.cons.inj hm
          refine hwritten.brace_not_mem_inner ?_
          rw [hinner]
          exact List.mem_cons_self
  · apply hplain
    refine ⟨u, hwritten, ?_⟩
    rw [hchars]
    exact (List.prefix_append u.text m).isInfix

/-! ## Parts -/

/-- a part of a text: text or a token -/
inductive Part where
  | text (chars : List Char)
  | token (t : Token)
  deriving DecidableEq, Repr

namespace Part

def isText : Part → Bool
  | .text _ => true
  | .token _ => false

def isEmpty : Part → Bool
  | .text chars => chars.isEmpty
  | .token _ => false

/-- the part as it stands in the text -/
def chars : Part → List Char
  | .text chars => chars
  | .token t => t.text

def pieces : Part → List Piece
  | .text chars => chars.map Piece.char
  | .token t => [.token t]

/-- the part with values: a token becomes the value of the first pair with its name, if there is one -/
def filled (data : List (String × String)) : Part → List Char
  | .text chars => chars
  | .token t =>
    match data.lookup (String.ofList t.name) with
    | some value => value.toList
    | none => t.text

end Part

def whole (parts : List Part) : List Char :=
  parts.flatMap Part.chars

/-- parts of a text: text and tokens in turn, and no token in any of the texts alone -/
structure Cut (parts : List Part) : Prop where
  alternates : parts.IsChain fun p q => p.isText ≠ q.isText
  tokens : ∀ t, Part.token t ∈ parts → t.IsWritten
  texts : ∀ chars, Part.text chars ∈ parts → ¬ HoldsToken chars

namespace Cut

variable {p : Part} {parts : List Part}

theorem tail (h : Cut (p :: parts)) : Cut parts where
  alternates := (List.isChain_cons.1 h.alternates).2
  tokens := fun t ht => h.tokens t (List.mem_cons_of_mem p ht)
  texts := fun chars hchars => h.texts chars (List.mem_cons_of_mem p hchars)

/-- a text comes last, or a token follows it -/
theorem after_text {chars : List Char} (h : Cut (.text chars :: parts)) :
    parts = [] ∨ ∃ t more, parts = .token t :: more := by
  cases parts with
  | nil => exact Or.inl rfl
  | cons q more =>
    cases q with
    | token t => exact Or.inr ⟨t, more, rfl⟩
    | text chars' => exact absurd rfl (List.isChain_cons_cons.1 h.alternates).1

theorem stopsText {chars : List Char} (h : Cut (.text chars :: parts)) : StopsText (whole parts) := by
  rcases h.after_text with rfl | ⟨t, more, rfl⟩
  · exact Or.inl rfl
  · exact Or.inr ⟨t, whole more, h.tail.tokens t List.mem_cons_self, rfl⟩

end Cut

/-! ## Reading the parts -/

/-- a text without tokens is read as its characters -/
theorem pieces_append {chars rest : List Char} (hplain : ¬ HoldsToken chars) (hrest : StopsText rest) :
    pieces (chars ++ rest) = chars.map Piece.char ++ pieces rest := by
  induction chars with
  | nil => rfl
  | cons c chars ih =>
    have hnone : token? (c :: (chars ++ rest)) = none := token?_append (List.cons_ne_nil c chars) hplain hrest
    have hlater : ¬ HoldsToken chars := fun h => hplain (h.mono (List.suffix_cons c chars).isInfix)
    rw [List.cons_append, pieces_char hnone, ih hlater]
    rfl

/-- **What is read is what the parts say.** -/
theorem pieces_whole {parts : List Part} (h : Cut parts) : pieces (whole parts) = parts.flatMap Part.pieces := by
  induction parts with
  | nil => rw [whole, List.flatMap_nil, pieces, List.flatMap_nil]
  | cons p parts ih =>
    cases p with
    | text chars =>
      have hplain := h.texts chars List.mem_cons_self
      calc pieces (whole (.text chars :: parts))
          = pieces (chars ++ whole parts) := rfl
        _ = chars.map Piece.char ++ pieces (whole parts) := pieces_append hplain h.stopsText
        _ = (Part.text chars :: parts).flatMap Part.pieces := by rw [ih h.tail]; rfl
    | token t =>
      have htoken : token? (t.text ++ whole parts) = some (t, whole parts) :=
        token?_eq_some_iff.2 ⟨rfl, h.tokens t List.mem_cons_self⟩
      calc pieces (whole (.token t :: parts))
          = pieces (t.text ++ whole parts) := rfl
        _ = .token t :: pieces (whole parts) := pieces_token htoken
        _ = (Part.token t :: parts).flatMap Part.pieces := by rw [ih h.tail]; rfl

/-! ## Filling in -/

theorem find?_key_eq_lookup (data : List (String × String)) (key : String) :
    (data.find? fun entry => entry.1 == key).map Prod.snd = data.lookup key := by
  induction data with
  | nil => rfl
  | cons entry data ih =>
    rw [List.find?_cons, List.lookup_cons, BEq.comm (a := key)]
    cases entry.1 == key with
    | true => rfl
    | false => exact ih

theorem fill_pieces (data : List (String × String)) (p : Part) :
    p.pieces.flatMap (Piece.fill data) = p.filled data := by
  cases p with
  | text chars =>
    simp only [Part.pieces, Part.filled, List.flatMap_map, Piece.fill]
    simp
  | token t =>
    simp only [Part.pieces, Part.filled, List.flatMap_cons, List.flatMap_nil, List.append_nil, Piece.fill]
    rw [← find?_key_eq_lookup]
    cases data.find? fun entry => entry.1 == String.ofList t.name <;> rfl

theorem substitute_whole (data : List (String × String)) {parts : List Part} (h : Cut parts) :
    substitute data (whole parts) = parts.flatMap (Part.filled data) := by
  rw [substitute, pieces_whole h, List.flatMap_assoc]
  simp only [fill_pieces]

/-! ## Every text has a cut -/

/-- one more character in front of a text that comes first -/
theorem Cut.cons_char {c : Char} {chars : List Char} {parts : List Part} (h : Cut (.text chars :: parts))
    (hnone : token? (c :: whole (.text chars :: parts)) = none) : Cut (.text (c :: chars) :: parts) where
  alternates := by
    have halternates := h.alternates
    rw [List.isChain_cons] at halternates ⊢
    exact halternates
  tokens := fun t ht => h.tokens t (by simpa using ht)
  texts := by
    intro chars' hmem
    rcases List.mem_cons.1 hmem with heq | hlater
    · obtain rfl := Part.text.inj heq
      rintro ⟨t, hwritten, before, after, htext⟩
      cases before with
      | nil =>
        -- the token would begin at the new character
        have htoken : token? (t.text ++ (after ++ whole parts)) = some (t, after ++ whole parts) :=
          token?_eq_some_iff.2 ⟨rfl, hwritten⟩
        have hsame : t.text ++ (after ++ whole parts) = c :: whole (.text chars :: parts) := by
          rw [← List.append_assoc]
          exact congrArg (· ++ whole parts) htext
        rw [hsame, hnone] at htoken
        cases htoken
      | cons d before =>
        obtain ⟨-, hchars⟩ := List.cons.inj htext
        exact h.texts chars List.mem_cons_self ⟨t, hwritten, before, after, hchars⟩
    · exact h.texts chars' (List.mem_cons_of_mem _ hlater)

/-- a token in front of a text that comes first, and an empty text before it -/
theorem Cut.cons_token {t : Token} {chars : List Char} {parts : List Part} (h : Cut (.text chars :: parts))
    (hwritten : t.IsWritten) : Cut (.text [] :: .token t :: .text chars :: parts) where
  alternates := List.isChain_cons_cons.2 ⟨nofun, List.isChain_cons_cons.2 ⟨nofun, h.alternates⟩⟩
  tokens := by
    intro u hu
    simp only [List.mem_cons, reduceCtorEq, false_or, Part.token.injEq] at hu
    rcases hu with rfl | hlater
    · exact hwritten
    · exact h.tokens u (List.mem_cons_of_mem _ hlater)
  texts := by
    intro chars' hmem
    simp only [List.mem_cons, reduceCtorEq, false_or, Part.text.injEq] at hmem
    rcases hmem with rfl | hlater
    · decide
    · exact h.texts chars' (by simpa using hlater)

theorem exists_cut (text : List Char) :
    ∃ chars parts, Cut (.text chars :: parts) ∧ whole (.text chars :: parts) = text := by
  -- along the pieces of the text: each is put in front of the cut of what follows it
  fun_induction pieces text with
  | case1 =>
    refine ⟨[], [], ⟨List.isChain_singleton _, ?_, ?_⟩, rfl⟩
    · intro t hmem
      cases List.mem_singleton.1 hmem
    · intro chars hmem
      obtain rfl := Part.text.inj (List.mem_singleton.1 hmem)
      decide
  | case2 c rest t after htoken ih =>
    obtain ⟨chars, parts, hcut, hwhole⟩ := ih
    obtain ⟨htext, hwritten⟩ := token?_eq_some_iff.1 htoken
    refine ⟨[], .token t :: .text chars :: parts, hcut.cons_token hwritten, ?_⟩
    rw [htext, ← hwhole]
    rfl
  | case3 c rest hnone ih =>
    obtain ⟨chars, parts, hcut, hwhole⟩ := ih
    refine ⟨c :: chars, parts, hcut.cons_char (by rw [hwhole]; exact hnone), ?_⟩
    rw [← hwhole]
    rfl

/-! ## And only one -/

/-- tokens and characters put together to parts, as long as they can be -/
def gather : List Piece → List Part
  | [] => []
  | .token t :: later => .token t :: gather later
  | .char c :: later =>
    match gather later with
    | .text chars :: parts => .text (c :: chars) :: parts
    | parts => .text [c] :: parts

theorem gather_chars {c : Char} {chars : List Char} {later : List Piece}
    (h : gather later = [] ∨ ∃ t more, gather later = .token t :: more) :
    gather ((c :: chars).map Piece.char ++ later) = .text (c :: chars) :: gather later := by
  induction chars generalizing c with
  | nil =>
    rw [List.map_singleton, List.singleton_append, gather]
    rcases h with hnil | ⟨t, more, htoken⟩
    · rw [hnil]
    · rw [htoken]
  | cons d chars ih =>
    have hlater := ih (c := d)
    rw [List.map_cons, List.cons_append, gather, hlater]

/-- the parts of a cut that are not empty are those that its pieces make -/
theorem gather_pieces {parts : List Part} (h : Cut parts) :
    gather (parts.flatMap Part.pieces) = parts.filter (!·.isEmpty) := by
  induction parts with
  | nil => rfl
  | cons p parts ih =>
    have hlater := ih h.tail
    cases p with
    | token t =>
      rw [List.flatMap_cons, List.filter_cons_of_pos rfl, ← hlater]
      rfl
    | text chars =>
      cases chars with
      | nil =>
        rw [List.filter_cons_of_neg (by simp [Part.isEmpty]), ← hlater]
        rfl
      | cons c chars =>
        rw [List.flatMap_cons, List.filter_cons_of_pos rfl, ← hlater]
        apply gather_chars
        rcases h.after_text with rfl | ⟨t, more, rfl⟩
        · exact Or.inl rfl
        · exact Or.inr ⟨t, _, rfl⟩

theorem cut_unique {parts parts' : List Part} (h : Cut parts) (h' : Cut parts') (hwhole : whole parts = whole parts') :
    parts.filter (!·.isEmpty) = parts'.filter (!·.isEmpty) := by
  rw [← gather_pieces h, ← gather_pieces h', ← pieces_whole h, ← pieces_whole h', hwhole]

/-- **Filling in is exact.** In a text that is cut into parts, each token whose name has a value becomes the first value
given for it, and all else stays; what is put in is not looked at again. Every text has a cut, and only one but for
empty parts. -/
theorem substitute_exact (data : List (String × String)) :
    (∀ parts, Cut parts → substitute data (whole parts) = parts.flatMap (Part.filled data)) ∧
    (∀ text, ∃ parts, Cut parts ∧ whole parts = text) ∧
    (∀ parts parts', Cut parts → Cut parts' → whole parts = whole parts' →
      parts.filter (!·.isEmpty) = parts'.filter (!·.isEmpty)) := by
  refine ⟨?_, ?_, ?_⟩
  · intro parts h
    exact substitute_whole data h
  · intro text
    obtain ⟨chars, parts, hcut, hwhole⟩ := exists_cut text
    exact ⟨.text chars :: parts, hcut, hwhole⟩
  · intro parts parts' h h' hwhole
    exact cut_unique h h' hwhole

/-- tokens among other braces: `{{{ a }}}{{a{{b}}}}` -/
def bracePile : List Part :=
  [.text ['{'], .token ⟨[' '], ['a'], [' ']⟩, .text ['}', '{', '{', 'a'], .token ⟨[], ['b'], []⟩, .text ['}', '}']]

theorem bracePile_cut : Cut bracePile where
  alternates := by decide
  tokens := by
    intro t ht
    simp only [bracePile, List.mem_cons, reduceCtorEq, false_or, Part.token.injEq, List.not_mem_nil, or_false] at ht
    rcases ht with rfl | rfl
    · exact ⟨List.all_eq_true.1 (by decide), ⟨'a', [], rfl, by decide, nofun⟩, List.all_eq_true.1 (by decide)⟩
    · exact ⟨nofun, ⟨'b', [], rfl, by decide, nofun⟩, nofun⟩
  texts := by
    intro chars hchars
    simp only [bracePile, List.mem_cons, reduceCtorEq, false_or, Part.text.injEq, List.not_mem_nil, or_false] at hchars
    rcases hchars with rfl | rfl | rfl <;> decide

/-- the value for `a` is itself a token, and is put in as it is -/
theorem bracePile_filled :
    let data := [("a", "\x7b\x7bb\x7d\x7d"), ("b", "\x7bb\x7d"), ("a", "x")]
    Cut bracePile ∧ String.ofList (whole bracePile) = "\x7b\x7b\x7b a \x7d\x7d\x7d\x7b\x7ba\x7b\x7bb\x7d\x7d\x7d\x7d" ∧
      String.ofList (substitute data (whole bracePile)) =
        "\x7b" ++ "\x7b\x7bb\x7d\x7d" ++ "\x7d\x7b\x7ba" ++ "\x7bb\x7d" ++ "\x7d\x7d" := by
  intro data
  obtain ⟨hfill, -, -⟩ := substitute_exact data
  refine ⟨bracePile_cut, by decide, ?_⟩
  rw [hfill bracePile bracePile_cut]
  decide

end ComponentCompiler.Template
