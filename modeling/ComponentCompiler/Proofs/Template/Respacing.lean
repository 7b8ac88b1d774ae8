import Mathlib.Data.List.Basic
import ComponentCompiler.Target
import ComponentCompiler.Proofs.Template.Substitution

/-!
Filling in tokens for tokens.

A target with double braces around its props puts `{{ a }}` in the place of a token with the name `a`: again a token,
and with the same name (`filled_placeholders`). So a cut of the text becomes a cut of the result, part by part
(`Cut.map_respaced`), and reading the result finds the tokens of the text and no others. All that changes is the white
space inside the tokens of declared props, and that only the first time: `substitute_vue_twice`.
-/

namespace ComponentCompiler.Template

open Text

/-- the part with one blank on either side of the name of a declared prop, and unchanged otherwise -/
def Part.respaced (props : Props) : Part → Part
  | .text chars => .text chars
  | .token t => .token (if String.ofList t.name ∈ props.names then ⟨[' '], t.name, [' ']⟩ else t)

variable {props : Props}

theorem Part.isText_respaced (p : Part) : (p.respaced props).isText = p.isText := by
  cases p <;> rfl

theorem Part.respaced_respaced (p : Part) : (p.respaced props).respaced props = p.respaced props := by
  cases p with
  | text chars => rfl
  | token t =>
    simp only [Part.respaced]
    split_ifs with hdeclared
    · rfl
    · rfl

/-- a token may be written with any white space around its name -/
theorem Token.IsWritten.respace {t : Token} (h : t.IsWritten) : Token.IsWritten ⟨[' '], t.name, [' ']⟩ := by
  have hblank : ∀ c ∈ [' '], isBlank c := List.all_eq_true.1 (by decide)
  exact ⟨hblank, h.name, hblank⟩

/-- tokens stay tokens, and texts stay without any -/
theorem Cut.map_respaced {parts : List Part} (h : Cut parts) : Cut (parts.map (Part.respaced props)) where
  alternates := by
    rw [List.isChain_map]
    simpa only [Part.isText_respaced] using h.alternates
  tokens := by
    intro u hu
    obtain ⟨p, hp, hpu⟩ := List.mem_map.1 hu
    cases p with
    | text chars => cases hpu
    | token t =>
      obtain rfl := Part.token.inj hpu
      have hwritten := h.tokens t hp
      split_ifs
      · exact hwritten.respace
      · exact hwritten
  texts := by
    intro chars hchars
    obtain ⟨p, hp, hpchars⟩ := List.mem_map.1 hchars
    cases p with
    | token t => cases hpchars
    | text chars' =>
      obtain rfl := Part.text.inj hpchars
      exact h.texts chars' hp

/-! ## The placeholders of a target -/

/-- a name may be declared more than once: each time its placeholder is the same -/
theorem lookup_placeholders (target : Target) (props : Props) (name : String) :
    (target.placeholders props).lookup name = if name ∈ props.names then some (target.placeholder name) else none := by
  unfold Target.placeholders
  split_ifs with hdeclared
  · exact List.lookup_graph target.placeholder hdeclared
  · rw [List.lookup_eq_none_iff]
    intro pair hpair
    obtain ⟨declared, hmem, rfl⟩ := List.mem_map.1 hpair
    simpa using (ne_of_mem_of_not_mem hmem hdeclared).symm

/-- double braces and blanks make a token of a name -/
theorem toList_placeholder {target : Target} (h : target.braces = .double) (name : List Char) :
    (target.placeholder (String.ofList name)).toList = Token.text ⟨[' '], name, [' ']⟩ := by
  simp [Target.placeholder, h, Token.text]

/-- what is put in the place of a part is the part with other white space -/
theorem filled_placeholders {target : Target} (h : target.braces = .double) (p : Part) :
    p.filled (target.placeholders props) = (p.respaced props).chars := by
  cases p with
  | text chars => rfl
  | token t =>
    rw [Part.filled, lookup_placeholders, Part.respaced]
    split_ifs with hdeclared
    · exact toList_placeholder h t.name
    · rfl

theorem substitute_placeholders {target : Target} (h : target.braces = .double) {parts : List Part} (hcut : Cut parts) :
    substitute (target.placeholders props) (whole parts) = whole (parts.map (Part.respaced props)) := by
  have hfilled : Part.filled (target.placeholders props) = fun p => (p.respaced props).chars :=
    funext (filled_placeholders h)
  rw [substitute_whole _ hcut, whole, List.flatMap_map, hfilled]

/-- **Filling in a second time changes nothing.** With the double braces of Vue, filling in the declared props gives a
text with the parts of the one before, one for one: the same texts, the same tokens of other names, and the tokens of
declared props with one blank on either side of the name. Filling in again leaves it as it is. -/
theorem substitute_vue_twice (props : Props) (text : List Char) :
    let data := Target.vue.placeholders props
    let once := substitute data text
    substitute data once = once ∧
    ∃ parts, Cut parts ∧ whole parts = text ∧
      Cut (parts.map (Part.respaced props)) ∧ whole (parts.map (Part.respaced props)) = once := by
  intro data once
  obtain ⟨chars, parts, hcut, rfl⟩ := exists_cut text
  have honce : once = whole ((Part.text chars :: parts).map (Part.respaced props)) := substitute_placeholders rfl hcut
  refine ⟨?_, _, hcut, rfl, hcut.map_respaced, honce.symm⟩
  calc substitute data once
      = whole (((Part.text chars :: parts).map (Part.respaced props)).map (Part.respaced props)) := by
        rw [honce]
        exact substitute_placeholders rfl hcut.map_respaced
    _ = once := by
        rw [honce, List.map_map]
        simp only [Function.comp_def, Part.respaced_respaced]

/-- braces around a token stay, and so does a token of another name -/
example :
    let data := Target.vue.placeholders ⟨[⟨"a", "string"⟩, ⟨"a", "number"⟩]⟩
    substitute data "\x7b\x7b\x7ba\x7d\x7d\x7d\x7b\x7bb \x7d\x7d".toList =
      "\x7b\x7b\x7b a \x7d\x7d\x7d\x7b\x7bb \x7d\x7d".toList := by
  decide +kernel

end ComponentCompiler.Template
