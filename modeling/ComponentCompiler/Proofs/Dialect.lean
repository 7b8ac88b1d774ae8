import ComponentCompiler.Dialect
import ComponentCompiler.Proofs.Occurrence

/-!
What the two rewrites of a dialect leave, and how they are taken back.

The class attribute and the opening tag are replaced one after the other, so each could make or break what the other
looks for. Neither happens. A tag is bound behind its name, and no class attribute lies across the place
(`not_class_bind`); a class attribute ends with an equals sign, and the only one of a bound tag belongs to its binding
(`not_boundTag_withClasses`).

Hence normalized markup is settled (`settled_normalize`): there is nothing left to rewrite, and `normalize_settles` says
that normalizing again changes nothing. In the other direction `normalize_loses_nothing` takes the two rewrites back,
the last one first.
-/

namespace ComponentCompiler.Dialect

open Text

def builtin : List Dialect := [react, preact, astro, vue]

variable {d : Dialect}

theorem toList_bareTag (tag : String) : (bareTag tag).toList = '<' :: (tag.toList ++ ['>']) := by
  simp [bareTag]

theorem toList_boundTag (d : Dialect) (tag : String) :
    (d.boundTag tag).toList = '<' :: (tag.toList ++ ' ' :: (d.bindingAttribute.toList ++ ['>'])) := by
  simp [boundTag]

/-- a text of word characters and signs occurs in a bound tag only inside the name or inside the binding -/
theorem infix_boundTag {pattern : List Char} {tag : String} (hopens : '<' ∉ pattern) (hblank : ' ' ∉ pattern)
    (hcloses : '>' ∉ pattern) (h : pattern <:+: (d.boundTag tag).toList) :
    pattern <:+: tag.toList ∨ pattern <:+: d.bindingAttribute.toList := by
  have h : pattern <:+: [] ++ '<' :: (tag.toList ++ ' ' :: (d.bindingAttribute.toList ++ ['>'])) := by
    rwa [toList_boundTag] at h
  rcases infix_append_cons hopens h with hnil | h
  · exact Or.inl (hnil.trans List.nil_infix)
  · rcases infix_append_cons hblank h with hname | h
    · exact Or.inl hname
    · rcases infix_append_cons hcloses h with hbinding | hnil
      · exact Or.inr hbinding
      · exact Or.inr (hnil.trans List.nil_infix)

/-- only one dialect has a class attribute of its own -/
theorem eq_react_or_class (hd : d ∈ builtin) : d = react ∨ d.classAttribute = "class=" := by
  simp only [builtin, List.mem_cons, List.not_mem_nil, or_false] at hd
  rcases hd with rfl | rfl | rfl | rfl
  · exact Or.inl rfl
  · exact Or.inr rfl
  · exact Or.inr rfl
  · exact Or.inr rfl

theorem not_mem_bindingAttribute (hd : d ∈ builtin) : '<' ∉ d.bindingAttribute.toList := by
  revert d
  decide

/-! ## The two rewrites -/

theorem withClasses_eq_self (h : d.classAttribute = "class=") (markup : String) : d.withClasses markup = markup := by
  apply String.toList_injective
  rw [withClasses, toList_replaced, h]
  exact replaceAll_same (by decide) markup.toList

theorem normalize_wired (d : Dialect) (markup tag : String) :
    d.normalize markup (some tag) true = d.bind tag (d.withClasses markup) :=
  rfl

theorem normalize_unwired {tag : Option String} {interactive : Bool} (h : interactive = false ∨ tag = none)
    (d : Dialect) (markup : String) : d.normalize markup tag interactive = d.withClasses markup := by
  rcases h with rfl | rfl
  · cases tag <;> rfl
  · rfl

/-- a component is wired, or one of the two things it takes is missing -/
theorem wired_or_not (tag : Option String) (interactive : Bool) :
    (∃ t, tag = some t ∧ interactive = true) ∨ (interactive = false ∨ tag = none) := by
  cases tag <;> cases interactive <;> simp

/-! ## Nothing is left to rewrite -/

/-- markup that has nothing a dialect rewrites -/
structure Settled (d : Dialect) (tag : Option String) (interactive : Bool) (markup : String) : Prop where
  classes : d = react → ¬ "class=".toList <:+: markup.toList
  element : interactive = true → ∀ t ∈ tag, ¬ (bareTag t).toList <:+: markup.toList

theorem withClasses_eq_self_of_not_infix (d : Dialect) {markup : String} (h : ¬ "class=".toList <:+: markup.toList) :
    d.withClasses markup = markup := by
  apply String.toList_injective
  rw [withClasses, toList_replaced, replaceAll_eq_self h]

theorem bind_eq_self (d : Dialect) {tag markup : String} (h : ¬ (bareTag tag).toList <:+: markup.toList) :
    d.bind tag markup = markup := by
  apply String.toList_injective
  rw [bind, toList_replaced, replaceAll_eq_self h]

theorem Settled.normalize_eq_self (hd : d ∈ builtin) {tag : Option String} {interactive : Bool} {markup : String}
    (h : d.Settled tag interactive markup) : d.normalize markup tag interactive = markup := by
  have hclasses : d.withClasses markup = markup := by
    rcases eq_react_or_class hd with hreact | hclass
    · exact withClasses_eq_self_of_not_infix d (h.classes hreact)
    · exact withClasses_eq_self hclass markup
  rcases wired_or_not tag interactive with ⟨t, rfl, rfl⟩ | hunwired
  · rw [normalize_wired, hclasses]
    exact bind_eq_self d (h.element rfl t rfl)
  · rw [normalize_unwired hunwired, hclasses]

theorem not_class_withClasses (markup : String) : ¬ "class=".toList <:+: (react.withClasses markup).toList := by
  rw [withClasses, toList_replaced]
  exact not_infix_replaceAll (by decide) (by decide) markup.toList

/-- binding a tag makes no class attribute, whatever the tag is -/
theorem not_class_bind {markup : String} (tag : String) (h : ¬ "class=".toList <:+: markup.toList) :
    ¬ "class=".toList <:+: (react.bind tag markup).toList := by
  by_cases htag : "class=".toList <:+: tag.toList
  · -- the markup has no such tag
    rw [bind_eq_self]
    · exact h
    · intro hbare
      rw [toList_bareTag] at hbare
      have hname : tag.toList <:+: '<' :: (tag.toList ++ ['>']) := ⟨['<'], ['>'], by simp⟩
      exact h (htag.trans (hname.trans hbare))
  · have hbound : ¬ "class=".toList <:+: (react.boundTag tag).toList := by
      intro hin
      rcases infix_boundTag (by decide) (by decide) (by decide) hin with hname | hbinding
      · exact htag hname
      · revert hbinding
        decide
    have hends : (react.boundTag tag).toList =
        '<' :: (tag.toList ++ ' ' :: react.bindingAttribute.toList) ++ ['>'] := by
      simp [toList_boundTag]
    intro hin
    rw [bind, toList_replaced] at hin
    refine h (infix_of_infix_replaceAll ?_ ?_ ?_ hin)
    · simp [toList_bareTag]
    · rw [hends] at hbound ⊢
      exact beginsOutside_concat (by decide) hbound
    · rw [toList_boundTag]
      exact beginsOutside_of_not_mem (by decide)

/-- behind the name, where a bare tag closes, a bound tag goes on -/
theorem beginsOutside_boundTag (d : Dialect) {tag : String} (htag : '<' ∉ tag.toList) (hd : d ∈ builtin) :
    BeginsOutside (bareTag tag).toList (d.boundTag tag).toList := by
  rw [toList_bareTag, toList_boundTag, beginsOutside_cons_iff]
  refine ⟨⟨?_, ?_⟩, beginsOutside_of_not_mem ?_⟩
  · simp [List.cons_prefix_cons, List.prefix_append_right_inj]
  · simp [List.cons_prefix_cons, List.prefix_append_right_inj]
  · simp [htag, not_mem_bindingAttribute hd]

theorem not_bareTag_bind (hd : d ∈ builtin) {tag : String} (htag : '<' ∉ tag.toList) (markup : String) :
    ¬ (bareTag tag).toList <:+: (d.bind tag markup).toList := by
  have hout := beginsOutside_boundTag d htag hd
  rw [bind, toList_replaced]
  rw [toList_bareTag] at hout ⊢
  apply not_infix_replaceAll hout
  rw [toList_boundTag]
  exact beginsOutside_of_not_mem (by simp [htag])

theorem not_class_normalize (markup : String) (tag : Option String) (interactive : Bool) :
    ¬ "class=".toList <:+: (react.normalize markup tag interactive).toList := by
  rcases wired_or_not tag interactive with ⟨t, rfl, rfl⟩ | hunwired
  · rw [normalize_wired]
    exact not_class_bind t (not_class_withClasses markup)
  · rw [normalize_unwired hunwired]
    exact not_class_withClasses markup

/-- normalized markup is settled -/
theorem settled_normalize (hd : d ∈ builtin) (markup : String) {tag : Option String} (interactive : Bool)
    (htag : ∀ t ∈ tag, '<' ∉ t.toList) : d.Settled tag interactive (d.normalize markup tag interactive) where
  classes := by
    rintro rfl
    exact not_class_normalize markup tag interactive
  element := by
    rintro rfl t ht
    obtain rfl : tag = some t := ht
    exact not_bareTag_bind hd (htag t rfl) _

/-- **Normalizing settles markup.** For every dialect and every tag in which no other tag opens, normalizing a second
time changes nothing; the first time leaves no class attribute where the dialect has its own, whatever the tag, and no
opening tag of a wired component without its binding. -/
theorem normalize_settles (hd : d ∈ builtin) (markup : String) (tag : Option String) (interactive : Bool) :
    ((∀ t ∈ tag, '<' ∉ t.toList) →
      d.normalize (d.normalize markup tag interactive) tag interactive = d.normalize markup tag interactive) ∧
    ¬ "class=".toList <:+: (react.normalize markup tag interactive).toList ∧
    ∀ t, '<' ∉ t.toList → ¬ ("<" ++ t ++ ">").toList <:+: (d.normalize markup (some t) true).toList := by
  refine ⟨?_, not_class_normalize markup tag interactive, ?_⟩
  · intro htag
    exact (settled_normalize hd markup interactive htag).normalize_eq_self hd
  · intro t ht
    exact not_bareTag_bind hd ht _

/-- opening tags next to each other, class attributes in a text, and one cut by another -/
theorem crowded_markup_settles :
    let markup := "<<x>class=<x class=>clasclass=s=</x>"
    let normalized := "<<x ref=\x7bwc\x7d>className=<x className=>clasclassName=s=</x>"
    react.normalize markup (some "x") true = normalized ∧ react.normalize normalized (some "x") true = normalized ∧
      ¬ "class=".toList <:+: normalized.toList ∧ ¬ "<x>".toList <:+: normalized.toList := by
  intro markup normalized
  have hnormalized : react.normalize markup (some "x") true = normalized := by decide +kernel
  have hname : '<' ∉ "x".toList := by decide
  have hreact : react ∈ builtin := by decide
  obtain ⟨hagain, hclass, hbare⟩ := normalize_settles hreact markup (some "x") true
  rw [hnormalized] at hagain hclass
  have hbare' := hbare "x" hname
  rw [hnormalized] at hbare'
  exact ⟨hnormalized, hagain (by simp), hclass, hbare'⟩

/-! ## The way back -/

/-- markup as it was before a dialect rewrote it -/
def restore (d : Dialect) (markup : String) (tag : Option String) (interactive : Bool) : String :=
  let markup :=
    match tag with
    | some tag => if interactive then replaced (d.boundTag tag) (bareTag tag) markup else markup
    | none => markup
  if d = react then replaced "className=" "class=" markup else markup

/-- a bound tag is found again where it was bound, and only there -/
theorem replaced_bind (hd : d ∈ builtin) {tag markup : String} (htag : '<' ∉ tag.toList)
    (h : ¬ (d.boundTag tag).toList <:+: markup.toList) :
    replaced (d.boundTag tag) (bareTag tag) (d.bind tag markup) = markup := by
  apply String.toList_injective
  rw [toList_replaced, bind, toList_replaced]
  rw [toList_boundTag] at h ⊢
  apply replaceAll_cancel _ _ h
  · simp [toList_bareTag]
  · exact beginsOutside_of_not_mem (by simp [htag, not_mem_bindingAttribute hd])

theorem replaced_withClasses {markup : String} (h : ¬ "className=".toList <:+: markup.toList) :
    replaced "className=" "class=" (react.withClasses markup) = markup := by
  apply String.toList_injective
  rw [toList_replaced, withClasses, toList_replaced]
  exact replaceAll_cancel (by decide) (by decide) h

/-- rewriting classes makes no bound tag: the equals sign behind a class is not the one of the binding -/
theorem not_boundTag_withClasses (hd : d ∈ builtin) {tag markup : String} (htag : '=' ∉ tag.toList)
    (h : ¬ (d.boundTag tag).toList <:+: markup.toList) :
    ¬ (d.boundTag tag).toList <:+: (d.withClasses markup).toList := by
  rcases eq_react_or_class hd with rfl | hclass
  · have hname : ¬ "className=".toList <:+: (react.boundTag tag).toList := by
      intro hin
      rcases infix_boundTag (by decide) (by decide) (by decide) hin with hname | hbinding
      · exact htag (hname.subset (by decide))
      · revert hbinding
        decide
    intro hin
    rw [withClasses, toList_replaced] at hin
    rw [toList_boundTag] at h hin hname
    refine h (infix_of_infix_replaceAll (by decide) (beginsOutside_of_not_mem (by decide)) ?_ hin)
    have hends : tag.toList ++ ' ' :: (react.bindingAttribute.toList ++ ['>']) =
        (tag.toList ++ ' ' :: react.bindingAttribute.toList) ++ ['>'] := by simp
    rw [hends] at hname ⊢
    apply beginsOutside_concat (by decide)
    intro hlater
    exact hname (hlater.trans (List.suffix_cons _ _).isInfix)
  · rwa [withClasses_eq_self hclass]

theorem restore_wired (d : Dialect) (markup tag : String) :
    d.restore markup (some tag) true =
      if d = react then replaced "className=" "class=" (replaced (d.boundTag tag) (bareTag tag) markup)
      else replaced (d.boundTag tag) (bareTag tag) markup :=
  rfl

theorem restore_unwired {tag : Option String} {interactive : Bool} (h : interactive = false ∨ tag = none) (d : Dialect)
    (markup : String) :
    d.restore markup tag interactive = if d = react then replaced "className=" "class=" markup else markup := by
  rcases h with rfl | rfl
  · cases tag <;> rfl
  · rfl

/-- the class attribute is taken back where there is one of the dialect's own -/
theorem withClasses_back (hd : d ∈ builtin) {markup : String}
    (h : d = react → ¬ "className=".toList <:+: markup.toList) :
    (if d = react then replaced "className=" "class=" (d.withClasses markup) else d.withClasses markup) = markup := by
  rcases eq_react_or_class hd with rfl | hclass
  · rw [if_pos rfl, replaced_withClasses (h rfl)]
  · have hother : d ≠ react := by
      rintro rfl
      revert hclass
      decide
    rw [if_neg hother, withClasses_eq_self hclass]

/-- **Normalizing loses nothing.** Markup without anything that the dialect itself writes comes back when bound tags
become bare again and then the dialect's class attribute becomes `class=`. The dialects without a class attribute of
their own change nothing in a component that is not wired. -/
theorem normalize_loses_nothing (hd : d ∈ builtin) (markup : String) (tag : Option String) (interactive : Bool) :
    ((∀ t ∈ tag, '<' ∉ t.toList ∧ '=' ∉ t.toList) →
      (d = react → ¬ "className=".toList <:+: markup.toList) →
      (interactive = true → ∀ t ∈ tag, ¬ (d.boundTag t).toList <:+: markup.toList) →
      d.restore (d.normalize markup tag interactive) tag interactive = markup) ∧
    (d ≠ react → interactive = false ∨ tag = none → d.normalize markup tag interactive = markup) := by
  constructor
  · intro htag hclasses hbound
    rcases wired_or_not tag interactive with ⟨t, rfl, rfl⟩ | hunwired
    · obtain ⟨hopens, hequals⟩ := htag t rfl
      have hnew := not_boundTag_withClasses hd hequals (hbound rfl t rfl)
      rw [normalize_wired, restore_wired, replaced_bind hd hopens hnew]
      exact withClasses_back hd hclasses
    · rw [normalize_unwired hunwired, restore_unwired hunwired]
      exact withClasses_back hd hclasses
  · intro hother hunwired
    rw [normalize_unwired hunwired]
    exact withClasses_eq_self ((eq_react_or_class hd).resolve_left hother) markup

/-- a tag that looks like a class and like a binding, next to classes -/
theorem lookalike_tag_restored :
    let tag := "className ref"
    let markup := "<className ref><p class=>clasclass=s=<className ref></p>"
    let normalized :=
      "<className ref ref=\x7bwc\x7d><p className=>clasclassName=s=<className ref ref=\x7bwc\x7d></p>"
    react.normalize markup (some tag) true = normalized ∧ react.restore normalized (some tag) true = markup ∧
      vue.normalize markup (some tag) false = markup := by
  intro tag markup normalized
  have hnormalized : react.normalize markup (some tag) true = normalized := by decide +kernel
  obtain ⟨hback, -⟩ := normalize_loses_nothing (show react ∈ builtin by decide) markup (some tag) true
  obtain ⟨-, hvue⟩ := normalize_loses_nothing (show vue ∈ builtin by decide) markup (some tag) false
  rw [hnormalized] at hback
  refine ⟨hnormalized, hback ?_ ?_ ?_, hvue (by decide) (Or.inl rfl)⟩
  · rintro t ⟨⟩
    decide
  · intro _
    decide
  · rintro - t ⟨⟩
    decide

end ComponentCompiler.Dialect
