import ComponentCompiler.Assembly
import ComponentCompiler.Proofs.Occurrence
import ComponentCompiler.Target

/-!
From a script that registers a custom element to the handle of this element in the emitted source.

Four steps have to fit together. The markup is wrapped in the component's own element; the class attribute is rewritten,
which leaves the opening tag of this element alone if its name does not mention the attribute (`withClasses_bareTag`);
the opening tag is found, first of all, and bound (`bind_bareTag`); and the layout shows the chunk that declares the
handle (`exists_declares`). `emit_wires` puts them together for every target. It also says what becomes of a component
without a name or without a script: no tag is bound, and the layout is told so.
-/

namespace ComponentCompiler

open Text

/-! ## The assembled component -/

namespace Component

@[simp]
theorem assemble_markup (path : Path) (t : Compiled) (props : Option Props) :
    (assemble path t props).markup = markupFor (Naming.ofPath? path) t := by
  cases h : Naming.ofPath? path <;> simp [assemble, build, stepsFor, set, ofMarkup, h]

@[simp]
theorem assemble_tag (path : Path) (t : Compiled) (props : Option Props) :
    (assemble path t props).tag = (Naming.ofPath? path).map (·.tag) := by
  cases h : Naming.ofPath? path <;> simp [assemble, build, stepsFor, set, ofMarkup, h]

@[simp]
theorem assemble_interactive (path : Path) (t : Compiled) (props : Option Props) :
    (assemble path t props).interactive = (scriptOf t).isSome := by
  cases h : Naming.ofPath? path <;> simp [assemble, build, stepsFor, set, h]

/-- scripts that register an element make one script that does -/
theorem scriptOf_defines {t : Compiled} (h : defineCall.toList <:+: ("\n".intercalate t.scripts).toList) :
    ∃ script, scriptOf t = some script ∧ definesElement (some script) = true := by
  have hplain : ∀ c ∈ defineCall.toList, isBlank c = false := by
    have hall : defineCall.toList.all (fun c => !isBlank c) = true := by decide
    simpa using hall
  have hin : defineCall.toList <:+: (trimmed ("\n".intercalate t.scripts)).toList := by
    rw [trimmed, String.toList_ofList]
    exact infix_trim hplain h
  have hne : trimmed ("\n".intercalate t.scripts) ≠ "" := by
    intro hempty
    rw [hempty] at hin
    have hnil := List.infix_nil.1 hin
    revert hnil
    decide
  refine ⟨trimmed ("\n".intercalate t.scripts), ?_, ?_⟩
  · simp [scriptOf, nonEmpty?, hne]
  · rw [definesElement, mentions_iff]
    exact hin

theorem blank_intercalate {between : List Char} {texts : List (List Char)} (hbetween : ∀ c ∈ between, isBlank c)
    (htexts : ∀ text ∈ texts, ∀ c ∈ text, isBlank c) : ∀ c ∈ between.intercalate texts, isBlank c := by
  induction texts with
  | nil => simp
  | cons text texts ih =>
    have hlater := ih fun text' htext' => htexts text' (List.mem_cons_of_mem text htext')
    intro c hc
    by_cases hnil : texts = []
    · simp only [hnil, List.intercalate_singleton] at hc
      exact htexts text List.mem_cons_self c hc
    · rw [List.intercalate_cons_of_ne_nil hnil, List.mem_append, List.mem_append] at hc
      rcases hc with (htext | hc) | hc
      · exact htexts text List.mem_cons_self c htext
      · exact hbetween c hc
      · exact hlater c hc

/-- scripts that are all blank make none -/
theorem scriptOf_blank {t : Compiled} (h : ∀ s ∈ t.scripts, trimmed s = "") : scriptOf t = none := by
  have hjoined : trim ("\n".intercalate t.scripts).toList = [] := by
    rw [trim_eq_nil_iff, String.toList_intercalate]
    apply blank_intercalate
    · simp
      decide
    · intro text htext
      obtain ⟨s, hs, rfl⟩ := List.mem_map.1 htext
      have hnil := congrArg String.toList (h s hs)
      rw [trimmed, String.toList_ofList] at hnil
      exact trim_eq_nil_iff.1 hnil
  rw [scriptOf, trimmed, hjoined]
  rfl

end Component

/-! ## The bound element -/

namespace Dialect

/-- the class attribute is rewritten inside a tag or behind it, but not across its brackets -/
theorem withClasses_bareTag (d : Dialect) {tag : String} (htag : ¬ "class=".toList <:+: tag.toList) (rest : String) :
    d.withClasses (bareTag tag ++ "\n  " ++ rest) = bareTag tag ++ "\n  " ++ d.withClasses rest := by
  have hne : "class=".toList ≠ [] := by decide
  have hsplit : ∀ text : String, (bareTag tag ++ "\n  " ++ text).toList =
      '<' :: (tag.toList ++ '>' :: '\n' :: ' ' :: ' ' :: text.toList) := by
    intro text
    simp [bareTag]
  apply String.toList_injective
  rw [withClasses, toList_replaced, hsplit, hsplit, replaceAll_cons_of_not_mem hne (by decide),
    replaceAll_append_cons hne (by decide), replaceAll_eq_self htag, replaceAll_cons_of_not_mem hne (by decide),
    replaceAll_cons_of_not_mem hne (by decide), replaceAll_cons_of_not_mem hne (by decide), withClasses,
    toList_replaced]

/-- a bare tag at the beginning is the first that is bound -/
theorem bind_bareTag (d : Dialect) (tag rest : String) :
    d.bind tag (bareTag tag ++ "\n  " ++ rest) = d.boundTag tag ++ "\n  " ++ d.bind tag rest := by
  have htag : (bareTag tag).toList = '<' :: (tag.toList ++ ['>']) := by simp [bareTag]
  have hsplit : ∀ front text : String,
      (front ++ "\n  " ++ text).toList = front.toList ++ '\n' :: ' ' :: ' ' :: text.toList := by
    intro front text
    simp
  apply String.toList_injective
  rw [bind, toList_replaced, hsplit, hsplit, replaceAll_old_append (by simp [htag]), bind, toList_replaced, htag,
    replaceAll_cons_of_ne (by decide), replaceAll_cons_of_ne (by decide), replaceAll_cons_of_ne (by decide)]

/-- the component's own element, once its markup is normalized -/
theorem normalize_wrapIn (d : Dialect) {tag : String} (htag : ¬ "class=".toList <:+: tag.toList) (markup : String) :
    ∃ rest, d.normalize (Component.wrapIn tag markup) (some tag) true = d.boundTag tag ++ "\n  " ++ rest := by
  have hwrap : Component.wrapIn tag markup = bareTag tag ++ "\n  " ++ (markup ++ "\n</" ++ tag ++ ">") := by
    apply String.toList_injective
    simp [Component.wrapIn, bareTag]
  refine ⟨d.bind tag (d.withClasses (markup ++ "\n</" ++ tag ++ ">")), ?_⟩
  simp only [normalize, if_true]
  rw [hwrap, withClasses_bareTag d htag, bind_bareTag]

end Dialect

/-! ## The handle in the layout -/

namespace Target

/-- how the source of a component declares the handle of its element -/
def handleDeclaration (target : Target) : String :=
  if target = .vue then "const wc = ref(null);"
  else if target = .astro then "const wc = document.querySelector(\"[data-wc]\");"
  else "const wc = useRef(null);"

/-- the chunk holds a text, and appears in every component that has a script and is wired -/
def Declares (declaration : String) (chunk : Layout.Chunk) : Prop :=
  (∀ need ∈ chunk.needs, need = .script ∨ need = .wired) ∧
    ∃ s, chunk.content = .text s ∧ declaration.toList <:+: s.toList

theorem exists_declares {target : Target} (htarget : target ∈ builtin) {shape : Shape}
    (hshape : target.shape = some shape) :
    ∃ chunk ∈ shape.layout.before ++ shape.layout.after, Declares target.handleDeclaration chunk := by
  simp only [builtin, List.mem_cons, List.not_mem_nil, or_false] at htarget
  rcases htarget with rfl | rfl | rfl | rfl <;> obtain rfl := Option.some.inj hshape
  · exact ⟨⟨[.wired], .text "  const wc = useRef(null);\n\n"⟩, by decide, by decide, _, rfl, by decide⟩
  · exact ⟨⟨[.script, .wired], .text "\n  const wc = document.querySelector(\"[data-wc]\");\n"⟩, by decide,
      by decide, _, rfl, by decide⟩
  · exact ⟨⟨[.wired], .text "  const wc = useRef(null);\n\n"⟩, by decide, by decide, _, rfl, by decide⟩
  · exact ⟨⟨[.wired], .text "\nconst wc = ref(null);\n"⟩, by decide, by decide, _, rfl, by decide⟩

theorem infix_renderChunks {view : View} {chunk : Layout.Chunk} {chunks : List Layout.Chunk} (h : chunk ∈ chunks) :
    (chunk.render view).toList <:+: (Layout.renderChunks view chunks).toList := by
  rw [Layout.renderChunks, String.toList_join, List.flatMap_map]
  obtain ⟨front, back, rfl⟩ := List.append_of_mem h
  rw [List.flatMap_append, List.flatMap_cons]
  exact ⟨_, _, by rw [List.append_assoc]⟩

/-- the chunk appears in the source of a wired component, and its text with it -/
theorem infix_render {layout : Layout} {view : View} {declaration : String} {chunk : Layout.Chunk} (markup : String)
    (hmem : chunk ∈ layout.before ++ layout.after) (hdeclares : Declares declaration chunk)
    (hscript : view.script = true) (hwired : view.wired = true) :
    declaration.toList <:+: (layout.render view markup).toList := by
  obtain ⟨hneeds, s, hcontent, hin⟩ := hdeclares
  have hmet : chunk.needs.all (Layout.Need.met view) = true := by
    rw [List.all_eq_true]
    intro need hneed
    rcases hneeds need hneed with rfl | rfl
    · exact hscript
    · exact hwired
  have hrender : chunk.render view = s := by rw [Layout.Chunk.render, if_pos hmet, hcontent, Layout.Content.render]
  rw [← hrender] at hin
  refine hin.trans ?_
  rw [Layout.render, String.toList_append, String.toList_append]
  rcases List.mem_append.1 hmem with hbefore | hafter
  · exact (infix_renderChunks hbefore).trans ((List.prefix_append _ _).trans (List.prefix_append _ _)).isInfix
  · exact (infix_renderChunks hafter).trans (List.suffix_append _ _).isInfix

/-- each target has a shape, and its layout goes by its name -/
theorem exists_shape {target : Target} (htarget : target ∈ builtin) :
    ∃ shape, target.shape = some shape ∧ Layout.named? target.name = .ok shape.layout := by
  simp only [builtin, List.mem_cons, List.not_mem_nil, or_false] at htarget
  rcases htarget with rfl | rfl | rfl | rfl
  · exact ⟨_, rfl, rfl⟩
  · exact ⟨_, rfl, rfl⟩
  · exact ⟨_, rfl, rfl⟩
  · exact ⟨_, rfl, rfl⟩

/-! ## From the source path to the emitted source -/

/-- **Wiring.** For every target: a component with a name, whose scripts register a custom element, is emitted with its
own element bound at the beginning of the markup, and with the handle declared. A component without a name, or whose
scripts are all blank, has only its class attributes rewritten, and the layout is told that it is not wired. -/
theorem emit_wires {target : Target} (htarget : target ∈ builtin) (path : Path) (t : Compiled) (props : Option Props) :
    ∃ shape, target.shape = some shape ∧ Layout.named? target.name = .ok shape.layout ∧
      let c := Component.assemble path t props
      let view := viewOf shape c
      let markup := markupOf shape c
      (target.emit c).source =
          Layout.renderChunks view shape.layout.before ++ markup ++ Layout.renderChunks view shape.layout.after ∧
        (∀ name, Naming.ofPath? path = some name → ¬ "class=".toList <:+: name.tag.toList →
          "customElements.define".toList <:+: ("\n".intercalate t.scripts).toList →
          (∃ rest, markup = "<" ++ name.tag ++ " " ++ shape.dialect.bindingAttribute ++ ">" ++ "\n  " ++ rest) ∧
            target.handleDeclaration.toList <:+: (target.emit c).source.toList) ∧
        (Naming.ofPath? path = none ∨ (∀ s ∈ t.scripts, trimmed s = "") →
          markup = shape.dialect.withClasses c.markup ∧ view.wired = false) := by
  obtain ⟨shape, hshape, hlayout⟩ := exists_shape htarget
  refine ⟨shape, hshape, hlayout, ?_⟩
  intro c view markup
  have hsource : (target.emit c).source = shape.layout.render view markup := by
    simp only [emit, Artifact.ofComponent, sourceOf, hshape]
    rfl
  refine ⟨hsource, ?_, ?_⟩
  · intro name hname htag hdefine
    obtain ⟨script, hscript, hdefines⟩ := Component.scriptOf_defines hdefine
    have hview : view.script = true ∧ view.wired = true := by
      simp [view, viewOf, c, Component.isWired, hscript, hname]
    constructor
    · have hmarkup : markup =
          shape.dialect.normalize (Component.wrapIn name.tag (trimmed t.markup)) (some name.tag) true := by
        simp [markup, markupOf, c, hname, hscript, Component.markupFor, hdefines]
      rw [hmarkup]
      exact shape.dialect.normalize_wrapIn htag (trimmed t.markup)
    · obtain ⟨chunk, hmem, hdeclares⟩ := exists_declares htarget hshape
      rw [hsource]
      exact infix_render markup hmem hdeclares hview.1 hview.2
  · intro hunwired
    have hnot : c.tag = none ∨ c.interactive = false := by
      rcases hunwired with hname | hblank
      · exact Or.inl (by simp [c, hname])
      · exact Or.inr (by simp [c, Component.scriptOf_blank hblank])
    rcases hnot with htag | hinteractive
    · simp [markup, markupOf, view, viewOf, Component.isWired, Dialect.normalize, htag]
    · cases htag : c.tag <;> simp [markup, markupOf, view, viewOf, Component.isWired, Dialect.normalize,
        hinteractive, htag]

/-- a card that registers its element, its markup with a card inside and a class; and the same card without a
directory -/
theorem card_wired :
    let t : Compiled := ⟨"<my-card></my-card><p class=\"a\"></p>", [],
      ["", " customElements.define(\"my-card\", C)"], []⟩
    let card := Component.assemble (.ofString "x/my-card.webc") t none
    let nameless := Component.assemble (.ofString "my-card.webc") t none
    Naming.ofPath? (.ofString "x/my-card.webc") = some ⟨"MyCard", "my-card"⟩ ∧
      Naming.ofPath? (.ofString "my-card.webc") = none ∧
      ∃ shape, react.shape = some shape ∧
        (∃ rest, markupOf shape card = "<" ++ "my-card" ++ " " ++ shape.dialect.bindingAttribute ++ ">" ++
          "\n  " ++ rest) ∧
        "const wc = useRef(null);".toList <:+: (react.emit card).source.toList ∧
        markupOf shape nameless = shape.dialect.withClasses nameless.markup ∧
          (viewOf shape nameless).wired = false := by
  intro t card nameless
  have hname : Naming.ofPath? (.ofString "x/my-card.webc") = some ⟨"MyCard", "my-card"⟩ := by decide +kernel
  have hnone : Naming.ofPath? (.ofString "my-card.webc") = none := by decide +kernel
  have hreact : react ∈ builtin := by simp [builtin]
  obtain ⟨shape, hshape, -, -, hwired, -⟩ := emit_wires hreact (.ofString "x/my-card.webc") t none
  obtain ⟨shape', hshape', -, -, -, hunwired⟩ := emit_wires hreact (.ofString "my-card.webc") t none
  obtain rfl := Option.some.inj (hshape.symm.trans hshape')
  obtain ⟨hbound, hdeclared⟩ := hwired _ hname (by decide) (by decide)
  exact ⟨hname, hnone, shape, hshape, hbound, hdeclared, hunwired (Or.inl hnone)⟩

end Target

end ComponentCompiler
