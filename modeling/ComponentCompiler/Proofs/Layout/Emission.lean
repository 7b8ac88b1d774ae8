import ComponentCompiler.Proofs.Layout.Stencil
import ComponentCompiler.Proofs.Wiring

/-!
Emission puts texts in as they are.

A target renders its stencil. What the stencil is told besides the markup are the surroundings: the name, the props, and
whether there are styles, a script and a bound element. `emit_inserts_verbatim` says that the source is the normalized
markup between two texts that depend on the surroundings alone. So neither the markup nor a stylesheet nor a script is
ever read as part of a stencil, whatever braces it holds.
-/

namespace ComponentCompiler.Target

open Layout

/-- what the text around the markup can depend on -/
structure Surroundings where
  identifier : String
  styles : Bool
  script : Bool
  wired : Bool
  props : Option Props
  deriving DecidableEq, Repr

def surroundings (c : Component) : Surroundings where
  identifier := c.identifier
  styles := c.styles.isSome
  script := c.script.isSome
  wired := c.isWired
  props := c.props

def Surroundings.view (s : Surroundings) (handleModule : String) : View where
  identifier := s.identifier
  styles := s.styles
  script := s.script
  wired := s.wired
  props := s.props.map Props.text
  handleModule := handleModule

theorem viewOf_eq (shape : Shape) (c : Component) : viewOf shape c = (surroundings c).view shape.handleModule :=
  rfl

/-- the text of a target's stencil, by the target's exact name -/
def stencilText? (name : String) : Option (List Char) :=
  [("react", jsxText), ("astro", astroText), ("preact", jsxText), ("vue", vueText)].lookup name

theorem exists_stencil_of {name : String} {text : List Char} {layout : Layout} (hname : stencilText? name = some text)
    (h : IsStencilOf text layout) :
    ∃ stencil, (stencilText? name).bind Stencil.read? = some stencil ∧ stencil.pieces [] = joined layout.pieces := by
  rw [hname, Option.bind_some]
  exact Option.map_eq_some_iff.1 h

/-- each target's layout is that of its stencil -/
theorem exists_stencil {target : Target} (htarget : target ∈ builtin) {shape : Shape}
    (hshape : target.shape = some shape) :
    ∃ stencil, (stencilText? target.name).bind Stencil.read? = some stencil ∧
      stencil.pieces [] = joined shape.layout.pieces := by
  simp only [builtin, List.mem_cons, List.not_mem_nil, or_false] at htarget
  rcases htarget with rfl | rfl | rfl | rfl <;> obtain rfl := Option.some.inj hshape
  · exact exists_stencil_of rfl isStencilOf_jsx
  · exact exists_stencil_of rfl isStencilOf_astro
  · exact exists_stencil_of rfl isStencilOf_jsx
  · exact exists_stencil_of rfl isStencilOf_vue

theorem emit_source {target : Target} {shape : Shape} (hshape : target.shape = some shape) (c : Component) :
    (target.emit c).source =
      shape.layout.render (viewOf shape c) (shape.dialect.normalize c.markup c.tag c.interactive) := by
  simp only [emit, Artifact.ofComponent, sourceOf, hshape]
  rfl

/-- **Texts are put in as they are.** Every target has a stencil, and two functions of the surroundings alone, such that
every component is emitted, as the stencil rendered and as the normalized markup between these two texts. Another
markup, stylesheet or script in the same surroundings therefore changes the source only where the markup stands. -/
theorem emit_inserts_verbatim {target : Target} (htarget : target ∈ builtin) :
    ∃ shape stencil, target.shape = some shape ∧ Layout.named? target.name = .ok shape.layout ∧
      (stencilText? target.name).bind Stencil.read? = some stencil ∧
      ∃ pre post : Surroundings → String, ∀ c : Component,
        let markupIn (c : Component) := shape.dialect.normalize c.markup c.tag c.interactive
        (target.emit c).source = stencil.render (viewOf shape c) (markupIn c) ∧
        (target.emit c).source = pre (surroundings c) ++ markupIn c ++ post (surroundings c) ∧
        ∀ (markup : String) (styles script : Option String),
          styles.isSome = c.styles.isSome → script.isSome = c.script.isSome →
          let other : Component := { c with markup, styles, script }
          (target.emit other).source = pre (surroundings c) ++ markupIn other ++ post (surroundings c) := by
  obtain ⟨shape, hshape, hlayout⟩ := exists_shape htarget
  obtain ⟨stencil, htext, hpieces⟩ := exists_stencil htarget hshape
  have haround : ∀ c : Component, (target.emit c).source =
      renderChunks ((surroundings c).view shape.handleModule) shape.layout.before ++
        shape.dialect.normalize c.markup c.tag c.interactive ++
        renderChunks ((surroundings c).view shape.handleModule) shape.layout.after := by
    intro c
    rw [emit_source hshape c, viewOf_eq, render]
  refine ⟨shape, stencil, hshape, hlayout, htext,
    fun s => renderChunks (s.view shape.handleModule) shape.layout.before,
    fun s => renderChunks (s.view shape.handleModule) shape.layout.after, ?_⟩
  intro c markupIn
  refine ⟨?_, haround c, ?_⟩
  · rw [emit_source hshape c]
    exact render_eq_of_pieces _ _ hpieces
  · intro markup styles script hstyles hscript other
    have hsame : surroundings other = surroundings c := by
      simp only [surroundings, other, hstyles, hscript, Component.isWired]
    rw [haround other, hsame]

/-- a card whose markup, props, stylesheet and script are full of marks, and the same card with other texts -/
theorem marked_card_inserted :
    let props : Props := ⟨[⟨"a", "\x7b\x7b markup \x7d\x7d"⟩]⟩
    let card : Component :=
      { markup := "<x-a>\x7b\x7b identifier \x7d\x7d</x-a>\x7b% if styles %\x7d", styles := some "\x7b# #\x7d",
        script := some "\x7b% endif %\x7d", interactive := true, identifier := "XA", tag := some "x-a",
        props := some props }
    let other : Component := { card with markup := "\x7b# a #\x7d", styles := some "", script := some "\x7b\x7b" }
    ∃ before after,
      (vue.emit card).source =
        before ++ "<x-a ref=\"wc\">\x7b\x7b identifier \x7d\x7d</x-a>\x7b% if styles %\x7d" ++ after ∧
      (vue.emit other).source = before ++ "\x7b# a #\x7d" ++ after := by
  intro props card other
  have hcard : Dialect.vue.normalize card.markup card.tag card.interactive =
      "<x-a ref=\"wc\">\x7b\x7b identifier \x7d\x7d</x-a>\x7b% if styles %\x7d" := by decide +kernel
  have hother : Dialect.vue.normalize other.markup card.tag card.interactive = "\x7b# a #\x7d" := by decide +kernel
  obtain ⟨shape, stencil, hshape, -, -, pre, post, hall⟩ := emit_inserts_verbatim (show vue ∈ builtin by simp [builtin])
  obtain rfl := Option.some.inj hshape
  obtain ⟨-, hsource, hsame⟩ := hall card
  refine ⟨pre (surroundings card), post (surroundings card), ?_, ?_⟩
  · rw [← hcard]
    exact hsource
  · rw [← hother]
    exact hsame other.markup other.styles other.script rfl rfl

end ComponentCompiler.Target
