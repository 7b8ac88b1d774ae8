import ComponentCompiler.Component
import ComponentCompiler.Proofs.Latest

/-!
Building a component, step after step.

A component stores whether it is interactive and a name that is never empty, and computes whether it is wired. All three
are derived from what the steps brought, and each step keeps them so (`IsCoherent.set`), whatever it resets.

Steps of two kinds set different fields and commute (`set_set_of_ne`); of two steps of one kind the second undoes the
first (`set_set_of_eq`). So a component shows the last step of each kind and depends on nothing else; `build_coherent`
says all of this.
-/

namespace ComponentCompiler.Component

inductive Aspect where
  | name
  | styles
  | script
  | props
  deriving DecidableEq, Repr

def Step.aspect : Step → Aspect
  | .name _ _ => .name
  | .styles _ => .styles
  | .script _ => .script
  | .props _ => .props

/-! ## What a component says about itself -/

/-- a component whose derived facts fit its fields -/
structure IsCoherent (c : Component) : Prop where
  interactive : c.interactive = true ↔ c.script.isSome
  identifier : c.identifier ≠ ""
  wired : c.isWired = true ↔ c.script.isSome ∧ c.tag.isSome

/-- being wired follows from being interactive -/
theorem isCoherent_of {c : Component} (hinteractive : c.interactive = c.script.isSome) (hname : c.identifier ≠ "") :
    c.IsCoherent where
  interactive := by rw [hinteractive]
  identifier := hname
  wired := by rw [isWired, hinteractive, Bool.and_eq_true]

theorem fallback_ne_empty : Naming.fallback ≠ "" := by
  decide

theorem isCoherent_ofMarkup (markup : String) : (ofMarkup markup).IsCoherent :=
  isCoherent_of rfl fallback_ne_empty

theorem IsCoherent.set {c : Component} (h : c.IsCoherent) (step : Step) : (c.set step).IsCoherent := by
  have hinteractive : c.interactive = c.script.isSome := Bool.eq_iff_iff.2 h.interactive
  cases step with
  | name identifier tag =>
    refine isCoherent_of hinteractive ?_
    by_cases hempty : identifier.isEmpty
    · simp only [Component.set, hempty, if_true]
      exact fallback_ne_empty
    · simp only [Component.set, hempty, Bool.false_eq_true, if_false]
      intro heq
      exact hempty (String.isEmpty_iff.2 heq)
  | styles text => exact isCoherent_of hinteractive h.identifier
  | script text => exact isCoherent_of rfl h.identifier
  | props props => exact isCoherent_of hinteractive h.identifier

theorem isCoherent_foldl {c : Component} (h : c.IsCoherent) (steps : List Step) : (steps.foldl set c).IsCoherent := by
  induction steps generalizing c with
  | nil => exact h
  | cons step steps ih => exact ih (h.set step)

/-! ## What the steps come to -/

/-- a component has what a step sets -/
def Shows (c : Component) : Step → Prop
  | .name identifier tag => c.identifier = (if identifier = "" then Naming.fallback else identifier) ∧ c.tag = tag
  | .styles text => c.styles = text
  | .script text => c.script = text
  | .props props => c.props = props

theorem shows_set (c : Component) (step : Step) : (c.set step).Shows step := by
  cases step with
  | name identifier tag =>
    refine ⟨?_, rfl⟩
    simp only [Component.set, String.isEmpty_iff]
  | styles text => rfl
  | script text => rfl
  | props props => rfl

theorem markup_foldl (steps : List Step) (c : Component) : (steps.foldl set c).markup = c.markup := by
  induction steps generalizing c with
  | nil => rfl
  | cons step steps ih =>
    rw [List.foldl_cons, ih]
    cases step <;> rfl

/-- of two steps of one kind the second one counts -/
theorem set_set_of_eq (c : Component) (step step' : Step) (h : step.aspect = step'.aspect) :
    (c.set step).set step' = c.set step' := by
  cases step <;> cases step' <;> simp only [Step.aspect, reduceCtorEq] at h <;> rfl

/-- steps of two kinds may come in either order -/
theorem set_set_of_ne (c : Component) (step step' : Step) (h : step.aspect ≠ step'.aspect) :
    (c.set step).set step' = (c.set step').set step := by
  cases step <;> cases step' <;> simp only [Step.aspect, ne_eq, not_true_eq_false] at h <;> rfl

/-- **Building keeps a component coherent, and only the last step of each kind counts.** After any steps, and so after
each step on the way, the component is interactive exactly if it has a script, it has a name, and it is wired exactly if
it has a script and a tag. It has its markup and what the last step of each kind sets, and two sequences of steps that
agree in the last step of each kind build the same component. -/
theorem build_coherent (markup : String) :
    (∀ steps, (build markup steps).IsCoherent) ∧
    (∀ steps steps', (∀ a, latest? Step.aspect a steps = latest? Step.aspect a steps') →
      build markup steps = build markup steps') ∧
    (∀ steps, (build markup steps).markup = markup ∧
      ∀ step, latest? Step.aspect step.aspect steps = some step → (build markup steps).Shows step) := by
  refine ⟨?_, ?_, ?_⟩
  · intro steps
    exact isCoherent_foldl (isCoherent_ofMarkup markup) steps
  · intro steps steps' hlast
    exact foldl_eq_of_latest? set_set_of_eq set_set_of_ne hlast _
  · intro steps
    refine ⟨markup_foldl steps _, ?_⟩
    intro step hlast
    have hdone : (build markup steps).set step = build markup steps :=
      step_foldl_of_latest? set_set_of_eq set_set_of_ne hlast _
    rw [← hdone]
    exact shows_set _ step

/-- a script that is taken back and set again, a name that is empty at first, and another order -/
theorem build_after_resets :
    let steps := [Step.script (some "a"), .name "" none, .script none, .name "Card" (some "card"), .script (some "b")]
    let steps' := [Step.name "Card" (some "card"), .script (some "b")]
    (∀ a, latest? Step.aspect a steps = latest? Step.aspect a steps') ∧ build "<p>" steps = build "<p>" steps' ∧
      (build "<p>" steps).IsCoherent ∧ (build "<p>" steps).script = some "b" := by
  intro steps steps'
  have hsame : ∀ a, latest? Step.aspect a steps = latest? Step.aspect a steps' := by
    intro a
    cases a <;> rfl
  obtain ⟨hcoherent, hequal, hshows⟩ := build_coherent "<p>"
  exact ⟨hsame, hequal steps steps' hsame, hcoherent steps, (hshows steps).2 (.script (some "b")) rfl⟩

end ComponentCompiler.Component
