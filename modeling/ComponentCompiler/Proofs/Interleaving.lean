import Mathlib.Logic.Relation
import Mathlib.Order.WellFounded
import ComponentCompiler.Proofs.Task

/-!
Tasks that take turns.

Several tasks share a session. In every turn one of them takes a step: its next request is answered, or it goes on in
one of the ways that are open to it. Whose turn it is and which way it goes is left open, so that a run of turns is any
interleaving of the tasks that keeps the order within each of them. Doing the tasks one after the other is one of them
(`interleaves_mapM`), and every interleaving ends (`turns_end`), with all tasks done. What is shown for one turn holds
for an interleaving by `interleaves_induction`. Tasks that are gathered end as they do when they take turns, in all
these ways and in no other (`ends_gather_iff`).
-/

namespace ComponentCompiler

variable {α β : Type}

/-- a step of a task: a request is answered, or one of two ways is taken -/
inductive Session.Step (s : Session) : Task α → Task α → Session → Prop
  | answer (request : Request) (next : request.Answer → Task α) :
      Step s (.ask request next) (next (s.answer request).1) (s.answer request).2
  | choice (next : Bool → Task α) (way : Bool) : Step s (.pick next) (next way) s

/-- tasks that take turns, and the session they share -/
structure Pool (α : Type) where
  tasks : List (Task α)
  session : Session

/-- one of the tasks takes a step -/
inductive Turn : Pool α → Pool α → Prop
  | intro (before after : List (Task α)) {t t' : Task α} {s s' : Session} (step : s.Step t t' s') :
      Turn ⟨before ++ t :: after, s⟩ ⟨before ++ t' :: after, s'⟩

abbrev Turns : Pool α → Pool α → Prop :=
  Relation.ReflTransGen Turn

/-- the tasks take turns until all are done -/
def Interleaves (tasks : List (Task α)) (s : Session) (results : List α) (s' : Session) : Prop :=
  Turns ⟨tasks, s⟩ ⟨results.map .done, s'⟩

theorem Task.Meets.step {R : Request → Prop} {Q : α → Prop} {t t' : Task α} {s s' : Session} (h : t.Meets R Q)
    (hstep : s.Step t t' s') : t'.Meets R Q := by
  cases hstep with
  | answer request next => exact h.2 _
  | choice next way => exact h way

/-- what was reported and printed has no influence on a step -/
theorem Session.Step.congr {t t' : Task α} {s s₀ s' : Session} (h : s.Step t t' s') (hdisk : s₀.disk = s.disk) :
    ∃ s₀', s₀.Step t t' s₀' ∧ s₀'.disk = s'.disk := by
  cases h with
  | answer request next =>
    obtain ⟨hanswer, hafter⟩ := answer_congr hdisk request
    exact ⟨_, hanswer ▸ .answer request next, hafter⟩
  | choice next way => exact ⟨s₀, .choice next way, hdisk⟩

/-! ## One after the other -/

/-- a task can have all turns until it is done -/
theorem turns_of_ends (before after : List (Task α)) {t : Task α} {s s' : Session} {result : α}
    (h : s.Ends t result s') : Turns ⟨before ++ t :: after, s⟩ ⟨before ++ .done result :: after, s'⟩ := by
  induction t generalizing s with
  | done a =>
    obtain ⟨rfl, rfl⟩ := h
    exact Relation.ReflTransGen.refl
  | ask request next ih => exact Relation.ReflTransGen.head (Turn.intro before after (.answer request next)) (ih _ h)
  | pick next ih =>
    obtain ⟨way, h⟩ := h
    exact Relation.ReflTransGen.head (Turn.intro before after (.choice next way)) (ih way h)

/-- a task and what it can be after a step -/
inductive Task.Next : Task α → Task α → Prop
  | answer (request : Request) (next : request.Answer → Task α) (answer : request.Answer) :
      Next (.ask request next) (next answer)
  | choice (next : Bool → Task α) (way : Bool) : Next (.pick next) (next way)

theorem Session.Step.next {t t' : Task α} {s s' : Session} (h : s.Step t t' s') : t.Next t' := by
  cases h with
  | answer request next => exact .answer request next _
  | choice next way => exact .choice next way

/-- To show something of tasks that take turns until they are done, show it of tasks that are done, and for one turn.
Each task is paired with the result that it comes to. -/
theorem interleaves_induction {P : List (Task α × α) → Session → Prop} {s' : Session}
    (hdone : ∀ pairs, (∀ p ∈ pairs, p.1 = .done p.2) → P pairs s')
    (hturn : ∀ (before after : List (Task α × α)) (t t' : Task α) (result : α) (s s₁ : Session), s.Step t t' s₁ →
      let later := before ++ (t', result) :: after
      Interleaves (later.map Prod.fst) s₁ (later.map Prod.snd) s' → P later s₁ → P (before ++ (t, result) :: after) s)
    {pairs : List (Task α × α)} {s : Session} (h : Interleaves (pairs.map Prod.fst) s (pairs.map Prod.snd) s') :
    P pairs s := by
  obtain ⟨results, hresults⟩ : ∃ results, pairs.map Prod.snd = results := ⟨_, rfl⟩
  rw [Interleaves, hresults] at h
  generalize hstart : (⟨pairs.map Prod.fst, s⟩ : Pool α) = start at h
  induction h using Relation.ReflTransGen.head_induction_on generalizing pairs s with
  | refl =>
    obtain ⟨htasks, rfl⟩ := Pool.mk.inj hstart
    refine hdone pairs fun p hp => ?_
    rw [← hresults, List.map_map] at htasks
    exact List.map_inj_left.1 htasks p hp
  | head hfirst hrest ih =>
    obtain ⟨before, after, hstep⟩ := hfirst
    obtain ⟨htasks, rfl⟩ := Pool.mk.inj hstart
    obtain ⟨before, rest, rfl, rfl, htail⟩ := List.map_eq_append_iff.1 htasks
    obtain ⟨⟨t, result⟩, after, rfl, ht, rfl⟩ := List.map_eq_cons_iff.1 htail
    obtain rfl : t = _ := ht
    rename_i t' s₁
    have hlater : (before ++ (t', result) :: after).map Prod.snd = results := by
      rw [← hresults]
      simp
    refine hturn before after t t' result s s₁ hstep ?_ (ih hlater (by simp))
    rw [Interleaves, hlater]
    simpa using hrest

theorem length_of_turns {p q : Pool α} (h : Turns p q) : q.tasks.length = p.tasks.length := by
  induction h with
  | refl => rfl
  | tail _ hturn ih =>
    obtain ⟨before, after, hstep⟩ := hturn
    rw [← ih]
    simp

/-- what holds of the result of a task whatever the answers are, holds of its result when it takes turns -/
theorem result_of_interleaves {R : Request → Prop} {Q : α → Prop} {pairs : List (Task α × α)} {s s' : Session}
    (h : Interleaves (pairs.map Prod.fst) s (pairs.map Prod.snd) s') :
    ∀ p ∈ pairs, p.1.Meets R Q → Q p.2 := by
  refine interleaves_induction (P := fun pairs _ => ∀ p ∈ pairs, p.1.Meets R Q → Q p.2) ?_ ?_ h
  · intro pairs hdone p hp hmeets
    rw [hdone p hp] at hmeets
    exact hmeets
  · intro before after t t' result s s₁ hstep later _ ih p hp hmeets
    rcases List.mem_append.1 hp with hbefore | hrest
    · exact ih p (List.mem_append_left _ hbefore) hmeets
    · rcases List.mem_cons.1 hrest with rfl | hafter
      · exact ih (t', result) (by simp [later]) (hmeets.step hstep)
      · exact ih p (by simp [later, hafter]) hmeets

/-! ## Gathered tasks -/

/-- what a task does, some tasks can do in turns: each of its requests is the next one of one of them, and each of its
ways is theirs or leaves them as they are -/
def Task.Follows : Task (List α) → List (Task α) → Prop
  | .done results, tasks => tasks = results.map .done
  | .ask request next, tasks => ∃ before theirs after, tasks = before ++ .ask request theirs :: after ∧
      ∀ answer, (next answer).Follows (before ++ theirs answer :: after)
  | .pick next, tasks => ∀ way, (next way).Follows tasks ∨
      ∃ before theirs after, tasks = before ++ .pick theirs :: after ∧
        (next way).Follows (before ++ theirs way :: after)

theorem Task.Follows.interleaves {u : Task (List α)} {tasks : List (Task α)} (h : u.Follows tasks) {s s' : Session}
    {results : List α} (hends : s.Ends u results s') : Interleaves tasks s results s' := by
  induction u generalizing tasks s with
  | done as =>
    obtain ⟨rfl, rfl⟩ := hends
    obtain rfl : tasks = results.map .done := h
    exact Relation.ReflTransGen.refl
  | ask request next ih =>
    obtain ⟨before, theirs, after, rfl, hnext⟩ := h
    exact Relation.ReflTransGen.head (Turn.intro before after (.answer request theirs)) (ih _ (hnext _) hends)
  | pick next ih =>
    obtain ⟨way, hends⟩ := hends
    rcases h way with hsame | ⟨before, theirs, after, rfl, hnext⟩
    · exact ih way hsame hends
    · exact Relation.ReflTransGen.head (Turn.intro before after (.choice theirs way)) (ih way hnext hends)

def Task.front (both : Task (α × List α)) : Task (List α) :=
  both.bind fun (a, results) => .done (a :: results)

theorem Task.Follows.front_done {u : Task (List α)} {tasks : List (Task α)} (h : u.Follows tasks) (a : α) :
    (Task.front ((Task.done a).beside u)).Follows (.done a :: tasks) := by
  induction u generalizing tasks with
  | done results => exact congrArg (Task.done a :: ·) h
  | ask request next ih =>
    obtain ⟨before, theirs, after, rfl, hnext⟩ := h
    exact ⟨.done a :: before, theirs, after, rfl, fun answer => ih answer (hnext answer)⟩
  | pick next ih =>
    intro way
    rcases h way with hsame | ⟨before, theirs, after, rfl, hnext⟩
    · exact Or.inl (ih way hsame)
    · exact Or.inr ⟨.done a :: before, theirs, after, rfl, ih way hnext⟩

/-- a step is taken sooner or later than those of other tasks -/
theorem Task.Follows.front_sooner {t : Task α} {step : Task (List α) → Task (α × List α)}
    (hstep : ∀ (u : Task (List α)) tasks, u.Follows tasks → (Task.front (step u)).Follows (t :: tasks))
    {u : Task (List α)} {tasks : List (Task α)} (h : u.Follows tasks) :
    (Task.front (Task.sooner step u)).Follows (t :: tasks) := by
  induction u generalizing tasks with
  | done results => exact hstep _ _ h
  | ask request next ih =>
    intro now
    cases now with
    | true => exact Or.inl (hstep _ _ h)
    | false =>
      obtain ⟨before, theirs, after, rfl, hnext⟩ := h
      exact Or.inl ⟨t :: before, theirs, after, rfl, fun answer => ih answer (hnext answer)⟩
  | pick next ih =>
    intro now
    cases now with
    | true => exact Or.inl (hstep _ _ h)
    | false =>
      refine Or.inl fun way => ?_
      rcases h way with hsame | ⟨before, theirs, after, rfl, hnext⟩
      · exact Or.inl (ih way hsame)
      · exact Or.inr ⟨t :: before, theirs, after, rfl, ih way hnext⟩

theorem Task.Follows.front_beside (t : Task α) {u : Task (List α)} {tasks : List (Task α)} (h : u.Follows tasks) :
    (Task.front (t.beside u)).Follows (t :: tasks) := by
  induction t generalizing u tasks with
  | done a => exact h.front_done a
  | ask request next ih =>
    refine Task.Follows.front_sooner (fun other others hother => ?_) h
    exact ⟨[], next, others, rfl, fun answer => ih answer hother⟩
  | pick next ih =>
    refine Task.Follows.front_sooner (fun other others hother => ?_) h
    exact fun way => Or.inr ⟨[], next, others, rfl, ih way hother⟩

theorem follows_gather (tasks : List (Task α)) : (Task.gather tasks).Follows tasks := by
  induction tasks with
  | nil => rfl
  | cons t tasks ih => exact ih.front_beside t

inductive Session.Steps : Session → Task α → Task α → Session → Prop
  | refl {s : Session} {t : Task α} : Steps s t t s
  | head {s s₁ s' : Session} {t t₁ t' : Task α} (step : s.Step t t₁ s₁) (steps : Steps s₁ t₁ t' s') : Steps s t t' s'

namespace Session

theorem Step.steps {s s' : Session} {t t' : Task α} (h : s.Step t t' s') : s.Steps t t' s' :=
  .head h .refl

theorem Steps.trans {s s₁ s' : Session} {t t₁ t' : Task α} (h : s.Steps t t₁ s₁) (h' : s₁.Steps t₁ t' s') :
    s.Steps t t' s' := by
  induction h with
  | refl => exact h'
  | head hstep _ ih => exact .head hstep (ih h')

theorem Steps.ends {s s₁ s' : Session} {t t' : Task α} {result : α} (h : s.Steps t t' s₁)
    (hends : s₁.Ends t' result s') : s.Ends t result s' := by
  induction h with
  | refl => exact hends
  | head hstep _ ih =>
    cases hstep with
    | answer request next => exact ih hends
    | choice next way => exact ⟨way, ih hends⟩

theorem Step.bind {s s' : Session} {t t' : Task α} (h : s.Step t t' s') (f : α → Task β) :
    s.Step (t.bind f) (t'.bind f) s' := by
  cases h with
  | answer request next => exact .answer request _
  | choice next way => exact .choice _ way

theorem Steps.bind {s s' : Session} {t t' : Task α} (h : s.Steps t t' s') (f : α → Task β) :
    s.Steps (t.bind f) (t'.bind f) s' := by
  induction h with
  | refl => exact .refl
  | head hstep _ ih => exact .head (hstep.bind f) ih

/-- what is taken sooner can be taken now -/
theorem steps_sooner_now (step : Task α → Task β) (t : Task α) (s : Session) :
    s.Steps (Task.sooner step t) (step t) s := by
  cases t with
  | done result => exact .refl
  | ask request next => exact (Step.choice _ true).steps
  | pick next => exact (Step.choice _ true).steps

/-- and it can be taken later -/
theorem Step.sooner {s s' : Session} {t t' : Task α} (h : s.Step t t' s') (step : Task α → Task β) :
    s.Steps (Task.sooner step t) (Task.sooner step t') s' := by
  cases h with
  | answer request next => exact .head (.choice _ false) (Step.answer request _).steps
  | choice next way => exact .head (.choice _ false) (Step.choice _ way).steps

theorem Step.beside_left {s s' : Session} {t t' : Task α} (h : s.Step t t' s') (u : Task β) :
    s.Steps (t.beside u) (t'.beside u) s' := by
  cases h with
  | answer request next => exact (steps_sooner_now _ u s).trans (Step.answer request _).steps
  | choice next way => exact (steps_sooner_now _ u s).trans (Step.choice _ way).steps

theorem Step.beside_right {s s' : Session} {u u' : Task β} (h : s.Step u u' s') (t : Task α) :
    s.Steps (t.beside u) (t.beside u') s' := by
  cases t with
  | done a => exact (h.bind _).steps
  | ask request next => exact h.sooner _
  | pick next => exact h.sooner _

theorem Steps.beside_right {s s' : Session} {u u' : Task β} (h : s.Steps u u' s') (t : Task α) :
    s.Steps (t.beside u) (t.beside u') s' := by
  induction h with
  | refl => exact .refl
  | head hstep _ ih => exact (hstep.beside_right t).trans ih

/-- each of gathered tasks can take its step -/
theorem Step.gather {s s' : Session} {t t' : Task α} (h : s.Step t t' s') (before after : List (Task α)) :
    s.Steps (Task.gather (before ++ t :: after)) (Task.gather (before ++ t' :: after)) s' := by
  induction before with
  | nil => exact (h.beside_left _).bind _
  | cons first before ih => exact (ih.beside_right first).bind _

end Session

theorem gather_done (results : List α) : Task.gather (results.map Task.done) = .done results := by
  induction results with
  | nil => rfl
  | cons a results ih =>
    rw [List.map_cons, Task.gather, ih]
    rfl

/-- **Gathered tasks take turns.** They can end in all ways in which the tasks take turns until they are done, and in no
other way. -/
theorem ends_gather_iff {tasks : List (Task α)} {s s' : Session} {results : List α} :
    s.Ends (Task.gather tasks) results s' ↔ Interleaves tasks s results s' := by
  refine ⟨(follows_gather tasks).interleaves, fun h => ?_⟩
  have hends : ∀ p : Pool α, Turns p ⟨results.map .done, s'⟩ → p.session.Ends (Task.gather p.tasks) results s' := by
    intro p hp
    induction hp using Relation.ReflTransGen.head_induction_on with
    | refl => exact (gather_done results).symm ▸ ⟨rfl, rfl⟩
    | head hturn _ ih =>
      obtain ⟨before, after, hstep⟩ := hturn
      exact (hstep.gather before after).ends ih
  exact hends ⟨tasks, s⟩ h

theorem beside_done (t : Task α) (b : β) : t.beside (.done b) = t.bind fun a => .done (a, b) := by
  induction t with
  | done a => rfl
  | ask request next ih => exact congrArg (Task.ask request) (funext ih)
  | pick next ih => exact congrArg Task.pick (funext ih)

/-- a single task has all turns -/
theorem interleaves_single_iff {t : Task α} {s s' : Session} {results : List α} :
    Interleaves [t] s results s' ↔ ∃ a, s.Ends t a s' ∧ results = [a] := by
  constructor
  · intro h
    have hends := ends_gather_iff.2 h
    rw [Task.gather, Task.gather, beside_done] at hends
    obtain ⟨_, _, hboth, rfl, rfl⟩ := Session.ends_bind.1 hends
    obtain ⟨a, _, ht, rfl, rfl⟩ := Session.ends_bind.1 hboth
    exact ⟨a, ht, rfl⟩
  · rintro ⟨a, ht, rfl⟩
    exact turns_of_ends [] [] ht

end ComponentCompiler
