import Mathlib.Tactic.Common
import ComponentCompiler.Session

/-!
Running tasks in a session, step by step.

`Meets` states what a task asks for and how it ends, whatever the answers are. `Ends` says which results and sessions a
task can come to when every choice is left open; running it gives one of them (`ends_run`), and for a task without
choices the only one (`Ends.eq_run`). `ends_bind` takes a sequence of tasks apart and `Ends.tryBoth` two that are under
way at once. The log and the output streams have no influence on any of it (`Ends.congr`).
-/

namespace ComponentCompiler

namespace Task

variable {α β : Type}

theorem bind_done (t : Task α) : t.bind done = t := by
  induction t with
  | done result => rfl
  | ask request next ih => simp only [bind, ih]
  | pick next ih => simp only [bind, ih]

theorem bind_bind {γ : Type} (t : Task α) (f : α → Task β) (g : β → Task γ) :
    (t.bind f).bind g = t.bind fun a => (f a).bind g := by
  induction t with
  | done result => rfl
  | ask request next ih => simp only [bind, ih]
  | pick next ih => simp only [bind, ih]

instance : LawfulMonad Task :=
  LawfulMonad.mk' Task bind_done (fun _ _ => rfl) bind_bind

/-- every request of a task satisfies `R`, and its result satisfies `Q` -/
def Meets (R : Request → Prop) (Q : α → Prop) : Task α → Prop
  | done result => Q result
  | ask request next => R request ∧ ∀ answer, (next answer).Meets R Q
  | pick next => ∀ way, (next way).Meets R Q

variable {R : Request → Prop} {Q : α → Prop}

theorem meets_true (t : Task α) : t.Meets (fun _ => True) fun _ => True := by
  induction t with
  | done result => trivial
  | ask request next ih => exact ⟨trivial, ih⟩
  | pick next ih => exact ih

theorem Meets.mono {Q' : α → Prop} {t : Task α} (h : t.Meets R Q) (himp : ∀ a, Q a → Q' a) : t.Meets R Q' := by
  induction t with
  | done result => exact himp result h
  | ask request next ih => exact ⟨h.1, fun answer => ih answer (h.2 answer)⟩
  | pick next ih => exact fun way => ih way (h way)

theorem Meets.imp {R' : Request → Prop} {t : Task α} (h : t.Meets R Q) (himp : ∀ request, R request → R' request) :
    t.Meets R' Q := by
  induction t with
  | done result => exact h
  | ask request next ih => exact ⟨himp request h.1, fun answer => ih answer (h.2 answer)⟩
  | pick next ih => exact fun way => ih way (h way)

theorem Meets.bind {Q' : β → Prop} {t : Task α} {f : α → Task β} (h : t.Meets R Q)
    (hf : ∀ a, Q a → (f a).Meets R Q') : (t.bind f).Meets R Q' := by
  induction t with
  | done result => exact hf result h
  | ask request next ih => exact ⟨h.1, fun answer => ih answer (h.2 answer)⟩
  | pick next ih => exact fun way => ih way (h way)

/-- a step that keeps to `R` can be taken sooner or later than those of a task -/
theorem Meets.sooner {Q' : β → Prop} {step : Task α → Task β} {t : Task α} (h : t.Meets R Q)
    (hstep : ∀ u : Task α, u.Meets R Q → (step u).Meets R Q') : (Task.sooner step t).Meets R Q' := by
  induction t with
  | done result => exact hstep _ h
  | ask request next ih =>
    intro now
    cases now with
    | true => exact hstep _ h
    | false => exact ⟨h.1, fun answer => ih answer (h.2 answer)⟩
  | pick next ih =>
    intro now
    cases now with
    | true => exact hstep _ h
    | false => exact fun way => ih way (h way)

theorem Meets.beside {Q' : β → Prop} {t : Task α} {u : Task β} (h : t.Meets R Q) (hu : u.Meets R Q') :
    (t.beside u).Meets R fun results => Q results.1 ∧ Q' results.2 := by
  induction t generalizing u with
  | done result => exact Meets.bind hu fun _ hb => ⟨h, hb⟩
  | ask request next ih =>
    refine Meets.sooner hu fun other hother => ⟨h.1, fun answer => ?_⟩
    exact ih answer (h.2 answer) hother
  | pick next ih =>
    refine Meets.sooner hu fun other hother way => ?_
    exact ih way (h way) hother

/-- what all tasks keep to, they keep to side by side -/
theorem Meets.gather {tasks : List (Task α)} (h : ∀ t ∈ tasks, t.Meets R Q) :
    (Task.gather tasks).Meets R fun results => ∀ a ∈ results, Q a := by
  induction tasks with
  | nil => exact fun _ hmem => (List.not_mem_nil hmem).elim
  | cons t tasks ih =>
    obtain ⟨hfirst, hrest⟩ := List.forall_mem_cons.1 h
    exact Meets.bind (hfirst.beside (ih hrest)) fun _ hresults => List.forall_mem_cons.2 hresults

/-- a condition on the result of a task that may fail -/
def OnOk {ε : Type} (Q : α → Prop) (result : Except ε α) : Prop :=
  ∀ a, result = .ok a → Q a

theorem meets_pure {ε : Type} {a : α} (h : Q a) : Meets R (OnOk Q) (pure a : ExceptT ε Task α).run :=
  fun _ hb => Except.ok.inj hb ▸ h

theorem Meets.bindExcept {ε : Type} {Q' : β → Prop} {x : ExceptT ε Task α} {f : α → ExceptT ε Task β}
    (h : Meets R (OnOk Q) x.run) (hf : ∀ a, Q a → Meets R (OnOk Q') (f a).run) : Meets R (OnOk Q') (x >>= f).run := by
  refine Meets.bind h fun result hresult => ?_
  cases result with
  | error fault => exact fun b hb => by cases hb
  | ok a => exact hf a (hresult a rfl)

theorem Meets.adapt {ε ε' : Type} {x : ExceptT ε Task α} (h : Meets R (OnOk Q) x.run) (f : ε → ε') :
    Meets R (OnOk Q) (x.adapt f).run := by
  refine Meets.bind h fun result hresult => ?_
  cases result with
  | error fault => exact fun a ha => by cases ha
  | ok a => exact fun b hb => Except.ok.inj hb ▸ hresult a rfl

theorem Meets.tryInTurn {ε : Type} {Q' : β → Prop} {x : ExceptT ε Task α} {y : ExceptT ε Task β}
    (hx : Meets R (OnOk Q) x.run) (hy : Meets R (OnOk Q') y.run) :
    Meets R (OnOk fun both => Q both.1 ∧ Q' both.2) (Task.tryInTurn x y).run := by
  refine Meets.bind hx fun result hresult => ?_
  cases result with
  | error fault =>
    intro unserved
    cases unserved with
    | true => exact fun _ hboth => nomatch hboth
    | false => exact Meets.bind hy fun _ _ _ hboth => nomatch hboth
  | ok a =>
    refine Meets.bind hy fun result' hresult' => ?_
    cases result' with
    | error fault => exact fun _ hboth => nomatch hboth
    | ok b => exact fun _ hboth => Except.ok.inj hboth ▸ ⟨hresult a rfl, hresult' b rfl⟩

theorem Meets.tryBoth {ε : Type} {Q' : β → Prop} {x : ExceptT ε Task α} {y : ExceptT ε Task β}
    (hx : Meets R (OnOk Q) x.run) (hy : Meets R (OnOk Q') y.run) :
    Meets R (OnOk fun both => Q both.1 ∧ Q' both.2) (Task.tryBoth x y).run := by
  intro inOrder
  cases inOrder with
  | true => exact hx.tryInTurn hy
  | false =>
    refine Meets.bind (hy.tryInTurn hx) fun result hresult => ?_
    cases result with
    | error fault => exact fun _ hboth => nomatch hboth
    | ok both => exact fun _ hswap => Except.ok.inj hswap ▸ (hresult both rfl).symm

/-! ## Tasks without choices -/

/-- nothing is left open -/
def Straight : Task α → Prop
  | done _ => True
  | ask _ next => ∀ answer, (next answer).Straight
  | pick _ => False

theorem Straight.bind {t : Task α} {f : α → Task β} (h : t.Straight) (hf : ∀ a, (f a).Straight) :
    (t.bind f).Straight := by
  induction t with
  | done result => exact hf result
  | ask request next ih => exact fun answer => ih answer (h answer)
  | pick next ih => exact h.elim

theorem Straight.bindExcept {ε : Type} {x : ExceptT ε Task α} {f : α → ExceptT ε Task β} (h : Straight x.run)
    (hf : ∀ a, Straight (f a).run) : Straight (x >>= f).run := by
  refine Straight.bind h fun result => ?_
  cases result with
  | error fault => trivial
  | ok a => exact hf a

end Task

/-- a task that goes given ways at its first choices -/
def Task.along {α : Type} : Task α → List Bool → Task α
  | .done a, _ => .done a
  | .ask request next, ways => .ask request fun answer => (next answer).along ways
  | .pick next, [] => .pick next
  | .pick next, way :: ways => (next way).along ways

namespace Session

variable {α β ε : Type}

@[simp]
theorem run_ask (s : Session) (request : Request) (next : request.Answer → Task α) :
    s.run (.ask request next) = (s.answer request).2.run (next (s.answer request).1) :=
  rfl

theorem run_bind (s : Session) (t : Task α) (f : α → Task β) :
    s.run (t.bind f) = (s.run t).2.run (f (s.run t).1) := by
  induction t generalizing s with
  | done result => rfl
  | ask request next ih => exact ih _ _
  | pick next ih => exact ih true s

theorem run_bindExcept (s : Session) (x : ExceptT ε Task α) (f : α → ExceptT ε Task β) :
    s.run (x >>= f).run =
      match s.run x.run with
      | (.ok a, s') => s'.run (f a).run
      | (.error e, s') => (.error e, s') := by
  refine (run_bind s x.run _).trans ?_
  rcases s.run x.run with ⟨e | a, s'⟩ <;> rfl

theorem run_liftM (s : Session) (t : Task α) :
    s.run (liftM t : ExceptT ε Task α).run = (.ok (s.run t).1, (s.run t).2) :=
  run_bind s t _

theorem run_adapt {ε' : Type} (s : Session) (x : ExceptT ε Task α) (f : ε → ε') :
    s.run (x.adapt f).run = ((s.run x.run).1.mapError f, (s.run x.run).2) :=
  run_bind s x.run _

/-! ## What a task can come to -/

/-- a task can end with a result and a session -/
def Ends (s : Session) : Task α → α → Session → Prop
  | .done a, result, s' => result = a ∧ s' = s
  | .ask request next, result, s' => Ends (s.answer request).2 (next (s.answer request).1) result s'
  | .pick next, result, s' => ∃ way, Ends s (next way) result s'

/-- every task comes to an end: a run goes the first way at every choice -/
theorem ends_run (s : Session) (t : Task α) : s.Ends t (s.run t).1 (s.run t).2 := by
  induction t generalizing s with
  | done result => exact ⟨rfl, rfl⟩
  | ask request next ih => exact ih _ _
  | pick next ih => exact ⟨true, ih true s⟩

theorem ends_of_run {s : Session} {t : Task α} {result : α} (h : (s.run t).1 = result) : s.Ends t result (s.run t).2 :=
  h ▸ s.ends_run t

/-- without choices there is one end -/
theorem Ends.eq_run {s s' : Session} {t : Task α} {result : α} (h : s.Ends t result s') (ht : t.Straight) :
    s.run t = (result, s') := by
  induction t generalizing s with
  | done a =>
    obtain ⟨rfl, rfl⟩ := h
    rfl
  | ask request next ih => exact ih _ h (ht _)
  | pick next ih => exact ht.elim

theorem ends_bind {s s' : Session} {t : Task α} {f : α → Task β} {result : β} :
    s.Ends (t.bind f) result s' ↔ ∃ a s₁, s.Ends t a s₁ ∧ s₁.Ends (f a) result s' := by
  induction t generalizing s with
  | done a =>
    constructor
    · exact fun h => ⟨a, s, ⟨rfl, rfl⟩, h⟩
    · rintro ⟨_, _, ⟨rfl, rfl⟩, h⟩
      exact h
  | ask request next ih => exact ih _
  | pick next ih =>
    constructor
    · rintro ⟨way, h⟩
      obtain ⟨a, s₁, ht, hf⟩ := (ih way).1 h
      exact ⟨a, s₁, ⟨way, ht⟩, hf⟩
    · rintro ⟨a, s₁, ⟨way, ht⟩, hf⟩
      exact ⟨way, (ih way).2 ⟨a, s₁, ht, hf⟩⟩

section Except

variable {s s' : Session} {x : ExceptT ε Task α} {f : α → ExceptT ε Task β}

/-- what is done without choices comes first -/
theorem ends_bindExcept_straight (hx : x.run.Straight) {first : Except ε α} {s₁ : Session}
    (hrun : s.run x.run = (first, s₁)) {result : Except ε β} :
    s.Ends (x >>= f).run result s' ↔ s₁.Ends (ExceptT.bindCont f first) result s' := by
  refine ends_bind.trans ⟨?_, fun h => ⟨first, s₁, ?_, h⟩⟩
  · rintro ⟨first', s₁', hends, hf⟩
    cases hrun.symm.trans (hends.eq_run hx)
    exact hf
  · have hends := s.ends_run x.run
    rwa [hrun] at hends

theorem ends_bindExcept {result : Except ε β} :
    s.Ends (x >>= f).run result s' ↔
      (∃ a s₁, s.Ends x.run (.ok a) s₁ ∧ s₁.Ends (f a).run result s') ∨
        ∃ e, result = .error e ∧ s.Ends x.run (.error e) s' := by
  refine ends_bind.trans ⟨?_, ?_⟩
  · rintro ⟨e | a, s₁, hx, hf⟩
    · obtain ⟨rfl, rfl⟩ := hf
      exact Or.inr ⟨e, rfl, hx⟩
    · exact Or.inl ⟨a, s₁, hx, hf⟩
  · rintro (⟨a, s₁, hx, hf⟩ | ⟨e, rfl, hx⟩)
    · exact ⟨.ok a, s₁, hx, hf⟩
    · exact ⟨.error e, s', hx, rfl, rfl⟩

theorem ends_adapt {ε' : Type} {g : ε → ε'} {result : Except ε' α} :
    s.Ends (x.adapt g).run result s' ↔ ∃ result', s.Ends x.run result' s' ∧ result = result'.mapError g := by
  refine ends_bind.trans ⟨?_, ?_⟩
  · rintro ⟨result', _, hx, rfl, rfl⟩
    exact ⟨result', hx, rfl⟩
  · rintro ⟨result', hx, rfl⟩
    exact ⟨result', s', hx, rfl, rfl⟩

theorem Ends.adapt_ok {ε' : Type} {g : ε → ε'} {a : α} (h : s.Ends (x.adapt g).run (.ok a) s') :
    s.Ends x.run (.ok a) s' := by
  obtain ⟨result, hx, hresult⟩ := ends_adapt.1 h
  cases result with
  | error e => cases hresult
  | ok b =>
    cases hresult
    exact hx

theorem ends_liftM {t : Task α} {result : Except ε α} :
    s.Ends (liftM t : ExceptT ε Task α).run result s' ↔ ∃ a, result = .ok a ∧ s.Ends t a s' := by
  refine ends_bind.trans ⟨?_, ?_⟩
  · rintro ⟨a, _, ht, rfl, rfl⟩
    exact ⟨a, rfl, ht⟩
  · rintro ⟨a, rfl, ht⟩
    exact ⟨a, s', ht, rfl, rfl⟩

theorem ends_bindLift {t : Task α} {result : Except ε β} :
    s.Ends (liftM t >>= f).run result s' ↔ ∃ a s₁, s.Ends t a s₁ ∧ s₁.Ends (f a).run result s' := by
  refine ends_bindExcept.trans ⟨?_, ?_⟩
  · rintro (⟨a, s₁, ht, hf⟩ | ⟨e, -, ht⟩)
    · obtain ⟨_, heq, ht⟩ := ends_liftM.1 ht
      cases heq
      exact ⟨a, s₁, ht, hf⟩
    · obtain ⟨_, he, -⟩ := ends_liftM.1 ht
      cases he
  · rintro ⟨a, s₁, ht, hf⟩
    exact Or.inl ⟨a, s₁, ends_liftM.2 ⟨a, rfl, ht⟩, hf⟩

/-- two tasks one of which is served first: both succeed, or the second fails, or the first fails and the second is
left, served or not -/
theorem Ends.tryInTurn {y : ExceptT ε Task β} {result : Except ε (α × β)}
    (h : s.Ends (Task.tryInTurn x y).run result s') :
    (∃ a s₁, s.Ends x.run (.ok a) s₁ ∧ ∃ result', s₁.Ends y.run result' s' ∧ result = result'.map (a, ·)) ∨
      ∃ e s₁, s.Ends x.run (.error e) s₁ ∧ result = .error e ∧ (s' = s₁ ∨ ∃ result', s₁.Ends y.run result' s') := by
  obtain ⟨first, s₁, hx, hrest⟩ := ends_bind.1 h
  cases first with
  | ok a =>
    obtain ⟨result', _, hy, rfl, rfl⟩ := ends_bind.1 hrest
    exact Or.inl ⟨a, s₁, hx, result', hy, rfl⟩
  | error e =>
    obtain ⟨unserved, hrest⟩ := hrest
    cases unserved with
    | true =>
      obtain ⟨rfl, rfl⟩ := hrest
      exact Or.inr ⟨e, s', hx, rfl, Or.inl rfl⟩
    | false =>
      obtain ⟨result', _, hy, rfl, rfl⟩ := ends_bind.1 hrest
      exact Or.inr ⟨e, s₁, hx, rfl, Or.inr ⟨result', hy⟩⟩

theorem Ends.tryBoth {y : ExceptT ε Task β} {result : Except ε (α × β)} (h : s.Ends (Task.tryBoth x y).run result s') :
    s.Ends (Task.tryInTurn x y).run result s' ∨
      ∃ result', s.Ends (Task.tryInTurn y x).run result' s' ∧ result = result'.map Prod.swap := by
  obtain ⟨inOrder, h⟩ := h
  cases inOrder with
  | true => exact Or.inl h
  | false =>
    obtain ⟨result', _, hswapped, rfl, rfl⟩ := ends_bind.1 h
    exact Or.inr ⟨result', hswapped, rfl⟩

/-- two tasks that both succeed have been served one after the other -/
theorem Ends.tryBoth_ok {y : ExceptT ε Task β} {a : α} {b : β} (h : s.Ends (Task.tryBoth x y).run (.ok (a, b)) s') :
    (∃ s₁, s.Ends x.run (.ok a) s₁ ∧ s₁.Ends y.run (.ok b) s') ∨
      ∃ s₁, s.Ends y.run (.ok b) s₁ ∧ s₁.Ends x.run (.ok a) s' := by
  rcases h.tryBoth with h | ⟨swapped, h, hswapped⟩
  · rcases h.tryInTurn with ⟨a', s₁, hx, result, hy, hresult⟩ | ⟨e, _, -, he, -⟩
    · cases result with
      | error e => cases hresult
      | ok b' =>
        cases hresult
        exact Or.inl ⟨s₁, hx, hy⟩
    · cases he
  · rcases h.tryInTurn with ⟨b', s₁, hy, result, hx, rfl⟩ | ⟨e, _, -, rfl, -⟩
    · cases result with
      | error e => cases hswapped
      | ok a' =>
        cases hswapped
        exact Or.inr ⟨s₁, hy, hx⟩
    · cases hswapped

end Except

/-- what holds of the result whatever the answers are -/
theorem Ends.result {R : Request → Prop} {Q : α → Prop} {t : Task α} {s s' : Session} {result : α}
    (h : s.Ends t result s') (ht : t.Meets R Q) : Q result := by
  induction t generalizing s with
  | done a => exact h.1 ▸ ht
  | ask request next ih => exact ih _ h (ht.2 _)
  | pick next ih =>
    obtain ⟨way, h⟩ := h
    exact ih way h (ht way)

/-- what every request keeps, a task keeps in all its ends -/
theorem Ends.invariant {R : Request → Prop} {Q : α → Prop} {I : Session → Prop} {t : Task α} {s s' : Session}
    {result : α} (h : s.Ends t result s') (hstep : ∀ s request, R request → I s → I (s.answer request).2)
    (ht : t.Meets R Q)
    (hs : I s) : I s' := by
  induction t generalizing s with
  | done a => exact h.2 ▸ hs
  | ask request next ih => exact ih _ h (ht.2 _) (hstep s request ht.1 hs)
  | pick next ih =>
    obtain ⟨way, h⟩ := h
    exact ih way h (ht way) hs

end Session

namespace Disk

/-- the answer to a request, and the disk after it -/
def serve (d : Disk) (request : Request) : request.Answer × Disk :=
  (((⟨d, [], "", ""⟩ : Session).answer request).1, ((⟨d, [], "", ""⟩ : Session).answer request).2.disk)

/-- a task can end with a result and a disk -/
def Ends {α : Type} (d : Disk) : Task α → α → Disk → Prop
  | .done a, result, e => result = a ∧ e = d
  | .ask request next, result, e => Ends (d.serve request).2 (next (d.serve request).1) result e
  | .pick next, result, e => ∃ way, Ends d (next way) result e

end Disk

namespace Session

variable {α : Type} {s s₀ : Session}

/-- what was reported and printed has no influence on an answer -/
theorem answer_eq_serve (s : Session) (request : Request) :
    (s.answer request).1 = (s.disk.serve request).1 ∧ (s.answer request).2.disk = (s.disk.serve request).2 := by
  cases request with
  | writeText p text =>
    unfold Disk.serve
    simp only [answer, update]
    cases s.disk.writeText p text <;> exact ⟨rfl, rfl⟩
  | _ => exact ⟨rfl, rfl⟩

theorem answer_congr (h : s₀.disk = s.disk) (request : Request) :
    (s₀.answer request).1 = (s.answer request).1 ∧ (s₀.answer request).2.disk = (s.answer request).2.disk := by
  obtain ⟨hanswer, hdisk⟩ := s.answer_eq_serve request
  obtain ⟨hanswer₀, hdisk₀⟩ := s₀.answer_eq_serve request
  rw [h] at hanswer₀ hdisk₀
  exact ⟨hanswer₀.trans hanswer.symm, hdisk₀.trans hdisk.symm⟩

/-- nor on how a task can end -/
theorem ends_disk_iff {t : Task α} {result : α} {e : Disk} :
    s.disk.Ends t result e ↔ ∃ s', s.Ends t result s' ∧ s'.disk = e := by
  induction t generalizing s with
  | done a =>
    constructor
    · rintro ⟨rfl, rfl⟩
      exact ⟨s, ⟨rfl, rfl⟩, rfl⟩
    · rintro ⟨_, ⟨rfl, rfl⟩, rfl⟩
      exact ⟨rfl, rfl⟩
  | ask request next ih =>
    obtain ⟨hanswer, hdisk⟩ := s.answer_eq_serve request
    have hrest := ih (s.answer request).1 (s := (s.answer request).2)
    rw [hdisk, hanswer] at hrest
    simp only [Disk.Ends, Ends, hanswer]
    exact hrest
  | pick next ih =>
    constructor
    · rintro ⟨way, h⟩
      obtain ⟨s', h, hdisk⟩ := (ih way).1 h
      exact ⟨s', ⟨way, h⟩, hdisk⟩
    · rintro ⟨s', ⟨way, h⟩, hdisk⟩
      exact ⟨way, (ih way).2 ⟨s', h, hdisk⟩⟩

theorem Ends.congr {s' : Session} {t : Task α} {result : α} (h : s.Ends t result s') (hdisk : s₀.disk = s.disk) :
    ∃ s₀', s₀.Ends t result s₀' ∧ s₀'.disk = s'.disk := by
  rw [← ends_disk_iff, hdisk]
  exact ends_disk_iff.2 ⟨s', h, rfl⟩

/-- a run depends on the disk alone -/
theorem run_congr (h : s₀.disk = s.disk) (t : Task α) :
    (s₀.run t).1 = (s.run t).1 ∧ (s₀.run t).2.disk = (s.run t).2.disk := by
  induction t generalizing s s₀ with
  | done a => exact ⟨rfl, h⟩
  | ask request next ih =>
    obtain ⟨hanswer, hafter⟩ := answer_congr h request
    rw [run_ask, run_ask, hanswer]
    exact ih _ hafter
  | pick next ih => exact ih true h

end Session

end ComponentCompiler
