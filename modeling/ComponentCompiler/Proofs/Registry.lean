import ComponentCompiler.Registry
import ComponentCompiler.Proofs.Latest
import ComponentCompiler.Proofs.LowerCase

/-!
What a registry is after any registrations, and which targets a lookup finds.

A registration takes the older target of its name out and goes to the end. So the targets are the registrations without
those whose name is registered again (`targets_registerAll`), and no name stands twice. A lookup takes the first target
with the name it looks for, which is the last one registered: `registerAll_reflects`.

A lookup puts what is wanted in lower case, but takes the names as they were registered. A target whose name is its own
lower case is found in every ASCII case; any other target is not found at all, not even by its own name.
`found_iff_lowercase` says this of every target of every registry, and `capital_svelte_lost` shows one.
-/

namespace ComponentCompiler.Registry

open Text

/-! ## After any registrations -/

/-- what a registry is after a history of registrations: its targets, what a lookup finds, and how it fails -/
structure Reflects (r : Registry) (history : List Target) : Prop where
  distinct : r.names.Nodup
  targets : r.targets = latest Target.name history
  found : ∀ wanted t, latest? Target.name (lowercase wanted) history = some t → r.get wanted = .ok t
  refused : ∀ wanted, latest? Target.name (lowercase wanted) history = none →
    r.get wanted = .error ⟨wanted, (latest Target.name history).map Target.name⟩

theorem targets_register {r : Registry} {history : List Target} (h : r.targets = latest Target.name history)
    (t : Target) :
    (r.register t).targets = latest Target.name (history ++ [t]) := by
  have htest : (fun other : Target => other.name != t.name) = fun other => decide (other.name ≠ t.name) := by
    funext other
    rw [decide_not]
    rfl
  rw [latest_concat, register, h, htest]

theorem targets_registerAll {r : Registry} {history : List Target} (h : r.targets = latest Target.name history)
    (ts : List Target) : (r.registerAll ts).targets = latest Target.name (history ++ ts) := by
  induction ts generalizing r history with
  | nil => rw [List.append_nil]; exact h
  | cons t ts ih =>
    rw [registerAll, List.foldl_cons, ← registerAll, ih (targets_register h t), List.append_assoc,
      List.singleton_append]

/-- the rest follows from the list of targets -/
theorem reflects_of_targets {r : Registry} {history : List Target} (h : r.targets = latest Target.name history) :
    r.Reflects history := by
  have hnames : r.names = (latest Target.name history).map Target.name := by rw [names, h]
  have hfind : ∀ name, r.targets.find? (fun t => t.name == name) = latest? Target.name name history := by
    intro name
    rw [h]
    exact find?_latest name history
  refine ⟨?_, h, ?_, ?_⟩
  · rw [hnames]
    exact nodup_map_latest history
  · intro wanted t hlast
    rw [get, hfind, hlast]
  · intro wanted hnone
    rw [get, hfind, hnone, hnames]

theorem reflects_empty_registerAll (ts : List Target) : (empty.registerAll ts).Reflects ts := by
  have hnone : empty.targets = latest Target.name [] := rfl
  exact reflects_of_targets (targets_registerAll hnone ts)

/-- the built-in targets are registered first -/
theorem reflects_builtin_registerAll (ts : List Target) : (builtin.registerAll ts).Reflects (Target.builtin ++ ts) := by
  have hfirst : builtin.registerAll ts = empty.registerAll (Target.builtin ++ ts) := List.foldl_append.symm
  rw [hfirst]
  exact reflects_empty_registerAll (Target.builtin ++ ts)

/-- **A registry is its history with only the last registration of each name.** No name stands twice, the targets come
in the order of these last registrations, a lookup finds the last target registered under the lower case of what is
wanted, and where there is none it answers with what was wanted and with all names in order. -/
theorem registerAll_reflects (ts : List Target) :
    (empty.registerAll ts).Reflects ts ∧ (builtin.registerAll ts).Reflects (Target.builtin ++ ts) :=
  ⟨reflects_empty_registerAll ts, reflects_builtin_registerAll ts⟩

example : (builtin.registerAll [Target.astro, Target.react, Target.astro]).names =
    ["preact", "vue", "react", "astro"] := by
  decide

/-! ## Which targets are found -/

theorem Reflects.get_eq_ok_iff {r : Registry} {history : List Target} (h : r.Reflects history) {wanted : String}
    {t : Target} : r.get wanted = .ok t ↔ t ∈ r.targets ∧ t.name = lowercase wanted := by
  rw [h.targets, mem_latest_iff]
  constructor
  · intro hget
    cases hlast : latest? Target.name (lowercase wanted) history with
    | none =>
      rw [h.refused wanted hlast] at hget
      cases hget
    | some last =>
      rw [h.found wanted last hlast] at hget
      obtain rfl := Except.ok.inj hget
      have hname : last.name = lowercase wanted := key_of_latest? hlast
      exact ⟨hname ▸ hlast, hname⟩
  · rintro ⟨hlast, hname⟩
    exact h.found wanted t (hname ▸ hlast)

/-- **A target is found exactly if its name is its own lower case.** Then its name finds it, and so does every other
ASCII case of the name. Otherwise nothing that can be wanted finds it. -/
theorem found_iff_lowercase {start : Registry} (hstart : start = empty ∨ start = builtin) (ts : List Target)
    {t : Target} (ht : t ∈ (start.registerAll ts).targets) :
    let r := start.registerAll ts
    (r.get t.name = .ok t ∧
        (∀ wanted, SameButCase wanted t.name → (∀ u ∈ r.targets, u.name = wanted → u = t) → r.get wanted = .ok t) ↔
      lowercase t.name = t.name) ∧
    (lowercase t.name ≠ t.name → ∀ wanted, r.get wanted ≠ .ok t) := by
  intro r
  obtain ⟨history, hreflects⟩ : ∃ history, r.Reflects history := by
    rcases hstart with rfl | rfl
    · exact ⟨_, reflects_empty_registerAll ts⟩
    · exact ⟨_, reflects_builtin_registerAll ts⟩
  refine ⟨⟨?_, ?_⟩, ?_⟩
  · rintro ⟨hown, -⟩
    exact (hreflects.get_eq_ok_iff.1 hown).2.symm
  · intro hlower
    refine ⟨hreflects.get_eq_ok_iff.2 ⟨ht, hlower.symm⟩, ?_⟩
    intro wanted hcase _
    apply hreflects.get_eq_ok_iff.2
    exact ⟨ht, by rw [lowercase_eq_of_sameButCase hcase, hlower]⟩
  · intro hcapital wanted hfound
    apply hcapital
    rw [(hreflects.get_eq_ok_iff.1 hfound).2, lowercase_lowercase]

/-- a target of one's own -/
def svelte (name : String) : Target where
  name := name
  displayName := "Svelte"
  files := { component := "index.svelte" }

/-- registered under two names, of which one is in lower case -/
theorem small_svelte_found :
    let r := builtin.registerAll [svelte "Svelte", svelte "svelte"]
    r.get "svelte" = .ok (svelte "svelte") ∧ r.get "SVELTE" = .ok (svelte "svelte") ∧
      ∀ wanted, r.get wanted ≠ .ok (svelte "Svelte") := by
  have hfound := fun t => found_iff_lowercase (Or.inr rfl) [svelte "Svelte", svelte "svelte"] (t := t)
  obtain ⟨hown, hcases⟩ := (hfound (svelte "svelte") (by decide)).1.2 (by decide)
  obtain ⟨-, hlost⟩ := hfound (svelte "Svelte") (by decide)
  exact ⟨hown, hcases "SVELTE" (by decide) (by decide), hlost (by decide)⟩

/-- a target that is registered, and that its own name does not find -/
theorem capital_svelte_lost :
    let r := builtin.register (svelte "Svelte")
    svelte "Svelte" ∈ r.targets ∧ r.get "Svelte" = .error ⟨"Svelte", ["react", "astro", "preact", "vue", "Svelte"]⟩ :=
  ⟨by decide, rfl⟩

end ComponentCompiler.Registry
