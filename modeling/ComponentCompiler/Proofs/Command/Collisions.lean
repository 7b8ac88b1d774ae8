import Mathlib.Data.List.Nodup
import ComponentCompiler.Command
import ComponentCompiler.Proofs.Naming

/-!
Two sources must not lead to one component, since both would be written to one directory.

The check compares the identifiers that the paths give, while the components get the fallback for an empty one. So the
check is exact but for one pair: a source named by dashes only and a source whose identifier is the fallback.
`distinct_components_iff` says this for every list of sources, and `fallback_pair_passes` shows the pair.
-/

namespace ComponentCompiler.Command

open Text

/-! ## The check -/

/-- nothing is found for an identifier exactly if it is not among the recorded ones -/
theorem find?_seen_eq_none_iff {seen : List (String × Path)} {identifier : String} :
    seen.find? (·.1 == identifier) = none ↔ identifier ∉ seen.map (·.1) := by
  rw [List.find?_eq_none, List.mem_map]
  constructor
  · rintro hnone ⟨pair, hpair, rfl⟩
    exact hnone pair hpair (beq_self_eq_true _)
  · intro hnot pair hpair hkey
    exact hnot ⟨pair, hpair, beq_iff_eq.1 hkey⟩

theorem collisionAfter?_eq_none_iff (seen : List (String × Path)) (later : List Path) :
    collisionAfter? seen later = none ↔
      (later.map Naming.identifierOf).Nodup ∧ ∀ s ∈ later, Naming.identifierOf s ∉ seen.map (·.1) := by
  induction later generalizing seen with
  | nil => simp [collisionAfter?]
  | cons source later ih =>
    rw [collisionAfter?]
    cases hfind : seen.find? (·.1 == Naming.identifierOf source) with
    | some first =>
      have hmem : Naming.identifierOf source ∈ seen.map (·.1) := by
        by_contra hnot
        rw [find?_seen_eq_none_iff.2 hnot] at hfind
        cases hfind
      simp only [reduceCtorEq, false_iff]
      exact fun h => h.2 source List.mem_cons_self hmem
    | none =>
      have hnot := find?_seen_eq_none_iff.1 hfind
      simp only [ih, List.map_cons, List.nodup_cons, List.map_append, List.map_nil, List.mem_append,
        List.mem_singleton, not_or, List.forall_mem_cons]
      constructor
      · rintro ⟨hnodup, hlater⟩
        refine ⟨⟨fun hmem => ?_, hnodup⟩, hnot, fun s hs => (hlater s hs).1⟩
        obtain ⟨s, hs, hsame⟩ := List.mem_map.1 hmem
        exact (hlater s hs).2 hsame
      · rintro ⟨⟨hfresh, hnodup⟩, -, hlater⟩
        exact ⟨hnodup, fun s hs => ⟨hlater s hs, fun hsame => hfresh (hsame ▸ List.mem_map_of_mem hs)⟩⟩

/-- the check passes exactly when the identifiers that the paths give are pairwise distinct -/
theorem collision?_eq_none_iff_nodup (sources : List Path) :
    collision? sources = none ↔ (sources.map Naming.identifierOf).Nodup := by
  simp [collision?, collisionAfter?_eq_none_iff]

/-! ## The components -/

/-- putting the fallback for empty texts makes two texts equal only if one is empty and the other the fallback -/
theorem nodup_map_fallback_iff (names : List String) :
    (names.map fun name => if name.isEmpty then Naming.fallback else name).Nodup ↔
      names.Nodup ∧ ¬ ("" ∈ names ∧ Naming.fallback ∈ names) := by
  have hfallback : Naming.fallback ≠ "" := by decide
  constructor
  · intro h
    refine ⟨h.of_map _, fun ⟨hempty, hmem⟩ => hfallback ?_⟩
    exact List.inj_on_of_nodup_map h hmem hempty (by simp [hfallback])
  · rintro ⟨hnodup, hpair⟩
    refine hnodup.map_on fun a ha b hb hab => ?_
    by_cases hea : a = "" <;> by_cases heb : b = ""
    · rw [hea, heb]
    · simp only [String.isEmpty_iff, hea, if_true, heb, if_false] at hab
      exact absurd ⟨hea ▸ ha, hab ▸ hb⟩ hpair
    · simp only [String.isEmpty_iff, heb, if_true, hea, if_false] at hab
      exact absurd ⟨heb ▸ hb, hab ▸ ha⟩ hpair
    · simpa [hea, heb] using hab

theorem nodup_identifierFor_iff (sources : List Path) :
    (sources.map Component.identifierFor).Nodup ↔
      collision? sources = none ∧
        ¬ ((∃ s ∈ sources, Naming.identifierOf s = "") ∧ ∃ s ∈ sources, Naming.identifierOf s = Naming.fallback) := by
  have hmap : sources.map Component.identifierFor =
      (sources.map Naming.identifierOf).map fun name => if name.isEmpty then Naming.fallback else name := by
    rw [List.map_map]
    exact List.map_congr_left fun source _ => by rw [Component.identifierFor, Function.comp_apply]
  rw [hmap, nodup_map_fallback_iff, collision?_eq_none_iff_nodup]
  simp only [List.mem_map]

theorem join_injective {p q q' : Path} (hq : q.isAbsolute = false) (hq' : q'.isAbsolute = false)
    (h : p.join q = p.join q') : q = q' := by
  unfold Path.join at h
  simp only [hq, hq', Bool.false_eq_true, if_false] at h
  split_ifs at h
  · exact congrArg Path.mk (List.append_cancel_left (Path.mk.inj h))
  · exact congrArg Path.mk (List.cons.inj (List.append_cancel_left (Path.mk.inj h))).2

/-- distinct identifiers mean distinct directories -/
theorem componentDir_injective {output : Path} {a b : Path}
    (h : Output.componentDir output (Component.identifierFor a) =
      Output.componentDir output (Component.identifierFor b)) :
    Component.identifierFor a = Component.identifierFor b := by
  have ha := (Component.isName_identifierFor a).not_absolute
  have hb := (Component.isName_identifierFor b).not_absolute
  exact Utf8.encode_injective (Path.mk.inj (join_injective ha hb h))

/-- **What the check misses.** The components of a list of sources have pairwise distinct identifiers, and so
directories of their own, exactly when the check passes and the list does not hold both a source with an empty name and
a source named like the fallback. -/
theorem distinct_components_iff (sources : List Path) (template : Path → Compiled) (props : Path → Option Props)
    (output : Path) :
    let identifier := fun source => (Component.assemble source (template source) (props source)).identifier
    ((sources.map identifier).Nodup ↔
      collision? sources = none ∧
        ¬ ((∃ s ∈ sources, Naming.identifierOf s = "") ∧ ∃ s ∈ sources, Naming.identifierOf s = Naming.fallback)) ∧
    ((sources.map fun source => Output.componentDir output (identifier source)).Nodup ↔
      (sources.map identifier).Nodup) := by
  intro identifier
  have hid : identifier = Component.identifierFor := by
    funext source
    exact Component.assemble_identifier source _ _
  rw [hid]
  refine ⟨nodup_identifierFor_iff sources, ?_, ?_⟩
  · intro h
    have hmap : (sources.map fun source => Output.componentDir output (Component.identifierFor source)) =
        (sources.map Component.identifierFor).map (Output.componentDir output) := by
      simp only [List.map_map, Function.comp_def]
    rw [hmap] at h
    exact h.of_map _
  · intro h
    have hinj := List.inj_on_of_nodup_map h
    exact (h.of_map _).map_on fun a ha b hb hab => hinj ha hb (componentDir_injective hab)

/-- a source named by a dash and one named like the fallback pass the check and make one component -/
theorem fallback_pair_passes :
    let sources := [Path.ofString "s/-.webc", Path.ofString "s/component.webc"]
    collision? sources = none ∧
      ¬ (sources.map fun source => (Component.assemble source ⟨"", [], [], []⟩ none).identifier).Nodup := by
  decide

end ComponentCompiler.Command
