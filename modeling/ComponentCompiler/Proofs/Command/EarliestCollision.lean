import ComponentCompiler.Proofs.Command.Collisions
import ComponentCompiler.Session

/-!
Which collision is reported.

The check goes through the sources once and records each identifier with its source. As long as it has found nothing, no
identifier of the sources behind it comes twice, and the record holds just these identifiers, each with its one source.
So what it reports is the earliest repetition (`FirstRepeat`): the first source whose identifier came before, and the
one source that it came with. `earliest_collision_reported` says this for every list of sources.
-/

namespace ComponentCompiler.Command

open Naming

/-! ## The earliest repetition in a list -/

/-- the earliest repetition among names: `j` is the first place with a name that came before, and `i` is where it
came -/
structure FirstRepeat (names : List String) (i j : Nat) (name : String) : Prop where
  lt : i < j
  first : names[i]? = some name
  second : names[j]? = some name
  least : ∀ j', j' < j → ∀ i', i' < j' → names[i']? ≠ names[j']?
  only : ∀ i', i' < j → names[i']? = some name → i' = i

namespace FirstRepeat

variable {names : List String} {i j i' j' : Nat} {name name' : String}

/-- no repetition is earlier than the earliest one -/
theorem le (h : FirstRepeat names i j name) (h' : FirstRepeat names i' j' name') : j ≤ j' := by
  by_contra hlt
  exact h.least j' (Nat.lt_of_not_le hlt) i' h'.lt (h'.first.trans h'.second.symm)

theorem unique (h : FirstRepeat names i j name) (h' : FirstRepeat names i' j' name') :
    i = i' ∧ j = j' ∧ name = name' := by
  obtain rfl : j = j' := Nat.le_antisymm (h.le h') (h'.le h)
  obtain rfl : name = name' := Option.some.inj (h.second.symm.trans h'.second)
  exact ⟨h'.only i h.lt h.first, rfl, rfl⟩

theorem not_nodup (h : FirstRepeat names i j name) : ¬ names.Nodup := by
  intro hnodup
  have hbound : j < names.length := (List.getElem?_eq_some_iff.1 h.second).1
  exact List.nodup_iff_getElem?_ne_getElem?.1 hnodup i j h.lt hbound (h.first.trans h.second.symm)

/-- after names that are all different, one of them once more is the earliest repetition -/
theorem of_nodup {earlier : List String} (later : List String) (hnodup : earlier.Nodup) (hi : earlier[i]? = some name) :
    FirstRepeat (earlier ++ name :: later) i earlier.length name := by
  have hlt : i < earlier.length := (List.getElem?_eq_some_iff.1 hi).1
  have hfront : ∀ k, k < earlier.length → (earlier ++ name :: later)[k]? = earlier[k]? :=
    fun k hk => List.getElem?_append_left hk
  have hdistinct := List.nodup_iff_getElem?_ne_getElem?.1 hnodup
  refine ⟨hlt, (hfront i hlt).trans hi, by simp, ?_, ?_⟩
  · intro j' hj' i' hi'
    rw [hfront j' hj', hfront i' (hi'.trans hj')]
    exact hdistinct i' j' hi' hj'
  · intro i' hi' hname
    rw [hfront i' hi'] at hname
    rcases Nat.lt_trichotomy i' i with hbefore | hsame | hafter
    · exact absurd (hname.trans hi.symm) (hdistinct i' i hbefore hlt)
    · exact hsame
    · exact absurd (hi.trans hname.symm) (hdistinct i i' hafter hi')

end FirstRepeat

/-! ## What the check reports -/

def recorded (sources : List Path) : List (String × Path) :=
  sources.map fun source => (identifierOf source, source)

theorem map_fst_recorded (sources : List Path) : (recorded sources).map (·.1) = sources.map identifierOf := by
  simp only [recorded, List.map_map, Function.comp_def]

/-- the two sources of a collision and the identifier that they share, at their places -/
def ReportsAt (c : Collision) (sources : List Path) (i j : Nat) : Prop :=
  sources[i]? = some c.first ∧ sources[j]? = some c.second ∧ FirstRepeat (sources.map identifierOf) i j c.identifier

/-- **The check reports the earliest repetition.** It is carried on from sources without a collision, which are
recorded. -/
theorem reportsAt_of_collisionAfter? {earlier later : List Path} {c : Collision}
    (hnodup : (earlier.map identifierOf).Nodup) (h : collisionAfter? (recorded earlier) later = some c) :
    ∃ i j, ReportsAt c (earlier ++ later) i j := by
  induction later generalizing earlier with
  | nil => cases h
  | cons source later ih =>
    rw [collisionAfter?] at h
    cases hfind : (recorded earlier).find? (·.1 == identifierOf source) with
    | some entry =>
      rw [hfind, Option.some.injEq] at h
      subst h
      obtain ⟨first, hfirst, rfl⟩ := List.mem_map.1 (List.mem_of_find?_eq_some hfind)
      have hsame : identifierOf first = identifierOf source := by simpa using List.find?_some hfind
      obtain ⟨i, hi⟩ := List.mem_iff_getElem?.1 hfirst
      refine ⟨i, earlier.length, ?_, by simp, ?_⟩
      · rw [List.getElem?_append_left (List.getElem?_eq_some_iff.1 hi).1]
        exact hi
      · have hname : (earlier.map identifierOf)[i]? = some (identifierOf source) := by
          rw [List.getElem?_map, hi, Option.map_some, hsame]
        simpa using FirstRepeat.of_nodup (later.map identifierOf) hnodup hname
    | none =>
      rw [hfind] at h
      -- the record grows by a source with a new identifier, so the induction goes on from one source more
      have hnew : identifierOf source ∉ earlier.map identifierOf := by
        rw [← map_fst_recorded]
        exact find?_seen_eq_none_iff.1 hfind
      have hrecorded : recorded earlier ++ [(identifierOf source, source)] = recorded (earlier ++ [source]) := by
        simp [recorded]
      have hgrown : ((earlier ++ [source]).map identifierOf).Nodup := by
        rw [List.map_append, List.map_singleton, ← List.concat_eq_append]
        exact hnodup.concat hnew
      rw [hrecorded] at h
      simpa using ih hgrown h

theorem collision?_eq_some_iff {sources : List Path} {c : Collision} :
    collision? sources = some c ↔ ∃ i j, ReportsAt c sources i j := by
  have hnothing : (([] : List Path).map identifierOf).Nodup := List.nodup_nil
  constructor
  · exact reportsAt_of_collisionAfter? hnothing
  · -- where there is a repetition the check reports something, and that can only be this one
    rintro ⟨i, j, hfirst, hsecond, hrepeat⟩
    cases hreported : collision? sources with
    | none => exact absurd ((collision?_eq_none_iff_nodup sources).1 hreported) hrepeat.not_nodup
    | some c' =>
      obtain ⟨i', j', hfirst', hsecond', hrepeat'⟩ := reportsAt_of_collisionAfter? hnothing hreported
      obtain ⟨rfl, rfl, hname⟩ := hrepeat.unique hrepeat'
      have hsame : c' = c := by
        cases c
        cases c'
        rw [Collision.mk.injEq]
        exact ⟨Option.some.inj (hfirst'.symm.trans hfirst), Option.some.inj (hsecond'.symm.trans hsecond), hname.symm⟩
      rw [hsame]

/-- **The earliest collision is reported.** The check passes exactly when the identifiers of the sources are pairwise
distinct. Otherwise it names the first source whose identifier came before, the one earlier source with this identifier,
and the identifier; there is one choice of these. The run then ends with this fault and does nothing. -/
theorem earliest_collision_reported (sources : List Path) :
    (collision? sources = none ↔ (sources.map identifierOf).Nodup) ∧
    (∀ c, collision? sources = some c ↔ ∃ i j, ReportsAt c sources i j) ∧
    (∀ c c' i j i' j', ReportsAt c sources i j → ReportsAt c' sources i' j' → c = c' ∧ i = i' ∧ j = j') ∧
    (∀ c, collision? sources = some c → ∀ target props output (s : Session),
      s.run (realRun target props output sources).run = (.error (.collision c), s) ∧
      (Fault.collision c).message = c.first.display ++ " and " ++ c.second.display ++ " both compile to component " ++
        c.identifier ++ "; rename one of them") := by
  refine ⟨collision?_eq_none_iff_nodup sources, fun c => collision?_eq_some_iff, ?_, ?_⟩
  · intro c c' i j i' j' h h'
    obtain ⟨hi, hj, -⟩ := h.2.2.unique h'.2.2
    have hreported := collision?_eq_some_iff.2 ⟨i, j, h⟩
    rw [collision?_eq_some_iff.2 ⟨i', j', h'⟩] at hreported
    exact ⟨(Option.some.inj hreported).symm, hi, hj⟩
  · intro c h target props output s
    refine ⟨?_, rfl⟩
    simp only [realRun, h]
    rfl

/-- of two collisions the one that is complete first is reported, although the other begins first -/
theorem inner_collision_reported :
    let sources := [Path.ofString "s/a.webc", .ofString "s/b-c.webc", .ofString "t/B-C.webc", .ofString "t/a.webc"]
    let c : Collision := ⟨.ofString "s/b-c.webc", .ofString "t/B-C.webc", "BC"⟩
    collision? sources = some c ∧ ¬ (sources.map identifierOf).Nodup ∧ (∃ i j, ReportsAt c sources i j) ∧
      ∀ s : Session, (s.run (realRun .react none (.ofString "o") sources).run).2 = s := by
  intro sources c
  obtain ⟨hnone, hsome, -, hrun⟩ := earliest_collision_reported sources
  have hcollision : collision? sources = some c := by decide +kernel
  refine ⟨hcollision, ?_, (hsome c).1 hcollision, ?_⟩
  · rw [← hnone, hcollision]
    exact Option.some_ne_none c
  · intro s
    rw [(hrun c hcollision .react none (.ofString "o") s).1]

end ComponentCompiler.Command
