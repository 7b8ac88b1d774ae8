import Mathlib.Data.List.Lex
import Mathlib.Tactic.Common
import ComponentCompiler.Proofs.Path

/-!
The order of paths.

Paths are compared part by part, and parts by their kind and their octets. This orders all lists of parts
(`isOrder_partsLe`). Joining a name to a path puts one part behind its parts (`parts_join`), so paths that go on from
one path by names (`along`) stand in the order of these names, compared name by name and each name octet by octet
(`le_along_iff`).
-/

namespace ComponentCompiler.Path

/-! ## Orders -/

/-- any two can be compared, and only equals are below each other -/
structure IsOrder {α : Type} (le : α → α → Bool) : Prop where
  total : ∀ a b, le a b = true ∨ le b a = true
  trans : ∀ a b c, le a b = true → le b c = true → le a c = true
  antisymm : ∀ a b, le a b = true → le b a = true → a = b

theorem octetsLe_cons {a b : UInt8} {as bs : List UInt8} :
    octetsLe (a :: as) (b :: bs) = true ↔ a < b ∨ a = b ∧ octetsLe as bs = true := by
  simp [octetsLe]

theorem isOrder_octetsLe : IsOrder octetsLe where
  total := fun a b => by
    induction a generalizing b with
    | nil => exact Or.inl rfl
    | cons x a ih =>
      cases b with
      | nil => exact Or.inr rfl
      | cons y b =>
        simp only [octetsLe_cons]
        grind
  trans := fun a b c h h' => by
    induction a generalizing b c with
    | nil => rfl
    | cons x a ih =>
      cases b with
      | nil => cases h
      | cons y b =>
        cases c with
        | nil => cases h'
        | cons z c =>
          rw [octetsLe_cons] at h h' ⊢
          grind
  antisymm := fun a b h h' => by
    induction a generalizing b with
    | nil =>
      cases b with
      | nil => rfl
      | cons y b => cases h'
    | cons x a ih =>
      cases b with
      | nil => cases h
      | cons y b =>
        rw [octetsLe_cons] at h h'
        grind

theorem octetsLe_iff {a b : List UInt8} : octetsLe a b = true ↔ a = b ∨ List.Lex (· < ·) a b := by
  induction a generalizing b with
  | nil => cases b <;> simp [octetsLe]
  | cons x a ih =>
    cases b with
    | nil => simp [octetsLe]
    | cons y b =>
      rw [octetsLe_cons, ih, List.cons_lex_cons_iff, List.cons.injEq]
      tauto

/-- the kind and the octets make the part -/
theorem Part.eq_of_rank {a b : Part} (hrank : a.rank = b.rank) (hname : a.nameOctets = b.nameOctets) : a = b := by
  cases a <;> cases b <;> simp_all [rank, nameOctets]

theorem Part.le_iff {a b : Part} :
    a.le b = true ↔ a.rank < b.rank ∨ a.rank = b.rank ∧ octetsLe a.nameOctets b.nameOctets = true := by
  simp [Part.le]

theorem Part.isOrder_le : IsOrder Part.le where
  total := fun a b => by
    have htotal := isOrder_octetsLe.total a.nameOctets b.nameOctets
    simp only [le_iff]
    grind
  trans := fun a b c h h' => by
    rw [le_iff] at h h' ⊢
    have htrans := isOrder_octetsLe.trans a.nameOctets b.nameOctets c.nameOctets
    grind
  antisymm := fun a b h h' => by
    rw [le_iff] at h h'
    have hrank : a.rank = b.rank := by omega
    exact Part.eq_of_rank hrank (isOrder_octetsLe.antisymm _ _ (by grind) (by grind))

theorem partsLe_cons {a b : Part} {as bs : List Part} :
    partsLe (a :: as) (b :: bs) = true ↔ a = b ∧ partsLe as bs = true ∨ a ≠ b ∧ a.le b = true := by
  rw [partsLe]
  split_ifs with h <;> simp [h]

theorem isOrder_partsLe : IsOrder partsLe where
  total := fun a b => by
    induction a generalizing b with
    | nil => exact Or.inl rfl
    | cons x a ih =>
      cases b with
      | nil => exact Or.inr rfl
      | cons y b =>
        have htotal := Part.isOrder_le.total x y
        simp only [partsLe_cons]
        grind
  trans := fun a b c h h' => by
    induction a generalizing b c with
    | nil => rfl
    | cons x a ih =>
      cases b with
      | nil => cases h
      | cons y b =>
        cases c with
        | nil => cases h'
        | cons z c =>
          have htrans := Part.isOrder_le.trans x y z
          have hanti := Part.isOrder_le.antisymm x y
          rw [partsLe_cons] at h h' ⊢
          grind
  antisymm := fun a b h h' => by
    induction a generalizing b with
    | nil =>
      cases b with
      | nil => rfl
      | cons y b => cases h'
    | cons x a ih =>
      cases b with
      | nil => cases h
      | cons y b =>
        have hanti := Part.isOrder_le.antisymm x y
        rw [partsLe_cons] at h h'
        grind

theorem le_total (p q : Path) : (p.le q || q.le p) = true :=
  Bool.or_eq_true _ _ ▸ isOrder_partsLe.total p.parts q.parts

theorem le_trans (p q r : Path) (h : p.le q = true) (h' : q.le r = true) : p.le r = true :=
  isOrder_partsLe.trans _ _ _ h h'

theorem partsLe_append (front a b : List Part) : partsLe (front ++ a) (front ++ b) = partsLe a b := by
  induction front with
  | nil => rfl
  | cons part front ih => simpa [partsLe] using ih

/-- names are compared one by one, and each by its octets -/
theorem partsLe_entries {a b : List Name} :
    partsLe (a.map .entry) (b.map .entry) = true ↔ a = b ∨ List.Lex (List.Lex (· < ·)) a b := by
  induction a generalizing b with
  | nil => cases b <;> simp [partsLe]
  | cons x a ih =>
    cases b with
    | nil => simp [partsLe]
    | cons y b =>
      have hle : (Part.entry x).le (.entry y) = true ↔ x = y ∨ List.Lex (· < ·) x y := by
        simp [Part.le_iff, Part.rank, Part.nameOctets, octetsLe_iff]
      have hirrefl : ¬ List.Lex (· < ·) x x := fun h => Std.Asymm.asymm _ _ h h
      rw [List.map_cons, List.map_cons, partsLe_cons, ih, hle, List.cons_lex_cons_iff, Part.entry.injEq,
        List.cons.injEq]
      by_cases hxy : x = y
      · subst hxy
        simp [hirrefl]
      · simp [hxy]

/-! ## Paths that go on by names -/

theorem parts_of_pieces {p : Path} {first : Name} {rest : List Name} (hp : pieces p.octets = first :: rest) :
    p.parts = (if first = [] then (if rest = [] then [] else [.root]) else if first = dot then [.here]
      else (partOf? first).toList) ++ rest.filterMap partOf? := by
  simp [parts, hp]

/-- a name that is joined to a path is one more part -/
theorem parts_join {p : Path} {name : Name} (hp : p.octets ≠ []) (h : IsOrdinary name) :
    (p.join ⟨name⟩).parts = p.parts ++ [.entry name] := by
  have hname : partOf? name = some (.entry name) := by
    simp [partOf?, h.nonempty, h.notDot, h.notUp]
  by_cases hlast : p.octets.getLast? = some slash
  · -- the slash at the end makes an empty piece, which the name takes the place of
    obtain ⟨octets, hoctets⟩ := List.getLast?_eq_some_iff.1 hlast
    obtain ⟨first, rest, hpieces⟩ := List.exists_cons_of_ne_nil (pieces_ne_nil octets)
    have hpath : pieces p.octets = first :: (rest ++ [[]]) := by
      rw [hoctets, pieces_append_slash, hpieces]
      rfl
    have hjoin : pieces (p.join ⟨name⟩).octets = first :: (rest ++ [name]) := by
      have hadd : (p.join ⟨name⟩).octets = octets ++ slash :: name := by
        simp [join, h.not_absolute, hoctets]
      rw [hadd, pieces_append_slash, pieces_of_not_mem h.plain, hpieces]
      rfl
    have hempty : partOf? [] = none := rfl
    rw [parts_of_pieces hpath, parts_of_pieces hjoin]
    simp [hname, hempty]
  · obtain ⟨first, rest, hpieces⟩ := List.exists_cons_of_ne_nil (pieces_ne_nil p.octets)
    have hjoin : pieces (p.join ⟨name⟩).octets = first :: (rest ++ [name]) := by
      rw [pieces_join ⟨hp, hlast⟩ h.toIsName, hpieces]
      rfl
    have hrest : first = [] → rest ≠ [] := by
      rintro rfl rfl
      have hglue := glue_pieces p.octets
      rw [hpieces] at hglue
      exact hp hglue.symm
    rw [parts_of_pieces hpieces, parts_of_pieces hjoin]
    by_cases hfirst : first = []
    · simp [hfirst, hrest hfirst, hname]
    · simp [hfirst, hname]

/-- the path that leads on from a path by names -/
def along (p : Path) (names : List Name) : Path :=
  names.foldl (fun q name => q.join ⟨name⟩) p

theorem along_concat (p : Path) (names : List Name) (name : Name) :
    p.along (names ++ [name]) = (p.along names).join ⟨name⟩ := by
  simp [along]

theorem octets_along_ne_nil {p : Path} (hp : p.octets ≠ []) (names : List Name) : (p.along names).octets ≠ [] := by
  induction names using List.reverseRecOn with
  | nil => exact hp
  | append_singleton names name ih =>
    rw [along_concat]
    exact octets_join_ne_nil ih _

theorem parts_along {p : Path} {names : List Name} (hp : p.octets ≠ []) (h : ∀ name ∈ names, IsOrdinary name) :
    (p.along names).parts = p.parts ++ names.map .entry := by
  induction names using List.reverseRecOn with
  | nil => simp [along]
  | append_singleton names name ih =>
    have hnames := ih fun other hother => h other (List.mem_append_left _ hother)
    rw [along_concat, parts_join (octets_along_ne_nil hp names) (h name (by simp)), hnames]
    simp

/-- every name makes a path longer -/
theorem length_along_le {p : Path} {names : List Name} (h : ∀ name ∈ names, IsName name) :
    names.length ≤ (p.along names).octets.length := by
  induction names using List.reverseRecOn with
  | nil => exact Nat.zero_le _
  | append_singleton names name ih =>
    have hnames := ih fun other hother => h other (List.mem_append_left _ hother)
    have hname := h name (by simp)
    have hpos := List.length_pos_iff.2 hname.nonempty
    rw [along_concat, join, if_neg (by simp [hname.not_absolute])]
    split_ifs <;> simp only [List.length_append, List.length_cons, List.length_nil] <;> omega

section Along

variable {p : Path} {a b : List Name} (hp : p.octets ≠ []) (ha : ∀ name ∈ a, IsOrdinary name)
  (hb : ∀ name ∈ b, IsOrdinary name)

include hp ha hb

theorem along_inj (h : p.along a = p.along b) : a = b := by
  have hparts : p.parts ++ a.map Part.entry = p.parts ++ b.map Part.entry := by
    rw [← parts_along hp ha, ← parts_along hp hb, h]
  exact List.map_injective_iff.2 (fun _ _ => Part.entry.inj) (List.append_cancel_left hparts)

/-- paths that go on by names stand in the order of the names -/
theorem le_along_iff : (p.along a).le (p.along b) = true ↔ a = b ∨ List.Lex (List.Lex (· < ·)) a b := by
  rw [le, parts_along hp ha, parts_along hp hb, partsLe_append, partsLe_entries]

theorem lex_of_le_along (h : (p.along a).le (p.along b) = true) (hne : p.along a ≠ p.along b) :
    List.Lex (List.Lex (· < ·)) a b :=
  ((le_along_iff hp ha hb).1 h).resolve_left fun heq => hne (congrArg p.along heq)

theorem le_along_eq_false (h : List.Lex (List.Lex (· < ·)) a b) : (p.along b).le (p.along a) = false := by
  rw [← Bool.not_eq_true, le_along_iff hp hb ha]
  rintro (rfl | hback)
  · exact Std.Asymm.asymm _ _ h h
  · exact Std.Asymm.asymm _ _ h hback

end Along

end ComponentCompiler.Path
