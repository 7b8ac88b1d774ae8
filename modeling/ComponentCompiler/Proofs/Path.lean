import Mathlib.Data.List.DropRight
import Mathlib.Data.List.Infix
import ComponentCompiler.Path
import ComponentCompiler.Proofs.Text

/-!
Paths taken apart and put together again.

- `pieces_append_slash`, `glue_pieces`, `pieces_glue`: the pieces of a path and the path determine each other.
- `trail`: the pieces of a path that lead somewhere. The path above a path has the same trail without its last piece
  (`isAbove_of_parent?`); it is shorter, so the ancestors of a path end (`chain_eq_chain`).
- `Tidy`: the last piece of a path leads somewhere. The path above any path is tidy.
-/

namespace ComponentCompiler.Path

open Text

/-! ## Pieces -/

theorem pieces_ne_nil (octets : List UInt8) : pieces octets ≠ [] := by
  cases octets with
  | nil => simp [pieces]
  | cons octet rest =>
    unfold pieces
    split_ifs
    · simp
    · split <;> simp

theorem pieces_append_slash (a b : List UInt8) : pieces (a ++ slash :: b) = pieces a ++ pieces b := by
  induction a with
  | nil => simp [pieces]
  | cons octet a ih =>
    rw [List.cons_append, pieces, ih, pieces]
    split_ifs
    · rfl
    · cases h : pieces a with
      | nil => exact absurd h (pieces_ne_nil a)
      | cons piece more => simp

theorem pieces_of_not_mem {a : List UInt8} (h : slash ∉ a) : pieces a = [a] := by
  induction a with
  | nil => rfl
  | cons octet a ih =>
    simp only [List.mem_cons, not_or] at h
    have hne : (octet == slash) = false := beq_eq_false_iff_ne.2 (Ne.symm h.1)
    simp [pieces, ih h.2, hne]

theorem slash_not_mem_of_mem_pieces {octets : List UInt8} {piece : Name} (h : piece ∈ pieces octets) :
    slash ∉ piece := by
  induction octets generalizing piece with
  | nil => simp_all [pieces]
  | cons octet rest ih =>
    unfold pieces at h
    split_ifs at h with hslash
    · rcases List.mem_cons.1 h with rfl | h
      · simp
      · exact ih h
    · have hne : slash ≠ octet := fun he => hslash (by simp [he])
      split at h
      · next first more hfirst =>
        rcases List.mem_cons.1 h with rfl | h
        · simp [hne, ih (hfirst ▸ List.mem_cons_self)]
        · exact ih (hfirst ▸ List.mem_cons_of_mem _ h)
      · rw [List.mem_singleton.1 h]
        simp [hne]

/-- pieces with slashes between them -/
def glue : List Name → List UInt8
  | [] => []
  | first :: rest => first ++ rest.flatMap (slash :: ·)

theorem glue_cons_cons (first next : Name) (rest : List Name) :
    glue (first :: next :: rest) = first ++ slash :: glue (next :: rest) := by
  simp [glue]

theorem glue_pieces (octets : List UInt8) : glue (pieces octets) = octets := by
  induction octets with
  | nil => rfl
  | cons octet rest ih =>
    obtain ⟨piece, more, hp⟩ : ∃ piece more, pieces rest = piece :: more := by
      cases h : pieces rest with
      | nil => exact absurd h (pieces_ne_nil rest)
      | cons piece more => exact ⟨piece, more, rfl⟩
    rw [hp] at ih
    unfold pieces
    split_ifs with hslash
    · rw [hp, glue_cons_cons, ih, beq_iff_eq.1 hslash]
      rfl
    · rw [hp]
      simp only [glue, List.cons_append]
      rw [← glue, ih]

theorem pieces_glue {names : List Name} (hne : names ≠ []) (h : ∀ piece ∈ names, slash ∉ piece) :
    pieces (glue names) = names := by
  induction names with
  | nil => exact absurd rfl hne
  | cons first rest ih =>
    have hfirst := pieces_of_not_mem (h first List.mem_cons_self)
    cases rest with
    | nil => simpa [glue] using hfirst
    | cons next rest =>
      have hrest := ih (by simp) fun piece hp => h piece (List.mem_cons_of_mem _ hp)
      rw [glue_cons_cons, pieces_append_slash, hfirst, hrest]
      rfl

/-! ## Joining a name -/

/-- a name that can stand between two slashes -/
structure IsName (name : Name) : Prop where
  plain : slash ∉ name
  nonempty : name ≠ []

theorem IsName.not_absolute {name : Name} (h : IsName name) : isAbsolute ⟨name⟩ = false := by
  rw [isAbsolute, beq_eq_false_iff_ne]
  exact fun hhead => h.plain (List.mem_of_head? hhead)

/-- the last piece of a joined path is the name, and the others are pieces of the path before it -/
theorem exists_pieces_join (p : Path) {name : Name} (h : IsName name) :
    ∃ front, front ⊆ pieces p.octets ∧ pieces (p.join ⟨name⟩).octets = front ++ [name] := by
  have hname := pieces_of_not_mem h.plain
  obtain ⟨octets⟩ := p
  simp only [join, h.not_absolute, Bool.false_eq_true, if_false, Bool.or_eq_true, List.isEmpty_iff, beq_iff_eq]
  split_ifs with hend
  · rcases hend with rfl | hlast
    · exact ⟨[], List.nil_subset _, hname⟩
    · obtain ⟨front, rfl⟩ := List.getLast?_eq_some_iff.1 hlast
      refine ⟨pieces front, ?_, ?_⟩
      · rw [pieces_append_slash]
        exact List.subset_append_left _ _
      · simp only [List.append_assoc, List.singleton_append]
        rw [pieces_append_slash, hname]
  · exact ⟨pieces octets, List.Subset.refl _, by simp [pieces_append_slash, hname]⟩

/-- the path ends in a character of a name -/
def EndsInName (p : Path) : Prop :=
  p.octets ≠ [] ∧ p.octets.getLast? ≠ some slash

theorem endsInName_join (p : Path) {name : Name} (h : IsName name) : EndsInName (p.join ⟨name⟩) := by
  have hlast : name.getLast? ≠ some slash := fun hl => h.plain (List.mem_of_getLast? hl)
  simp only [EndsInName, join, h.not_absolute, Bool.false_eq_true, if_false]
  split_ifs
  · exact ⟨by simp [h.nonempty], by simpa [List.getLast?_append_of_ne_nil _ h.nonempty] using hlast⟩
  · refine ⟨by simp, ?_⟩
    rw [List.getLast?_append_of_ne_nil _ (by simp), List.getLast?_cons_of_ne_nil h.nonempty]
    exact hlast

theorem octets_join {p : Path} {name : Name} (hp : EndsInName p) (h : IsName name) :
    (p.join ⟨name⟩).octets = p.octets ++ slash :: name := by
  simp [join, h.not_absolute, hp.1, hp.2]

theorem octets_join_ne_nil {p : Path} (hp : p.octets ≠ []) (q : Path) : (p.join q).octets ≠ [] := by
  unfold join
  split_ifs with habsolute
  · intro hnil
    simp [isAbsolute, hnil] at habsolute
  · simp [hp]
  · simp

theorem slash_mem_join {p : Path} (hp : p.octets ≠ []) (q : Path) : slash ∈ (p.join q).octets := by
  unfold join
  split_ifs with habsolute hend
  · exact List.mem_of_head? (beq_iff_eq.1 habsolute)
  · have hlast : p.octets.getLast? = some slash := by simpa [hp] using hend
    exact List.mem_append_left _ (List.mem_of_getLast? hlast)
  · simp

/-- a name that is joined to a path that ends in a name is one more piece -/
theorem pieces_join {p : Path} {name : Name} (hp : EndsInName p) (h : IsName name) :
    pieces (p.join ⟨name⟩).octets = pieces p.octets ++ [name] := by
  rw [octets_join hp h, pieces_append_slash, pieces_of_not_mem h.plain]

theorem isAbsolute_join {p : Path} {name : Name} (hp : p.octets ≠ []) (h : IsName name) :
    (p.join ⟨name⟩).isAbsolute = p.isAbsolute := by
  simp only [join, h.not_absolute, Bool.false_eq_true, if_false]
  split_ifs <;> rw [isAbsolute, List.head?_append_of_ne_nil _ hp, isAbsolute]

/-! ## Extensions -/

def dotOctet : UInt8 := 0x2E

theorem extensionOf?_append {stem ending : Name} (h : dotOctet ∉ ending) :
    extensionOf? (stem ++ dotOctet :: ending) = if stem = [] then none else some ending := by
  have hending := reverse_takeWhile_append stem h
  have hstem : (stem ++ dotOctet :: ending).take ((stem ++ dotOctet :: ending).length - ending.length - 1) = stem := by
    have hlength : (stem ++ dotOctet :: ending).length - ending.length - 1 = stem.length := by simp; omega
    rw [hlength, List.take_left]
  have hmem : (stem ++ dotOctet :: ending).contains dotOctet = true := by simp
  unfold dotOctet at hending hstem hmem ⊢
  simp only [extensionOf?, hending, hstem, hmem, Bool.true_and]
  cases stem <;> simp

theorem extensionOf?_eq_some_iff {name ending : Name} :
    extensionOf? name = some ending ↔ ∃ stem, stem ≠ [] ∧ dotOctet ∉ ending ∧ name = stem ++ dotOctet :: ending := by
  constructor
  · intro h
    by_cases hdot : dotOctet ∈ name
    · obtain ⟨stem, last, rfl, hlast⟩ := exists_last_of_mem hdot
      rw [extensionOf?_append hlast] at h
      split_ifs at h with hstem
      obtain rfl := Option.some.inj h
      exact ⟨stem, hstem, hlast, rfl⟩
    · simp [extensionOf?, show (0x2E : UInt8) ∉ name from hdot] at h
  · rintro ⟨stem, hstem, hdot, rfl⟩
    rw [extensionOf?_append hdot, if_neg hstem]

/-! ## Trails -/

/-- whether a piece leads nowhere: an empty one or a single dot -/
def isIdle (piece : Name) : Bool :=
  (partOf? piece).isNone

theorem isIdle_iff {piece : Name} : isIdle piece ↔ piece = [] ∨ piece = dot := by
  unfold isIdle partOf?
  split_ifs with h h' <;> simp_all

theorem not_isIdle_iff {piece : Name} : isIdle piece = false ↔ piece ≠ [] ∧ piece ≠ dot := by
  rw [← Bool.not_eq_true, isIdle_iff, not_or]

/-- a name that an entry of a directory can have -/
structure IsOrdinary (name : Name) : Prop extends IsName name where
  notDot : name ≠ dot
  notUp : name ≠ dotDot

instance (name : Name) : Decidable (IsOrdinary name) :=
  decidable_of_iff (slash ∉ name ∧ name ≠ [] ∧ name ≠ dot ∧ name ≠ dotDot)
    ⟨fun ⟨hplain, hnonempty, hdot, hup⟩ => ⟨⟨hplain, hnonempty⟩, hdot, hup⟩,
      fun h => ⟨h.plain, h.nonempty, h.notDot, h.notUp⟩⟩

theorem IsOrdinary.not_isIdle {name : Name} (h : IsOrdinary name) : isIdle name = false :=
  not_isIdle_iff.2 ⟨h.nonempty, h.notDot⟩

/-- the pieces that lead somewhere -/
def leading (names : List Name) : List Name :=
  names.filter fun piece => !isIdle piece

@[simp]
theorem leading_append (a b : List Name) : leading (a ++ b) = leading a ++ leading b :=
  List.filter_append ..

theorem leading_singleton {name : Name} (h : isIdle name = false) : leading [name] = [name] := by
  simp [leading, h]

/-- a name that is joined to a path comes after what leads somewhere in the path -/
theorem exists_front_join {p : Path} {name : Name} (hp : p.octets ≠ []) (h : IsName name) :
    ∃ front, pieces (p.join ⟨name⟩).octets = front ++ [name] ∧ leading front = leading (pieces p.octets) := by
  by_cases hlast : p.octets.getLast? = some slash
  · -- the slash that is there already is the one between the two
    obtain ⟨octets, hoctets⟩ := List.getLast?_eq_some_iff.1 hlast
    refine ⟨pieces octets, ?_, ?_⟩
    · simp only [join, h.not_absolute, hlast, Bool.false_eq_true, if_false, beq_self_eq_true, Bool.or_true, if_true]
      rw [hoctets, List.append_assoc, List.singleton_append, pieces_append_slash, pieces_of_not_mem h.plain]
    · rw [hoctets, pieces_append_slash, leading_append]
      exact (List.append_nil _).symm
  · exact ⟨pieces p.octets, pieces_join ⟨hp, hlast⟩ h, rfl⟩

/-- the pieces of a path that lead somewhere -/
def trail (p : Path) : List Name :=
  leading (pieces p.octets)

/-- the last piece of a path leads somewhere, if any piece does -/
def Tidy (p : Path) : Prop :=
  p.trail = [] ∨ ∃ front last, pieces p.octets = front ++ [last] ∧ isIdle last = false

theorem dropIdle_eq_rdropWhile (names : List Name) : dropIdle names = names.rdropWhile isIdle :=
  rfl

theorem leading_dropIdle (names : List Name) : leading (dropIdle names) = leading names := by
  induction names using List.reverseRecOn with
  | nil => rfl
  | append_singleton names last ih =>
    rw [dropIdle_eq_rdropWhile, List.rdropWhile_concat]
    split_ifs with hlast
    · rw [← dropIdle_eq_rdropWhile, ih]
      simp [leading, hlast]
    · rfl

theorem dropIdle_prefix (names : List Name) : dropIdle names <+: names :=
  List.rdropWhile_prefix _ _

/-- what is left without the idle pieces at the end ends in a piece that leads somewhere -/
theorem dropIdle_eq_nil_or (names : List Name) :
    dropIdle names = [] ∨ ∃ front last, dropIdle names = front ++ [last] ∧ isIdle last = false := by
  rcases List.eq_nil_or_concat (dropIdle names) with hnil | ⟨front, last, hlast⟩
  · exact Or.inl hnil
  · rw [List.concat_eq_append] at hlast
    refine Or.inr ⟨front, last, hlast, ?_⟩
    have hne : names.rdropWhile isIdle ≠ [] := by simp [← dropIdle_eq_rdropWhile, hlast]
    simpa [← dropIdle_eq_rdropWhile, hlast] using List.rdropWhile_last_not isIdle names hne

theorem dropIdle_concat {names : List Name} {last : Name} (h : isIdle last = false) :
    dropIdle (names ++ [last]) = names ++ [last] := by
  rw [dropIdle_eq_rdropWhile, List.rdropWhile_concat, h]
  rfl

/-! ## The path above -/

theorem glue_mono (first : Name) {a b : List Name} (h : a <+: b) : glue (first :: a) <+: glue (first :: b) := by
  obtain ⟨rest, rfl⟩ := h
  exact ⟨rest.flatMap (slash :: ·), by simp [glue]⟩

theorem length_glue_lt (first : Name) {last : Name} {a b : List Name} (h : a ++ [last] <+: b) :
    (glue (first :: a)).length + last.length < (glue (first :: b)).length := by
  obtain ⟨rest, rfl⟩ := h
  simp only [glue, List.append_assoc, List.flatMap_append, List.flatMap_cons, List.length_append, List.length_cons]
  omega

theorem isAbsolute_glue {first : Name} {a : List Name} :
    isAbsolute ⟨glue (first :: a)⟩ = (if first = [] then !a.isEmpty else first.head? == some slash) := by
  cases first with
  | nil => cases a <;> simp [isAbsolute, glue]
  | cons octet first => simp [isAbsolute, glue]

/-- what the path above a path has in common with it -/
structure IsAbove (q p : Path) : Prop where
  octets : q.octets <+: p.octets
  shorter : q.octets.length < p.octets.length
  absolute : q.isAbsolute = p.isAbsolute
  trail : q.trail = p.trail.dropLast
  tidy : Tidy q

theorem parent?_of_idle {p : Path} {first : Name} {rest : List Name} (hp : pieces p.octets = first :: rest)
    (hrest : dropIdle rest = []) : p.parent? = if first = [] then none else some ⟨[]⟩ := by
  simp [parent?, hp, hrest]

theorem parent?_of_leading {p : Path} {first last : Name} {rest front : List Name}
    (hp : pieces p.octets = first :: rest) (hrest : dropIdle rest = front ++ [last]) :
    p.parent? =
      some (if first = [] ∧ dropIdle front = [] then ⟨[slash]⟩ else ⟨glue (first :: dropIdle front)⟩) := by
  obtain ⟨next, more, hmeant⟩ : ∃ next more, front ++ [last] = next :: more :=
    List.exists_cons_of_ne_nil (by simp)
  have hdrop : (next :: more).dropLast = front := by rw [← hmeant, List.dropLast_concat]
  simp only [parent?, hp, hrest, hmeant, hdrop, Bool.and_eq_true, beq_iff_eq, List.isEmpty_iff, glue]
  split_ifs <;> rfl

section Above

variable {p : Path} {first last : Name} {rest front : List Name}

theorem slash_not_mem_first (hp : pieces p.octets = first :: rest) : first.head? ≠ some slash := fun hhead =>
  slash_not_mem_of_mem_pieces (hp ▸ List.mem_cons_self) (List.mem_of_head? hhead)

theorem isAbsolute_of_pieces (hp : pieces p.octets = first :: rest) :
    p.isAbsolute = (if first = [] then !rest.isEmpty else false) := by
  have habsolute : p.isAbsolute = isAbsolute ⟨glue (first :: rest)⟩ := by rw [← hp, glue_pieces]
  rw [habsolute, isAbsolute_glue]
  split_ifs
  · rfl
  · exact beq_eq_false_iff_ne.2 (slash_not_mem_first hp)

theorem trail_of_pieces (hp : pieces p.octets = first :: rest) :
    p.trail = leading [first] ++ leading (dropIdle rest) := by
  rw [trail, hp, leading_dropIdle, ← leading_append]
  rfl

theorem trail_dropLast (hp : pieces p.octets = first :: rest) (hmeant : dropIdle rest = front ++ [last])
    (hlast : isIdle last = false) : p.trail.dropLast = leading (first :: dropIdle front) := by
  rw [trail_of_pieces hp, hmeant, leading_append, leading_singleton hlast, ← List.append_assoc, List.dropLast_concat,
    ← leading_dropIdle front, ← leading_append]
  rfl

theorem length_above_lt (hp : pieces p.octets = first :: rest) (hmeant : dropIdle rest = front ++ [last]) :
    (glue (first :: front)).length + last.length < p.octets.length := by
  have hlength := length_glue_lt first (hmeant ▸ dropIdle_prefix rest)
  rwa [← hp, glue_pieces] at hlength

/-- only the first piece can lead somewhere -/
theorem isAbove_empty (hp : pieces p.octets = first :: rest) (hidle : dropIdle rest = []) (hfirst : first ≠ []) :
    IsAbove ⟨[]⟩ p := by
  have hglue : glue (first :: rest) = p.octets := hp ▸ glue_pieces p.octets
  refine ⟨List.nil_prefix, ?_, ?_, ?_, Or.inl rfl⟩
  · have hpos := List.length_pos_iff.2 hfirst
    simp only [← hglue, glue, List.length_nil, List.length_append]
    omega
  · rw [isAbsolute_of_pieces hp, if_neg hfirst]
    rfl
  · have hone : (leading [first]).length ≤ 1 := List.length_filter_le ..
    rw [trail_of_pieces hp, hidle]
    refine (List.eq_nil_of_length_eq_zero ?_).symm
    simp only [leading, List.filter_nil, List.append_nil, List.length_dropLast] at hone ⊢
    omega

/-- only the last piece leads somewhere, and it is in the root -/
theorem isAbove_root (hp : pieces p.octets = [] :: rest) (hmeant : dropIdle rest = front ++ [last])
    (hlast : isIdle last = false) (htop : dropIdle front = []) : IsAbove ⟨[slash]⟩ p := by
  have hglue : glue ([] :: rest) = p.octets := hp ▸ glue_pieces p.octets
  have hrest : rest ≠ [] := by
    rintro rfl
    exact absurd hmeant (by simp [dropIdle])
  obtain ⟨next, more, rfl⟩ := List.exists_cons_of_ne_nil hrest
  refine ⟨⟨next ++ more.flatMap (slash :: ·), ?_⟩, ?_, ?_, ?_, Or.inl rfl⟩
  · simp [← hglue, glue]
  · have hlength := length_above_lt hp hmeant
    have hpos := List.length_pos_iff.2 (not_isIdle_iff.1 hlast).1
    simp only [List.length_singleton]
    omega
  · rw [isAbsolute_of_pieces hp]
    rfl
  · rw [trail_dropLast hp hmeant hlast, htop]
    rfl

/-- the pieces before the last one that leads somewhere -/
theorem isAbove_glue (hp : pieces p.octets = first :: rest) (hmeant : dropIdle rest = front ++ [last])
    (hlast : isIdle last = false) (htop : ¬ (first = [] ∧ dropIdle front = [])) :
    IsAbove ⟨glue (first :: dropIdle front)⟩ p := by
  have hinitial : front ++ [last] <+: rest := hmeant ▸ dropIdle_prefix rest
  have habove : dropIdle front <+: front := dropIdle_prefix front
  have hrest : dropIdle front <+: rest := habove.trans ((List.prefix_append _ _).trans hinitial)
  have hpieces : pieces (glue (first :: dropIdle front)) = first :: dropIdle front := by
    have hslash : ∀ piece ∈ pieces p.octets, slash ∉ piece := fun _ => slash_not_mem_of_mem_pieces
    rw [hp] at hslash
    exact pieces_glue (by simp) fun piece hpiece => hslash piece (List.cons_subset_cons first hrest.subset hpiece)
  refine ⟨?_, ?_, ?_, ?_, ?_⟩
  · have hmono := glue_mono first hrest
    rwa [← hp, glue_pieces] at hmono
  · have hlength := length_above_lt hp hmeant
    have hle := (glue_mono first habove).length_le
    simp only
    omega
  · rw [isAbsolute_of_pieces hp, isAbsolute_glue]
    split_ifs with hfirst
    · have hfront : dropIdle front ≠ [] := fun hnil => htop ⟨hfirst, hnil⟩
      have hmore : rest ≠ [] := fun hnil => by simp [hnil] at hinitial
      rw [List.isEmpty_eq_false_iff.2 hfront, List.isEmpty_eq_false_iff.2 hmore]
    · exact beq_eq_false_iff_ne.2 (slash_not_mem_first hp)
  · rw [trail_dropLast hp hmeant hlast, trail, hpieces]
  · rcases dropIdle_eq_nil_or front with hnil | ⟨before, name, hname, hidle⟩
    · cases hidle : isIdle first with
      | true => exact Or.inl (by rw [trail, hpieces, hnil]; simp [leading, hidle])
      | false => exact Or.inr ⟨[], first, by rw [hpieces, hnil]; rfl, hidle⟩
    · exact Or.inr ⟨first :: before, name, by rw [hpieces, hname]; rfl, hidle⟩

end Above

/-- the path above goes back by the last piece that leads somewhere, and is tidy -/
theorem isAbove_of_parent? {p q : Path} (h : p.parent? = some q) : IsAbove q p := by
  obtain ⟨first, rest, hp⟩ := List.exists_cons_of_ne_nil (pieces_ne_nil p.octets)
  rcases dropIdle_eq_nil_or rest with hnil | ⟨front, last, hmeant, hlast⟩
  · rw [parent?_of_idle hp hnil] at h
    split_ifs at h with hfirst
    obtain rfl := Option.some.inj h
    exact isAbove_empty hp hnil hfirst
  · rw [parent?_of_leading hp hmeant] at h
    obtain rfl := Option.some.inj h
    split_ifs with htop
    · obtain ⟨rfl, htop⟩ := htop
      exact isAbove_root hp hmeant hlast htop
    · exact isAbove_glue hp hmeant hlast htop

theorem trail_eq_nil_of_parent? {p : Path} (h : p.parent? = none) : p.trail = [] := by
  cases hp : pieces p.octets with
  | nil => exact absurd hp (pieces_ne_nil _)
  | cons first rest =>
    rcases dropIdle_eq_nil_or rest with hnil | ⟨front, last, hmeant, -⟩
    · rw [parent?_of_idle hp hnil] at h
      split_ifs at h with hfirst
      have hrest : leading rest = [] := by rw [← leading_dropIdle, hnil]; rfl
      rw [trail, hp, hfirst]
      exact hrest
    · rw [parent?_of_leading hp hmeant] at h
      cases h

/-- a tidy path is a way to its last name and that name -/
theorem Tidy.exists_front {p : Path} {names : List Name} {last : Name} (h : Tidy p)
    (htrail : p.trail = names ++ [last]) :
    ∃ front, pieces p.octets = front ++ [last] ∧ leading front = names ∧ isIdle last = false := by
  rcases h with hnil | ⟨front, name, hp, hidle⟩
  · simp [hnil] at htrail
  · rw [trail, hp, leading_append, leading_singleton hidle] at htrail
    obtain ⟨hfront, hname⟩ := List.append_inj' htrail rfl
    obtain rfl : name = last := by simpa using hname
    exact ⟨front, hp, hfront, hidle⟩

/-- the path above a joined path is the path that was joined to -/
theorem parent?_join {p : Path} {front : List Name} {last name : Name} (hend : EndsInName p)
    (hp : pieces p.octets = front ++ [last]) (hlast : isIdle last = false) (h : IsName name)
    (hname : isIdle name = false) :
    (p.join ⟨name⟩).parent? = some p := by
  have hjoin := pieces_join hend h
  have hglue := glue_pieces p.octets
  rw [hp] at hjoin hglue
  cases front with
  | nil =>
    have hrest : dropIdle [name] = [] ++ [name] := @dropIdle_concat [] _ hname
    rw [parent?_of_leading hjoin hrest, if_neg fun hnil => (not_isIdle_iff.1 hlast).1 hnil.1]
    exact congrArg (fun octets => some (Path.mk octets)) hglue
  | cons first rest =>
    have hrest : dropIdle (rest ++ [last] ++ [name]) = (rest ++ [last]) ++ [name] := dropIdle_concat hname
    rw [parent?_of_leading hjoin hrest, dropIdle_concat hlast, if_neg (by simp)]
    exact congrArg (fun octets => some (Path.mk octets)) hglue

/-! ## Ancestors -/

/-- a chain that has enough steps does not depend on how many -/
theorem chain_eq_chain {p : Path} {m n : Nat} (hm : p.octets.length < m) (hn : p.octets.length < n) :
    chain m p = chain n p := by
  induction m generalizing p n with
  | zero => omega
  | succ m ih =>
    cases n with
    | zero => omega
    | succ n =>
      rw [chain, chain]
      cases hparent : p.parent? with
      | none => rfl
      | some q =>
        have hshorter := (isAbove_of_parent? hparent).shorter
        have hchain : chain m q = chain n q := ih (by omega) (by omega)
        simp only [hchain]

theorem ancestors_of_parent? {p q : Path} (h : p.parent? = some q) : p.ancestors = p :: q.ancestors := by
  have hshorter := (isAbove_of_parent? h).shorter
  rw [ancestors, chain, h]
  simp only [ancestors]
  rw [chain_eq_chain hshorter (Nat.lt_succ_self _)]

end ComponentCompiler.Path
