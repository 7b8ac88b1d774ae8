import Mathlib.Data.List.Nodup
import ComponentCompiler.Proofs.Disk.Reach

/-!
Directories and files on a disk that may have links.

- `IsProper`: every place has one entry, so the entries that a directory lists are those that stand in it
  (`IsProper.mem_children_iff`), each under a name of its own.
- `Opens`: a path leads to a directory, behind links or not.
- `not_isIdle_of_isFile`: a path to a file does not end in a slash or a dot, whatever links it goes through.
-/

namespace ComponentCompiler

open ComponentCompiler.Path

namespace Disk

/-! ## Entries of a directory -/

/-- every place has one entry, and its names are names that entries can have -/
structure IsProper (d : Disk) : Prop where
  once : (d.entries.map Prod.fst).Nodup
  ordinary : ∀ pair ∈ d.entries, ∀ name ∈ pair.1, IsOrdinary name

theorem mem_entries_of_some {d : Disk} {place : Place} {entry : Entry} (hne : place ≠ [])
    (h : d.entry? place = some entry) : (place, entry) ∈ d.entries := by
  unfold entry? at h
  rw [if_neg (by simpa using hne)] at h
  obtain ⟨⟨other, found⟩, hfind, rfl⟩ := Option.map_eq_some_iff.1 h
  obtain rfl : other = place := by simpa using List.find?_some hfind
  exact List.mem_of_find?_eq_some hfind

theorem IsProper.entry?_of_mem {d : Disk} (h : d.IsProper) {place : Place} {entry : Entry} (hne : place ≠ [])
    (hmem : (place, entry) ∈ d.entries) : d.entry? place = some entry := by
  have hsome : (d.entries.find? (·.1 == place)).isSome := by
    rw [List.find?_isSome]
    exact ⟨_, hmem, beq_self_eq_true place⟩
  obtain ⟨pair, hfind⟩ := Option.isSome_iff_exists.1 hsome
  have hpair : pair = (place, entry) :=
    List.inj_on_of_nodup_map h.once (List.mem_of_find?_eq_some hfind) hmem (by simpa using List.find?_some hfind)
  unfold entry?
  rw [if_neg (by simpa using hne), hfind, hpair]
  rfl

/-- what an entry of the disk is in a directory -/
def child? (place : Place) (pair : Place × Entry) : Option (Name × Entry) :=
  pair.1.getLast?.bind fun name => if pair.1.dropLast = place then some (name, pair.2) else none

theorem children_eq (d : Disk) (place : Place) : d.children place = d.entries.filterMap (child? place) := by
  unfold children child?
  congr 1
  funext pair
  cases hlast : pair.1.getLast? <;> simp [hlast]

theorem child?_eq_some_iff {place : Place} {pair : Place × Entry} {name : Name} {entry : Entry} :
    child? place pair = some (name, entry) ↔ pair = (place ++ [name], entry) := by
  obtain ⟨other, found⟩ := pair
  rcases List.eq_nil_or_concat other with rfl | ⟨front, last, rfl⟩
  · simp [child?]
  · rw [List.concat_eq_append]
    by_cases hfront : front = place <;> simp [child?, hfront]

theorem IsProper.mem_children_iff {d : Disk} (h : d.IsProper) {place : Place} {name : Name} {entry : Entry} :
    (name, entry) ∈ d.children place ↔ d.entry? (place ++ [name]) = some entry := by
  rw [children_eq, List.mem_filterMap]
  simp only [child?_eq_some_iff, exists_eq_right]
  exact ⟨h.entry?_of_mem (by simp), mem_entries_of_some (by simp)⟩

theorem IsProper.isOrdinary {d : Disk} (h : d.IsProper) {place : Place} {name : Name} {entry : Entry}
    (hentry : d.entry? (place ++ [name]) = some entry) : IsOrdinary name :=
  h.ordinary _ (mem_entries_of_some (by simp) hentry) name (by simp)

/-- no two entries of a directory have the same name -/
theorem IsProper.pairwise_children {d : Disk} (h : d.IsProper) (place : Place) :
    (d.children place).Pairwise fun a b => a.1 ≠ b.1 := by
  have hentries : d.entries.Pairwise fun a b => a.1 ≠ b.1 := List.pairwise_map.1 h.once
  rw [children_eq]
  refine List.pairwise_filterMap.2 (hentries.imp ?_)
  rintro a b hne ⟨name, entry⟩ ha ⟨name', entry'⟩ hb heq
  rw [child?_eq_some_iff.1 ha, child?_eq_some_iff.1 hb] at hne
  exact hne (congrArg (fun last => place ++ [last]) heq)

/-- a path leads to the directory at a place -/
def Opens (d : Disk) (p : Path) (place : Place) : Prop :=
  d.placeOf p = .ok place ∧ d.entry? place = some .directory

theorem Opens.unique {d : Disk} {p : Path} {place place' : Place} (h : d.Opens p place) (h' : d.Opens p place') :
    place = place' :=
  Except.ok.inj (h.1.symm.trans h'.1)

theorem Opens.isFile {d : Disk} {p : Path} {place : Place} (h : d.Opens p place) : d.isFile p = false := by
  simp [Disk.isFile, lookup, h.1, h.2]

theorem exists_place_of_isFile {d : Disk} {p : Path} (h : d.isFile p = true) :
    ∃ place content, d.placeOf p = .ok place ∧ d.entry? place = some (.file content) := by
  unfold isFile at h
  split at h
  · next content hlookup =>
    obtain ⟨place, hplace, hentry⟩ := lookup_eq_ok hlookup
    exact ⟨place, content, hplace, hentry⟩
  · cases h

theorem opens_of_isDirectory {d : Disk} {p : Path} (h : d.isDirectory p = true) : ∃ place, d.Opens p place := by
  unfold isDirectory at h
  split at h
  · next hlookup => exact lookup_eq_ok hlookup
  · cases h

theorem checkPath_of_placeOf {d : Disk} {p : Path} {place : Place} (h : d.placeOf p = .ok place) :
    checkPath p = .ok () := by
  rw [placeOf_eq, locate] at h
  obtain ⟨_, h, -⟩ := except_bind_eq_ok.1 h
  obtain ⟨_, h, -⟩ := except_bind_eq_ok.1 h
  exact h

theorem checkPath_eq_ok_iff {p : Path} :
    checkPath p = .ok () ↔ 0 ∉ p.octets ∧ p.octets.length ≤ maxPath ∧ p.octets ≠ [] := by
  unfold checkPath
  simp only [List.contains_iff_mem, List.isEmpty_iff]
  split_ifs with hzero hlong hempty
  · simp [hzero]
  · simp [Nat.not_le.2 hlong]
  · simp [hempty]
  · simp [hzero, hempty, Nat.not_lt.1 hlong]

theorem Opens.octets_ne_nil {d : Disk} {p : Path} {place : Place} (h : d.Opens p place) : p.octets ≠ [] :=
  (checkPath_eq_ok_iff.1 (checkPath_of_placeOf h.1)).2.2

/-! ## A lookup that ends in a slash or a dot -/

section Idle

variable {d : Disk} {purpose : Purpose} {last : Name} (hidle : isIdle last = true)

include hidle

theorem entry?_of_walk_idle {onLink : Place → List Name → Except Fault Spot}
    (honLink : ∀ place names q, onLink place (names ++ [last]) = .ok (.taken q) → d.entry? q = some .directory)
    {place q : Place} {names : List Name} (h : d.walk purpose onLink place (names ++ [last]) = .ok (.taken q)) :
    d.entry? q = some .directory := by
  have hmark : (last == [] || last == dot) = true := by
    simpa using isIdle_iff.1 hidle
  induction names generalizing place with
  | nil =>
    simp only [List.nil_append, walk, hmark, if_true] at h
    split_ifs at h with hdirectory
    rw [← Spot.taken.inj (Except.ok.inj h)]
    simpa using hdirectory
  | cons piece rest ih =>
    rw [List.cons_append, walk] at h
    split at h
    · cases h
    split at h
    · exact ih h
    split at h
    · exact ih h
    split at h
    · cases h
    split at h
    · cases h
    split at h
    · rw [← List.append_assoc] at h
      exact honLink _ _ q h
    · exact ih h
    · split at h <;> cases h

theorem entry?_of_follow_idle {links : Nat} {place q : Place} {names : List Name}
    (h : d.follow purpose links place (names ++ [last]) = .ok (.taken q)) : d.entry? q = some .directory := by
  induction links generalizing place q names with
  | zero => exact entry?_of_walk_idle hidle (fun _ _ _ hlink => by cases hlink) h
  | succ links ih => exact entry?_of_walk_idle hidle (fun _ _ _ hlink => ih hlink) h

end Idle

/-- a path to a file does not end in a slash or a dot -/
theorem not_isIdle_of_isFile {d : Disk} {p : Path} {front : List Name} {last : Name} (h : d.isFile p = true)
    (hp : pieces p.octets = front ++ [last]) : isIdle last = false := by
  obtain ⟨place, content, hplace, hfile⟩ := exists_place_of_isFile h
  rw [placeOf_eq, locate, hp] at hplace
  obtain ⟨spot, hspot, hfound⟩ := except_bind_eq_ok.1 hplace
  obtain ⟨_, -, hfollow⟩ := except_bind_eq_ok.1 hspot
  rw [← Bool.not_eq_true]
  intro hidle
  cases spot with
  | vacant other slashed => cases hfound
  | taken other =>
    have hdirectory := entry?_of_follow_idle hidle hfollow
    obtain rfl := Except.ok.inj hfound
    rw [hfile] at hdirectory
    cases hdirectory

end Disk

end ComponentCompiler
