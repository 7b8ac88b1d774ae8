import Mathlib.Data.List.Nodup

/-!
The last entry for each key.

A registry keeps, of the targets registered under one name, the last one; a component shows, of the steps of one kind,
the last one. Both are said here for any list of entries with a key: `latest? key k` is the last entry with the key `k`,
and `latest key` is the list without the entries whose key comes again.

- `latest_concat`: one entry more takes the place of the one with its key. - `find?_latest`: the first entry with a key
in what is left is the last one of the whole list. - `foldl_eq_of_latest?`: where a step undoes the step before it with
the same key and commutes with every other one, a run depends on nothing but the last step for each key;
`step_foldl_of_latest?`: and these have been done.
-/

namespace ComponentCompiler

variable {α κ : Type} [DecidableEq κ] (key : α → κ)

def latest? (k : κ) (entries : List α) : Option α :=
  (entries.filter fun e => key e = k).getLast?

/-- the entries whose key does not come again, in order -/
def latest : List α → List α
  | [] => []
  | e :: later => if key e ∈ later.map key then latest later else e :: latest later

variable {key}

/-! ## One key -/

theorem latest?_append (k : κ) (front back : List α) :
    latest? key k (front ++ back) = (latest? key k back).or (latest? key k front) := by
  rw [latest?, List.filter_append, List.getLast?_append]
  rfl

theorem latest?_singleton (k : κ) (e : α) : latest? key k [e] = if key e = k then some e else none := by
  by_cases h : key e = k
  · simp [latest?, h]
  · simp [latest?, h]

theorem latest?_eq_none_iff {k : κ} {entries : List α} : latest? key k entries = none ↔ k ∉ entries.map key := by
  simp [latest?]

theorem key_of_latest? {k : κ} {entries : List α} {e : α} (h : latest? key k entries = some e) : key e = k := by
  have hmem := List.mem_of_getLast? h
  simpa using (List.mem_filter.1 hmem).2

/-! ## All keys -/

theorem mem_map_latest_iff {k : κ} {entries : List α} : k ∈ (latest key entries).map key ↔ k ∈ entries.map key := by
  induction entries with
  | nil => rfl
  | cons e later ih =>
    rw [latest]
    split_ifs with hagain
    · rw [ih, List.map_cons, List.mem_cons]
      constructor
      · exact Or.inr
      · rintro (rfl | hlater)
        · exact hagain
        · exact hlater
    · rw [List.map_cons, List.map_cons, List.mem_cons, List.mem_cons, ih]

/-- no key comes twice -/
theorem nodup_map_latest (entries : List α) : ((latest key entries).map key).Nodup := by
  induction entries with
  | nil => exact List.nodup_nil
  | cons e later ih =>
    rw [latest]
    split_ifs with hagain
    · exact ih
    · rw [List.map_cons, List.nodup_cons, mem_map_latest_iff]
      exact ⟨hagain, ih⟩

/-- one more entry goes to the end, and the one with its key goes out -/
theorem latest_concat (entries : List α) (e : α) :
    latest key (entries ++ [e]) = (latest key entries).filter (fun other => key other ≠ key e) ++ [e] := by
  induction entries with
  | nil => rfl
  | cons first later ih =>
    have hcomes : key first ∈ (later ++ [e]).map key ↔ key first ∈ later.map key ∨ key first = key e := by simp
    rw [List.cons_append, latest, latest, ih]
    by_cases hagain : key first ∈ later.map key
    · rw [if_pos (hcomes.2 (Or.inl hagain)), if_pos hagain]
    · rw [if_neg hagain]
      by_cases hsame : key first = key e
      · rw [if_pos (hcomes.2 (Or.inr hsame)), List.filter_cons_of_neg (by simp [hsame])]
      · rw [if_neg (by simp [hagain, hsame]), List.filter_cons_of_pos (by simp [hsame]), List.cons_append]

/-- **The first one left is the last one of all.** -/
theorem find?_latest (k : κ) (entries : List α) :
    (latest key entries).find? (fun e => key e = k) = latest? key k entries := by
  induction entries with
  | nil => rfl
  | cons e later ih =>
    have hcons : latest? key k (e :: later) = (latest? key k later).or (if key e = k then some e else none) := by
      rw [← List.singleton_append, latest?_append, latest?_singleton]
    rw [hcons, latest, ← ih]
    split_ifs with hagain hk hk
    · -- the key comes again, so the search in what follows has an answer
      have hsome : latest? key k later ≠ none := by
        rw [Ne, latest?_eq_none_iff, not_not, ← hk]
        exact hagain
      obtain ⟨last, hlast⟩ := Option.ne_none_iff_exists'.1 hsome
      rw [ih, hlast, Option.some_or]
    · rw [Option.or_none]
    · have hnone : latest? key k later = none := by
        rw [latest?_eq_none_iff, ← hk]
        exact hagain
      rw [ih, hnone, Option.none_or, List.find?_cons_of_pos (by simpa using hk)]
    · rw [Option.or_none, List.find?_cons_of_neg (by simpa using hk)]

theorem mem_latest_iff {e : α} {entries : List α} : e ∈ latest key entries ↔ latest? key (key e) entries = some e := by
  rw [← find?_latest]
  constructor
  · intro h
    cases hfind : (latest key entries).find? fun other => key other = key e with
    | none => simpa using List.find?_eq_none.1 hfind e h
    | some other =>
      have hkey : key other = key e := by simpa using List.find?_some hfind
      rw [List.inj_on_of_nodup_map (nodup_map_latest entries) (List.mem_of_find?_eq_some hfind) h hkey]
  · exact List.mem_of_find?_eq_some

theorem latest_perm {entries entries' : List α} (h : ∀ k, latest? key k entries = latest? key k entries') :
    (latest key entries).Perm (latest key entries') := by
  rw [List.perm_ext_iff_of_nodup (nodup_map_latest entries).of_map (nodup_map_latest entries').of_map]
  intro e
  rw [mem_latest_iff, mem_latest_iff, h]

/-! ## Runs -/

section Runs

variable {σ : Type} {step : σ → α → σ}
  (hagain : ∀ s e e', key e = key e' → step (step s e) e' = step s e')
  (hother : ∀ s e e', key e ≠ key e' → step (step s e) e' = step (step s e') e)

include hagain hother

/-- a step whose key comes again might as well not be there -/
theorem foldl_step_of_mem {e : α} {later : List α} (h : key e ∈ later.map key) (s : σ) :
    later.foldl step (step s e) = later.foldl step s := by
  induction later generalizing s with
  | nil => cases h
  | cons next later ih =>
    rw [List.foldl_cons, List.foldl_cons]
    by_cases hkey : key e = key next
    · rw [hagain s e next hkey]
    · have hlater : key e ∈ later.map key := (List.mem_cons.1 h).resolve_left hkey
      rw [hother s e next hkey, ih hlater]

theorem foldl_latest (entries : List α) (s : σ) : (latest key entries).foldl step s = entries.foldl step s := by
  induction entries generalizing s with
  | nil => rfl
  | cons e later ih =>
    rw [latest, List.foldl_cons]
    split_ifs with hcomes
    · rw [ih, foldl_step_of_mem hagain hother hcomes]
    · rw [List.foldl_cons, ih]

/-- **Only the last step for each key counts,** and the order of these does not. -/
theorem foldl_eq_of_latest? {entries entries' : List α} (h : ∀ k, latest? key k entries = latest? key k entries')
    (s : σ) : entries.foldl step s = entries'.foldl step s := by
  have hcomm : ∀ e ∈ latest key entries, ∀ e' ∈ latest key entries, ∀ s,
      step (step s e) e' = step (step s e') e := by
    intro e he e' he' s
    by_cases hkey : key e = key e'
    · rw [List.inj_on_of_nodup_map (nodup_map_latest entries) he he' hkey]
    · exact hother s e e' hkey
  calc entries.foldl step s
      = (latest key entries).foldl step s := (foldl_latest hagain hother entries s).symm
    _ = (latest key entries').foldl step s := (latest_perm h).foldl_eq' hcomm s
    _ = entries'.foldl step s := foldl_latest hagain hother entries' s

/-- after a run, the last step for a key has nothing left to do -/
theorem step_foldl_of_latest? {entries : List α} {e : α} (h : latest? key (key e) entries = some e) (s : σ) :
    step (entries.foldl step s) e = entries.foldl step s := by
  have hsame : ∀ k, latest? key k (entries ++ [e]) = latest? key k entries := by
    intro k
    rw [latest?_append, latest?_singleton]
    split_ifs with hkey
    · rw [Option.some_or, ← hkey, h]
    · rw [Option.none_or]
  calc step (entries.foldl step s) e
      = (entries ++ [e]).foldl step s := by rw [List.foldl_append, List.foldl_cons, List.foldl_nil]
    _ = entries.foldl step s := foldl_eq_of_latest? hagain hother hsame s

end Runs

end ComponentCompiler
