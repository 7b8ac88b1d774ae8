import ComponentCompiler.Assembly
import ComponentCompiler.Proofs.Path

/-!
The identifiers of components.

A component gets its identifier from its source path; where the path gives none, or an empty one (a file name of dashes
only), it gets the fallback. `assemble_identifier` says that this depends on the path alone, and `isName_identifierFor`
that the identifier can stand between two slashes, whatever octets the path is made of.
-/

namespace ComponentCompiler

open Text

namespace Naming

theorem mem_dashPieces {text piece : List Char} {c : Char} (hp : piece ∈ dashPieces text) (hc : c ∈ piece) :
    c ∈ text := by
  induction text generalizing piece with
  | nil =>
    simp only [dashPieces, List.mem_singleton] at hp
    simp [hp] at hc
  | cons a rest ih =>
    unfold dashPieces at hp
    split_ifs at hp with ha
    · rcases List.mem_cons.1 hp with rfl | hp
      · simp at hc
      · exact List.mem_cons_of_mem _ (ih hp hc)
    · split at hp
      · next first more hfirst =>
        rcases List.mem_cons.1 hp with rfl | hp
        · rcases List.mem_cons.1 hc with rfl | hc
          · exact List.mem_cons_self
          · exact List.mem_cons_of_mem _ (ih (hfirst ▸ List.mem_cons_self) hc)
        · exact List.mem_cons_of_mem _ (ih (hfirst ▸ List.mem_cons_of_mem _ hp) hc)
      · rw [List.mem_singleton] at hp
        simp only [hp, List.mem_singleton] at hc
        exact hc ▸ List.mem_cons_self

/-- the characters of an identifier are those of the text, in the other case at most -/
theorem mem_pascalChars {text : List Char} {c : Char} (h : c ∈ pascalChars text) :
    ∃ a ∈ text, c = a.toUpper ∨ c = a.toLower := by
  obtain ⟨piece, hp, hc⟩ := List.mem_flatMap.1 h
  cases piece with
  | nil => simp [capitalize] at hc
  | cons first rest =>
    rcases List.mem_cons.1 hc with rfl | hc
    · exact ⟨first, mem_dashPieces hp List.mem_cons_self, Or.inl rfl⟩
    · obtain ⟨a, ha, rfl⟩ := List.mem_map.1 hc
      exact ⟨a, mem_dashPieces hp (List.mem_cons_of_mem _ ha), Or.inr rfl⟩

/-- no letter becomes a slash -/
theorem slash_not_mem_pascalChars {text : List Char} (h : '/' ∉ text) : '/' ∉ pascalChars text := by
  intro hmem
  obtain ⟨a, ha, hcase⟩ := mem_pascalChars hmem
  have hslash : a = '/' := by
    rcases hcase with hup | hlow
    · exact eq_of_toUpper_eq hup.symm (by decide)
    · exact eq_of_toLower_eq hlow.symm (by decide)
  exact h (hslash ▸ ha)

theorem slash_not_mem_segment {text segment : List Char} (h : segment? text = some segment) : '/' ∉ segment := by
  simp only [segment?] at h
  split_ifs at h with hend hseg
  rw [← Option.some.inj h, List.mem_reverse]
  intro hmem
  simpa using List.mem_takeWhile_imp hmem

theorem segment?_append (front : List Char) {segment : List Char} (hne : segment ≠ []) (h : '/' ∉ segment) :
    segment? (front ++ '/' :: segment ++ sourceEnding) = some segment := by
  have hsuffix : sourceEnding.isSuffixOf (front ++ '/' :: segment ++ sourceEnding) = true :=
    List.isSuffixOf_iff_suffix.2 (List.suffix_append _ _)
  have hstem : (front ++ '/' :: segment ++ sourceEnding).take
      ((front ++ '/' :: segment ++ sourceEnding).length - sourceEnding.length) = front ++ '/' :: segment := by
    rw [List.length_append, Nat.add_sub_cancel, List.take_left]
  have hmem : (front ++ '/' :: segment).contains '/' = true := by simp
  simp only [segment?, hsuffix, if_true, hstem, reverse_takeWhile_append front h, hmem, Bool.true_and]
  simp [hne]

theorem pascalChars_eq_nil_iff {text : List Char} : pascalChars text = [] ↔ ∀ c ∈ text, c = '-' := by
  induction text with
  | nil => simp [pascalChars, dashPieces, capitalize]
  | cons c rest ih =>
    by_cases hdash : c = '-'
    · have hpieces : pascalChars (c :: rest) = pascalChars rest := by simp [pascalChars, dashPieces, capitalize, hdash]
      rw [hpieces, ih]
      simp [hdash]
    · have hletter : pascalChars (c :: rest) ≠ [] := by
        cases hrest : dashPieces rest <;> simp [pascalChars, dashPieces, capitalize, hdash, hrest]
      simp [hletter, hdash]

/-- only dashes leave no identifier -/
theorem isEmpty_pascal (s : String) : (pascal s).isEmpty = s.toList.all (· == '-') := by
  rw [Bool.eq_iff_iff, String.isEmpty_iff, ← String.toList_inj, pascal, String.toList_ofList, List.all_eq_true]
  simp [pascalChars_eq_nil_iff]

theorem slash_not_mem_fallback : '/' ∉ fallback.toList := by
  simp [fallback]

theorem slash_not_mem_identifierOf (source : Path) : '/' ∉ (identifierOf source).toList := by
  unfold identifierOf
  split
  · next name hname =>
    rw [ofPath?, derive?, Option.map_eq_some_iff] at hname
    obtain ⟨segment, hseg, rfl⟩ := hname
    rw [String.toList_ofList]
    exact slash_not_mem_pascalChars (slash_not_mem_segment hseg)
  · exact slash_not_mem_fallback

end Naming

namespace Component

def identifierFor (source : Path) : String :=
  if (Naming.identifierOf source).isEmpty then Naming.fallback else Naming.identifierOf source

/-- the identifier of a component depends on its source path alone -/
theorem assemble_identifier (source : Path) (t : Compiled) (props : Option Props) :
    (assemble source t props).identifier = identifierFor source := by
  cases h : Naming.ofPath? source with
  | none => simp [assemble, build, stepsFor, set, ofMarkup, identifierFor, Naming.identifierOf, h, Naming.fallback]
  | some name => simp [assemble, build, stepsFor, set, identifierFor, Naming.identifierOf, h]

theorem identifierFor_of_name {source : Path} {name : ComponentName} (h : Naming.ofPath? source = some name) :
    identifierFor source = if name.identifier.isEmpty then Naming.fallback else name.identifier := by
  simp [identifierFor, Naming.identifierOf, h]

theorem identifierFor_ne_empty (source : Path) : identifierFor source ≠ "" := by
  unfold identifierFor
  split_ifs with h
  · decide
  · exact fun he => h (by simp [he])

theorem slash_not_mem_identifierFor (source : Path) : '/' ∉ (identifierFor source).toList := by
  unfold identifierFor
  split_ifs
  · exact Naming.slash_not_mem_fallback
  · exact Naming.slash_not_mem_identifierOf source

/-- an identifier can be the name of a directory, or a dot or two -/
theorem isName_identifierFor (source : Path) : Path.IsName (Utf8.encode (identifierFor source)) where
  plain := fun hmem => slash_not_mem_identifierFor source (Utf8.mem_encode hmem (by decide))
  nonempty := fun hnil => identifierFor_ne_empty source (Utf8.encode_injective hnil)

end Component

end ComponentCompiler
