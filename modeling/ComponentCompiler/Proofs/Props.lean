import ComponentCompiler.Build
import ComponentCompiler.Proofs.Json.Written
import Mathlib.Data.List.Induction

/-!
Declared props, from the written object to the declarations.

An object keeps one member for each name. `collect_keeps` says which: its place is where the name first appeared, its
value is the one that the name last had. Both come from what one more member does (`insertMember_names`,
`mem_insertMember_iff`), member by member. Only the members that are kept are looked at, and the first that is no string
is refused (`mapM_declOf_first`): a value that a later one replaced does no harm. `parseProps_of_writes` puts this
behind the reader.
-/

namespace ComponentCompiler

/-! ## The members that an object keeps -/

namespace Json

/-- one member for each name, at the place of its first and with the value of its last appearance -/
structure Keeps (members kept : List (String × Value)) : Prop where
  names : kept.map (·.1) = (members.map (·.1)).eraseDups
  values : ∀ name value, (name, value) ∈ kept ↔
    ∃ front back, members = front ++ (name, value) :: back ∧ ∀ later ∈ back, later.1 ≠ name

theorem insertMember_names (kept : List (String × Value)) (name : String) (value : Value) :
    (insertMember kept name value).map (·.1) =
      if name ∈ kept.map (·.1) then kept.map (·.1) else kept.map (·.1) ++ [name] := by
  have hany : kept.any (·.1 == name) = true ↔ name ∈ kept.map (·.1) := by simp [List.any_eq_true]
  by_cases hin : name ∈ kept.map (·.1)
  · rw [insertMember, if_pos (hany.2 hin), if_pos hin, List.map_map]
    apply List.map_congr_left
    intro m _
    by_cases hm : m.1 = name <;> simp [hm]
  · rw [insertMember, if_neg (fun h => hin (hany.1 h)), if_neg hin, List.map_append]
    rfl

/-- one step: the new member is there, and of the others those with another name -/
theorem mem_insertMember_iff {kept : List (String × Value)} {name name' : String} {value value' : Value} :
    (name', value') ∈ insertMember kept name value ↔
      (name' = name ∧ value' = value) ∨ (name' ≠ name ∧ (name', value') ∈ kept) := by
  by_cases hany : kept.any (·.1 == name) = true
  · obtain ⟨m, hm, hname⟩ := List.any_eq_true.1 hany
    rw [insertMember, if_pos hany, List.mem_map]
    constructor
    · rintro ⟨m', hm', heq⟩
      by_cases hsame : m'.1 = name
      · left
        simpa [hsame, eq_comm] using heq
      · right
        obtain rfl : m' = (name', value') := by simpa [hsame] using heq
        exact ⟨hsame, hm'⟩
    · rintro (⟨rfl, rfl⟩ | ⟨hother, hin⟩)
      · exact ⟨m, hm, if_pos hname⟩
      · exact ⟨(name', value'), hin, if_neg (by simpa using hother)⟩
  · have hnew : ∀ m ∈ kept, m.1 ≠ name := by
      intro m hm hname
      exact hany (List.any_eq_true.2 ⟨m, hm, by simp [hname]⟩)
    rw [insertMember, if_neg hany, List.mem_append, List.mem_singleton, Prod.mk.injEq]
    constructor
    · rintro (hin | hsame)
      · exact Or.inr ⟨hnew _ hin, hin⟩
      · exact Or.inl hsame
    · rintro (hsame | ⟨-, hin⟩)
      · exact Or.inr hsame
      · exact Or.inl hin

theorem collect_concat (members : List (String × Value)) (m : String × Value) :
    collect (members ++ [m]) = insertMember (collect members) m.1 m.2 := by
  rw [collect, List.foldl_append]
  rfl

theorem collect_names (members : List (String × Value)) :
    (collect members).map (·.1) = (members.map (·.1)).eraseDups := by
  induction members using List.reverseRecOn with
  | nil => rfl
  | append_singleton members m ih =>
    rw [collect_concat, insertMember_names, ih, List.map_append, List.eraseDups_append]
    by_cases hin : m.1 ∈ members.map (·.1)
    · rw [if_pos (List.mem_eraseDups.2 hin)]
      simp [List.removeAll, hin]
    · rw [if_neg (fun h => hin (List.mem_eraseDups.1 h))]
      simp [List.removeAll, hin, List.eraseDups_cons]

theorem collect_names_nodup (members : List (String × Value)) : ((collect members).map (·.1)).Nodup := by
  induction members using List.reverseRecOn with
  | nil => exact List.nodup_nil
  | append_singleton members m ih =>
    rw [collect_concat, insertMember_names]
    split
    · exact ih
    · rename_i hnew
      refine List.nodup_append.2 ⟨ih, by simp, ?_⟩
      rintro name hname last hlast rfl
      exact hnew (List.mem_singleton.1 hlast ▸ hname)

/-- the last appearance of a name, when one more member comes: this member, or the last one before it -/
theorem exists_last_concat_iff {members : List (String × Value)} {m : String × Value} {name : String} {value : Value} :
    (∃ front back, members ++ [m] = front ++ (name, value) :: back ∧ ∀ later ∈ back, later.1 ≠ name) ↔
      (name = m.1 ∧ value = m.2) ∨
        (name ≠ m.1 ∧ ∃ front back, members = front ++ (name, value) :: back ∧ ∀ later ∈ back, later.1 ≠ name) := by
  constructor
  · rintro ⟨front, back, hsplit, hlater⟩
    -- the last member is the one in question, or the last of those behind it
    induction back using List.reverseRecOn with
    | nil =>
      obtain ⟨-, rfl⟩ := List.append_inj' hsplit rfl |>.imp_right List.singleton_inj.1
      exact Or.inl ⟨rfl, rfl⟩
    | append_singleton back last _ =>
      rw [← List.cons_append, ← List.append_assoc] at hsplit
      obtain ⟨rfl, hlast⟩ := List.append_inj' hsplit rfl
      obtain rfl := List.singleton_inj.1 hlast
      refine Or.inr ⟨(hlater m (by simp)).symm, front, back, rfl, ?_⟩
      intro later hin
      exact hlater later (List.mem_append_left _ hin)
  · rintro (⟨rfl, rfl⟩ | ⟨hother, front, back, rfl, hlater⟩)
    · exact ⟨members, [], rfl, by simp⟩
    · refine ⟨front, back ++ [m], by simp, ?_⟩
      intro later hin
      rcases List.mem_append.1 hin with hin | hin
      · exact hlater later hin
      · rw [List.mem_singleton.1 hin]
        exact hother.symm

/-- names in order and the member of each name determine a list -/
theorem eq_of_names_eq {kept kept' : List (String × Value)} (hnodup : (kept.map (·.1)).Nodup)
    (hnames : kept.map (·.1) = kept'.map (·.1)) (hmem : ∀ m, m ∈ kept ↔ m ∈ kept') : kept = kept' := by
  induction kept generalizing kept' with
  | nil => exact (List.map_eq_nil_iff.1 hnames.symm).symm
  | cons m kept ih =>
    cases kept' with
    | nil => simp at hnames
    | cons m' kept' =>
      obtain ⟨hname, hrest⟩ := List.cons.inj hnames
      obtain ⟨hnew, hnodup⟩ := List.nodup_cons.1 hnodup
      have hnew' : m.1 ∉ kept'.map (·.1) := hrest ▸ hnew
      have hhead : m = m' := by
        rcases List.mem_cons.1 ((hmem m).1 List.mem_cons_self) with heq | hlater
        · exact heq
        · exact absurd (List.mem_map_of_mem hlater) hnew'
      subst hhead
      congr 1
      apply ih hnodup hrest
      intro x
      constructor
      · intro hx
        rcases List.mem_cons.1 ((hmem x).1 (List.mem_cons_of_mem m hx)) with rfl | hlater
        · exact absurd (List.mem_map_of_mem hx) hnew
        · exact hlater
      · intro hx
        rcases List.mem_cons.1 ((hmem x).2 (List.mem_cons_of_mem m hx)) with rfl | hlater
        · exact absurd (List.mem_map_of_mem hx) hnew'
        · exact hlater

/-- **Collecting keeps one member for each name.** -/
theorem collect_keeps (members : List (String × Value)) : Keeps members (collect members) where
  names := collect_names members
  values := by
    intro name value
    induction members using List.reverseRecOn with
    | nil => simp [collect]
    | append_singleton members m ih => rw [collect_concat, mem_insertMember_iff, exists_last_concat_iff, ih]

/-- there is no other list of that kind -/
theorem Keeps.eq_collect {members kept : List (String × Value)} (h : Keeps members kept) : kept = collect members := by
  have hcollect := collect_keeps members
  refine (eq_of_names_eq (collect_names_nodup members) (hcollect.names.trans h.names.symm) ?_).symm
  rintro ⟨name, value⟩
  rw [hcollect.values, h.values]

end Json

/-! ## The declarations -/

namespace Props

open Json

def memberOf (decl : PropDecl) : String × Value :=
  (decl.name, .string decl.type)

theorem mapM_declOf (decls : List PropDecl) : (decls.map memberOf).mapM declOf = .ok decls := by
  induction decls with
  | nil => rfl
  | cons decl decls ih =>
    rw [List.map_cons, List.mapM_cons, ih]
    rfl

theorem declOf_other {name : String} {value : Value} (h : ∀ type, value ≠ .string type) :
    declOf (name, value) = .error (.notAType name value) := by
  cases value with
  | string type => exact absurd rfl (h type)
  | _ => rfl

/-- the first member that makes no declaration is refused -/
theorem mapM_declOf_first (decls : List PropDecl) {name : String} {value : Value} (h : ∀ type, value ≠ .string type)
    (back : List (String × Value)) :
    (decls.map memberOf ++ (name, value) :: back).mapM declOf = .error (.notAType name value) := by
  rw [List.mapM_append, mapM_declOf, List.mapM_cons, declOf_other h]
  rfl

/-- members are all declarations, or there is a first that is none -/
theorem exists_first_other (kept : List (String × Value)) :
    (∃ decls : List PropDecl, kept = decls.map memberOf) ∨
      ∃ (decls : List PropDecl) (name : String) (value : Value) (back : List (String × Value)),
        kept = decls.map memberOf ++ (name, value) :: back ∧ ∀ type, value ≠ .string type := by
  induction kept with
  | nil => exact Or.inl ⟨[], rfl⟩
  | cons m kept ih =>
    obtain ⟨name, value⟩ := m
    by_cases hvalue : ∃ type, value = .string type
    · obtain ⟨type, rfl⟩ := hvalue
      rcases ih with ⟨decls, rfl⟩ | ⟨decls, name', value', back, rfl, hother⟩
      · exact Or.inl ⟨⟨name, type⟩ :: decls, rfl⟩
      · exact Or.inr ⟨⟨name, type⟩ :: decls, name', value', back, rfl, hother⟩
    · exact Or.inr ⟨[], name, value, kept, rfl, fun type h => hvalue ⟨type, h⟩⟩

end Props

/-! ## From the written object to the declarations -/

namespace Build

open Json

theorem parseProps_ok (path : Path) {text : String} {kept : List (String × Value)} {decls : List PropDecl}
    (hread : readObject text = .ok kept) (hdecls : kept.mapM Props.declOf = .ok decls) :
    parseProps path text = .ok ⟨decls⟩ := by
  simp only [parseProps, Props.read, hread, hdecls, Except.map]

theorem parseProps_error (path : Path) {text : String} {kept : List (String × Value)} {fault : Props.Fault}
    (hread : readObject text = .ok kept) (hfault : kept.mapM Props.declOf = .error fault) :
    parseProps path text = .error (.propsRefused path fault) := by
  simp only [parseProps, Props.read, hread, hfault, Except.map]

/-- **Declared props are read from every written form.** All members that are strings, truth values or null can be
written down. Whatever the escapes and the white space, one member is kept for each name, and it is certain which. If
all that are kept are strings, they are the declarations, in order and with distinct names. Otherwise the first that is
no string is refused by name, whether or not a value that was replaced was none either. -/
theorem parseProps_of_writes (path : Path) {members : List (String × Value)} (hflat : ∀ m ∈ members, m.2.IsFlat) :
    WritesObject members (Value.object members).text.toList ∧
    ∀ text : String, WritesObject members text.toList →
      ∃ kept, Keeps members kept ∧ (∀ kept', Keeps members kept' → kept' = kept) ∧
        ((∀ m ∈ kept, ∃ type, m.2 = .string type) →
          ∃ props, parseProps path text = .ok props ∧
            props.decls.map (fun decl => (decl.name, Value.string decl.type)) = kept ∧ props.names.Nodup) ∧
        (¬ (∀ m ∈ kept, ∃ type, m.2 = .string type) →
          ∃ front name value back, kept = front ++ (name, value) :: back ∧ (∀ m ∈ front, ∃ type, m.2 = .string type) ∧
            (∀ type, value ≠ .string type) ∧
            ∃ fault, parseProps path text = .error fault ∧ fault = .propsRefused path (.notAType name value) ∧
              fault.message = "Failed to parse props file " ++ path.display ++ ": " ++
                ("prop '" ++ name ++ "' must map to a type name string, found " ++ value.text)) := by
  refine ⟨writesObject_text hflat, ?_⟩
  intro text h
  have hread := readObject_of_writes h
  have hdistinct := collect_names_nodup members
  refine ⟨collect members, collect_keeps members, fun _ hkept => hkept.eq_collect, ?_⟩
  rcases Props.exists_first_other (collect members) with ⟨decls, hkept⟩ | ⟨decls, name, value, back, hkept, hother⟩
  · have hstrings : ∀ m ∈ collect members, ∃ type, m.2 = .string type := by
      intro m hm
      rw [hkept] at hm
      obtain ⟨decl, -, rfl⟩ := List.mem_map.1 hm
      exact ⟨decl.type, rfl⟩
    refine ⟨?_, fun hnot => absurd hstrings hnot⟩
    intro _
    rw [hkept] at hread hdistinct
    refine ⟨⟨decls⟩, parseProps_ok path hread (Props.mapM_declOf decls), hkept.symm, ?_⟩
    rw [List.map_map] at hdistinct
    exact hdistinct
  · refine ⟨?_, ?_⟩
    · intro hstrings
      obtain ⟨type, htype⟩ := hstrings (name, value) (by simp [hkept])
      exact absurd htype (hother type)
    · intro _
      refine ⟨decls.map Props.memberOf, name, value, back, hkept, ?_, hother, ?_⟩
      · intro m hm
        obtain ⟨decl, -, rfl⟩ := List.mem_map.1 hm
        exact ⟨decl.type, rfl⟩
      · rw [hkept] at hread
        have hrefused := parseProps_error path hread (Props.mapM_declOf_first decls hother back)
        exact ⟨.propsRefused path (.notAType name value), hrefused, rfl, rfl⟩

/-- an object with one name written in two ways, whose truth value is replaced by a character written as two numbers,
and with a null that stays -/
theorem replaced_value_does_no_harm :
    let text := " \x7b\"\\u0061\":true,\n\"\\/\" :null,\"a\": \"\\uD83D\\ude00\"\x7d"
    let members : List (String × Value) := [("a", .bool true), ("/", .null), ("a", .string "😀")]
    let path := Path.ofString "p.json"
    (∀ m ∈ members, m.2.IsFlat) ∧ WritesObject members text.toList ∧ Keeps members [("a", .string "😀"), ("/", .null)] ∧
      parseProps path text = .error (.propsRefused path (.notAType "/" .null)) := by
  intro text members path
  have hescaped : WritesString "a" ['"', '\\', 'u', '0', '0', '6', '1', '"'] := by
    have hunit : WritesUnit 'a'.toNat ['0', '0', '6', '1'] :=
      .digits (w := 0) (x := 0) (y := 6) (z := 1) (by decide) (by decide) (by decide) (by decide)
    exact .quoted (s := "a") (.cons (.unit hunit) .nil)
  have hplain : WritesString "a" ['"', 'a', '"'] :=
    .quoted (s := "a") (.cons (.plain (by decide) (by decide) (by decide)) .nil)
  have hslash : WritesString "/" ['"', '\\', '/', '"'] := .quoted (s := "/") (.cons (.letter (by decide)) .nil)
  have hpair : WritesString "😀" ['"', '\\', 'u', 'D', '8', '3', 'D', '\\', 'u', 'd', 'e', '0', '0', '"'] := by
    have hhigh : WritesUnit 0xD83D ['D', '8', '3', 'D'] :=
      .digits (w := 13) (x := 8) (y := 3) (z := 13) (by decide) (by decide) (by decide) (by decide)
    have hlow : WritesUnit 0xDE00 ['d', 'e', '0', '0'] :=
      .digits (w := 13) (x := 14) (y := 0) (z := 0) (by decide) (by decide) (by decide) (by decide)
    exact .quoted (s := "😀") (.cons (.pair hhigh hlow (by decide) (by decide) (by decide)) .nil)
  have hobject :=
    WritesObject.members (a := [' ']) (b := []) (by decide)
      (.cons
        (.member (a := []) (b := []) (c := []) (d := []) (by decide) hescaped (by decide) (by decide) .yes (by decide))
        (.cons
          (.member (a := ['\n']) (b := [' ']) (c := []) (d := []) (by decide) hslash (by decide) (by decide) .null
            (by decide))
          (.one
            (.member (a := []) (b := []) (c := [' ']) (d := []) (by decide) hplain (by decide) (by decide)
              (.string hpair) (by decide)))))
      (by decide)
  have hwrites : WritesObject members text.toList := by
    convert hobject using 1
    decide +kernel
  have hkeeps : Keeps members [("a", .string "😀"), ("/", .null)] := collect_keeps members
  have hflat : ∀ m ∈ members, m.2.IsFlat := by simp [members, Value.IsFlat]
  obtain ⟨-, hread⟩ := parseProps_of_writes path hflat
  obtain ⟨kept, -, hunique, -, hrefused⟩ := hread text hwrites
  obtain rfl := hunique _ hkeeps
  have hmixed : ¬ ∀ m ∈ [("a", Value.string "😀"), ("/", .null)], ∃ type, m.2 = .string type := by simp
  obtain ⟨front, name, value, back, hsplit, hfront, hother, fault, hfault, rfl, -⟩ := hrefused hmixed
  refine ⟨hflat, hwrites, hkeeps, ?_⟩
  cases front with
  | nil =>
    simp only [List.nil_append, List.cons.injEq, Prod.mk.injEq] at hsplit
    exact absurd hsplit.1.2.symm (hother "😀")
  | cons m front =>
    cases front with
    | nil =>
      simp only [List.cons_append, List.nil_append, List.cons.injEq, Prod.mk.injEq] at hsplit
      obtain ⟨-, ⟨rfl, rfl⟩, -⟩ := hsplit
      exact hfault
    | cons m' front =>
      simp only [List.cons_append, List.cons.injEq] at hsplit
      obtain ⟨type, htype⟩ := hfront m' (by simp)
      rw [← hsplit.2.1] at htype
      cases htype

end Build

end ComponentCompiler
