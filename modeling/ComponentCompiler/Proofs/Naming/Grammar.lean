import ComponentCompiler.Proofs.Naming.Letters

/-!
Which path texts name a component, and what the names are made of.

A path text names a component exactly if it can be cut into a front, a slash, a segment that is not empty and holds no
slash, and the ending of sources (`NamesSource`, `derive?_eq_some_iff`). There is at most one such cut: the segment
begins behind the last slash, whatever other slashes and endings come before it. In a path the backslash separates like
a slash, so that neither of the two gets into a name, and no letter becomes one of them.
-/

namespace ComponentCompiler.Naming

open Text

/-! ## The grammar -/

/-- a path text cut into a front, a slash, a segment, and the ending of sources -/
structure NamesSource (path front segment : String) : Prop where
  text : path = front ++ "/" ++ segment ++ ".webc"
  nonempty : segment ≠ ""
  plain : '/' ∉ segment.toList

theorem segment?_eq_some_iff {text segment : List Char} :
    segment? text = some segment ↔
      ∃ front, text = front ++ '/' :: segment ++ sourceEnding ∧ segment ≠ [] ∧ '/' ∉ segment := by
  constructor
  · intro h
    simp only [segment?] at h
    split_ifs at h with hend hcut
    obtain ⟨stem, rfl⟩ := List.isSuffixOf_iff_suffix.1 hend
    rw [List.length_append, Nat.add_sub_cancel, List.take_left] at h hcut
    obtain ⟨hslash, hnonempty⟩ := Bool.and_eq_true_iff.1 hcut
    obtain ⟨front, back, rfl, hback⟩ := exists_last_of_mem (List.contains_iff_mem.1 hslash)
    rw [reverse_takeWhile_append front hback] at h hnonempty
    obtain rfl := Option.some.inj h
    exact ⟨front, by simp, by simpa using hnonempty, hback⟩
  · rintro ⟨front, rfl, hne, hplain⟩
    exact segment?_append front hne hplain

/-- **A path text names a component exactly if it has the form of one.** -/
theorem derive?_eq_some_iff {path : String} {name : ComponentName} :
    derive? path = some name ↔ ∃ front segment, NamesSource path front segment ∧ name = ⟨pascal segment, segment⟩ := by
  simp only [derive?, Option.map_eq_some_iff, segment?_eq_some_iff]
  constructor
  · rintro ⟨segment, ⟨front, htext, hne, hplain⟩, rfl⟩
    refine ⟨String.ofList front, String.ofList segment, ⟨?_, ?_, ?_⟩, ?_⟩
    · rw [← String.toList_inj, htext]
      simp [sourceEnding]
    · rw [← String.toList_inj.ne]
      simpa using hne
    · simpa using hplain
    · rw [pascal, String.toList_ofList]
  · rintro ⟨front, segment, ⟨rfl, hne, hplain⟩, rfl⟩
    refine ⟨segment.toList, ⟨front.toList, by simp [sourceEnding], ?_, hplain⟩, ?_⟩
    · simpa using hne
    · rw [String.ofList_toList]
      rfl

/-- a path text is cut in one way at most -/
theorem NamesSource.unique {path front segment front' segment' : String} (h : NamesSource path front segment)
    (h' : NamesSource path front' segment') : front = front' ∧ segment = segment' := by
  have hname := derive?_eq_some_iff.2 ⟨front, segment, h, rfl⟩
  rw [derive?_eq_some_iff.2 ⟨front', segment', h', rfl⟩, Option.some.injEq, ComponentName.mk.injEq] at hname
  obtain rfl := hname.2
  refine ⟨?_, rfl⟩
  have htext := h.text.symm.trans h'.text
  simp only [String.append_assoc] at htext
  exact String.append_left_inj _ |>.1 htext

/-! ## The characters of names -/

/-- the characters of an identifier are letters of the text, but for the case -/
theorem mem_pascal {s : String} {d : Char} (h : d ∈ (pascal s).toList) :
    ∃ c ∈ s.toList, c ≠ '-' ∧ c.toLower = d.toLower := by
  rw [toList_pascal] at h
  have hlower : d.toLower ∈ (s.toList.filter (· != '-')).map Char.toLower := by
    rw [← map_toLower_onePass true]
    exact List.mem_map_of_mem h
  obtain ⟨c, hc, hsame⟩ := List.mem_map.1 hlower
  obtain ⟨hmem, hdash⟩ := List.mem_filter.1 hc
  exact ⟨c, hmem, by simpa using hdash, hsame⟩

/-- of a text without a mark comes no identifier with it, and of no text comes one with a dash -/
theorem not_mem_pascal {s : String} {d : Char} (hsmall : d.toLower = d) (hd : d.toNat < 97)
    (h : d = '-' ∨ d ∉ s.toList) : d ∉ (pascal s).toList := by
  intro hmem
  obtain ⟨c, hc, hdash, hlower⟩ := mem_pascal hmem
  obtain rfl : c = d := eq_of_toLower_eq (hlower.trans hsmall) hd
  exact h.elim hdash fun hnot => hnot hc

theorem backslash_not_mem_slashed (p : Path) : '\\' ∉ (slashed p).toList := by
  rw [slashed, String.toList_ofList, List.mem_map]
  rintro ⟨c, -, hc⟩
  split_ifs at hc with hback
  · cases hc
  · exact hback (by simp [hc])

theorem NamesSource.mem_path {path front segment : String} (h : NamesSource path front segment) {c : Char}
    (hc : c ∈ segment.toList) : c ∈ path.toList := by
  rw [h.text]
  simp [hc]

/-- **Names and the form of paths.** A path text names a component exactly if it consists of a front, a slash, a segment
that is not empty and holds no slash, and the ending of sources; there is then one such cut, the segment is the tag, and
it gives the identifier. Whatever octets a path is made of, no slash and no backslash gets into the tag that it gives,
and none of these nor a dash into the identifier. -/
theorem derive_accepts_named_sources :
    (∀ (path : String) (name : ComponentName), derive? path = some name ↔
      ∃ front segment, NamesSource path front segment ∧ name = ⟨pascal segment, segment⟩) ∧
    (∀ path front segment front' segment' : String, NamesSource path front segment → NamesSource path front' segment' →
      front = front' ∧ segment = segment') ∧
    (∀ (p : Path) (name : ComponentName), ofPath? p = some name →
      ('/' ∉ name.tag.toList ∧ '\\' ∉ name.tag.toList) ∧
      '/' ∉ name.identifier.toList ∧ '\\' ∉ name.identifier.toList ∧ '-' ∉ name.identifier.toList) := by
  refine ⟨fun path name => derive?_eq_some_iff, fun path front segment front' segment' => NamesSource.unique, ?_⟩
  intro p name hname
  obtain ⟨front, segment, hnames, rfl⟩ := derive?_eq_some_iff.1 hname
  have hback : '\\' ∉ segment.toList := fun hmem => backslash_not_mem_slashed p (hnames.mem_path hmem)
  refine ⟨⟨hnames.plain, hback⟩, ?_, ?_, ?_⟩
  · exact not_mem_pascal (by decide) (by decide) (Or.inr hnames.plain)
  · exact not_mem_pascal (by decide) (by decide) (Or.inr hback)
  · exact not_mem_pascal (by decide) (by decide) (Or.inl rfl)

/-- a text with two slashes, a line break and the ending three times, and a path with a backslash and an octet that is
no text -/
theorem crowded_path_cut_once :
    let path := "a.webc/b.webc/c\n-D.webc.webc"
    let p : Path := ⟨[0x73, 0x5C, 0x78, 0x2D, 0xFF, 0x2E, 0x77, 0x65, 0x62, 0x63]⟩
    (NamesSource path "a.webc/b.webc" "c\n-D.webc" ∧ derive? path = some ⟨"C\nD.webc", "c\n-D.webc"⟩ ∧
      ∀ front segment, NamesSource path front segment → "a.webc/b.webc" = front ∧ "c\n-D.webc" = segment) ∧
    ofPath? p = some ⟨"X\uFFFD", "x-\uFFFD"⟩ ∧ '\\' ∉ "x-\uFFFD".toList ∧ '-' ∉ "X\uFFFD".toList := by
  intro path p
  obtain ⟨hnamed, hunique, hplain⟩ := derive_accepts_named_sources
  have hcut : NamesSource path "a.webc/b.webc" "c\n-D.webc" := ⟨by decide, by decide, by decide⟩
  have hp : ofPath? p = some ⟨"X\uFFFD", "x-\uFFFD"⟩ := by decide +kernel
  refine ⟨⟨hcut, (hnamed _ _).2 ⟨_, _, hcut, by decide⟩, ?_⟩, hp, ?_⟩
  · intro front segment h
    exact hunique _ _ _ _ _ hcut h
  · exact ⟨(hplain p _ hp).1.2, (hplain p _ hp).2.2.2⟩

end ComponentCompiler.Naming
