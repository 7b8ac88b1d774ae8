import ComponentCompiler.Proofs.Command.Steps
import ComponentCompiler.Proofs.Discovery.Ways
import ComponentCompiler.Proofs.Naming
import ComponentCompiler.Proofs.Utf8
import ComponentCompiler.Proofs.Wiring

/-!
The names of discovered sources.

Discovery looks at the octets of a file name, and naming at the text of a whole path. They agree: the path of a
discovered source ends in a slash and the name of a file (`exists_name_of_mem_sources`), both ASCII marks around the
stem are read as what they are, and nothing in the stem is read as a slash, so that the text has the segment that naming
looks for (`ofPath?_of_octets`).
-/

namespace ComponentCompiler

open ComponentCompiler.Path Text

namespace Discovery

open Disk

/-- what is found below a directory was joined to a directory -/
theorem slash_mem_of_mem_below {d : Disk} {depth : Nat} {above : List Place} {dir p : Path}
    (h : p ∈ below d depth above dir) : slash ∈ p.octets := by
  refine below_induction (P := fun _ p => slash ∈ p.octets) ?_ (fun _ _ _ _ _ _ _ h => h) h
  intro dir here name entry hopens _ _
  exact slash_mem_join hopens.octets_ne_nil _

/-- the path of a source ends in a slash and its name -/
theorem exists_name_of_mem_sources {d : Disk} {dir p : Path} (h : p ∈ sources d dir) :
    ∃ front stem, p.octets = front ++ slash :: (stem ++ sourceSuffix) ∧ stem ≠ [] ∧ slash ∉ stem ∧
      p.fileName? = some (stem ++ sourceSuffix) := by
  have hsource := isSource_of_mem_sources h
  simp only [isSource, Bool.and_eq_true, beq_iff_eq, extension?, Option.bind_eq_some_iff] at hsource
  obtain ⟨hfile, file, hname, hextension⟩ := hsource
  have hslash : slash ∈ p.octets := by
    unfold sources at h
    split at h
    · cases h
    · exact slash_mem_of_mem_below (List.mem_mergeSort.1 h)
  obtain ⟨front, last, hoctets, hlast⟩ := exists_last_of_mem hslash
  have hpieces : pieces p.octets = pieces front ++ [last] := by
    rw [hoctets, pieces_append_slash, pieces_of_not_mem hlast]
  have hpart := getLast?_parts hpieces (not_isIdle_of_isFile hfile hpieces)
  obtain rfl : last = file := by
    simp only [fileName?, hpart, partOf?] at hname
    split_ifs at hname
    simpa using hname
  obtain ⟨stem, hstem, -, rfl⟩ := extensionOf?_eq_some_iff.1 hextension
  exact ⟨front, stem, hoctets, hstem, fun hmem => hlast (List.mem_append_left _ hmem), hname⟩

end Discovery

namespace Naming

/-- the octet that separates like a slash in the text of a path -/
def backslash : UInt8 := 0x5C

theorem decodeLossy_sourceSuffix (stem : List UInt8) :
    Utf8.decodeLossy (stem ++ Discovery.sourceSuffix) = Utf8.decodeLossy stem ++ ".webc" := by
  apply String.toList_injective
  have hextension : (Utf8.decodeLossy Discovery.sourceExtension).toList = "webc".toList := by decide +kernel
  have hdot : Char.ofNat dotOctet.toNat = '.' := by decide
  rw [Discovery.sourceSuffix, Utf8.decodeLossy_append_ascii stem (by decide), hextension, hdot, String.toList_append]
  rfl

def toSlash (c : Char) : Char :=
  if c == '\\' then '/' else c

theorem toList_slashed (p : Path) : (slashed p).toList = p.display.toList.map toSlash :=
  String.toList_ofList

theorem map_toSlash {text : List Char} (h : '\\' ∉ text) : text.map toSlash = text := by
  refine (List.map_congr_left fun c hc => if_neg ?_).trans (List.map_id _)
  rw [beq_iff_eq]
  rintro rfl
  exact h hc

/-- a path that ends in a slash and the name of a source gives its component the stem for a name -/
theorem ofPath?_of_octets {p : Path} {front stem : List UInt8}
    (hp : p.octets = front ++ slash :: (stem ++ Discovery.sourceSuffix)) (hne : stem ≠ []) (hslash : slash ∉ stem)
    (hback : backslash ∉ stem) :
    ofPath? p = some ⟨pascal (Utf8.decodeLossy stem), Utf8.decodeLossy stem⟩ := by
  have hnoSlash : '/' ∉ (Utf8.decodeLossy stem).toList := fun hmem =>
    hslash (Utf8.mem_of_mem_decodeLossy (by decide) (by decide) hmem)
  have hnoBack : '\\' ∉ (Utf8.decodeLossy stem).toList := fun hmem =>
    hback (Utf8.mem_of_mem_decodeLossy (by decide) (by decide) hmem)
  have htext : (slashed p).toList =
      (Utf8.decodeLossy front).toList.map toSlash ++ '/' :: (Utf8.decodeLossy stem).toList ++ sourceEnding := by
    have hending : ".webc".toList.map toSlash = sourceEnding := by decide
    rw [toList_slashed, display, hp, Utf8.decodeLossy_append_ascii front (by decide), decodeLossy_sourceSuffix,
      String.toList_append, List.map_append, List.map_cons, List.map_append, map_toSlash hnoBack, hending,
      List.append_assoc]
    rfl
  rw [ofPath?, derive?, htext, segment?_append _ (Utf8.toList_decodeLossy_ne_nil hne) hnoSlash, Option.map_some,
    String.ofList_toList]
  rfl

end Naming

namespace Discovery

open Disk

theorem sources_of_discover {s s' : Session} {dir : Path} {found : List Path}
    (h : s.run (Build.discover dir).run = (.ok found, s')) : found = sources s.disk dir := by
  rw [Command.discover_run_eq] at h
  have hresult := congrArg Prod.fst h
  dsimp only at hresult
  split_ifs at hresult
  exact (Except.ok.inj hresult).symm

/-- **Every discovered source gives a name.** It has a file name, and unless there is a backslash in it, its component
is called after the text of this name before the extension. -/
theorem discovered_source_gives_name {s s' : Session} {dir p : Path} {found : List Path}
    (hrun : s.run (Build.discover dir).run = (.ok found, s')) (hp : p ∈ found) :
    ∃ file, p.fileName? = some file ∧ (Naming.backslash ∉ file →
      ∃ tag, Utf8.decodeLossy file = tag ++ ".webc" ∧ Naming.ofPath? p = some ⟨Naming.pascal tag, tag⟩ ∧
        ∀ (t : Session) (target : Target) (props : Option Path) (c : Component),
          (t.run (Build.component target p props).run).1 = .ok c →
            c.tag = some tag ∧
              c.identifier = if tag.toList.all (· == '-') then Naming.fallback else Naming.pascal tag) := by
  rw [sources_of_discover hrun] at hp
  obtain ⟨front, stem, hoctets, hne, hslash, hname⟩ := exists_name_of_mem_sources hp
  refine ⟨_, hname, fun hback => ⟨Utf8.decodeLossy stem, Naming.decodeLossy_sourceSuffix stem, ?_⟩⟩
  have hgiven := Naming.ofPath?_of_octets hoctets hne hslash fun hmem => hback (List.mem_append_left _ hmem)
  refine ⟨hgiven, fun t target props c hc => ?_⟩
  have hassembles := (t.ends_run _).result (Command.component_assembles target p props)
  obtain ⟨compiled, loaded, heq⟩ := hassembles c hc
  rw [heq, Component.assemble_tag, hgiven, Component.assemble_identifier, Component.identifierFor_of_name hgiven]
  exact ⟨rfl, by rw [Naming.isEmpty_pascal]⟩

/-- a name with a dot before it, and a character that is cut off by the dot of its extension -/
def cutName : Name := Utf8.encode ".a" ++ [0xE2, 0x82] ++ sourceSuffix

def cutSource : Disk where
  entries := [([Utf8.encode "x"], .directory), ([Utf8.encode "x", cutName], .file [])]
  workingDir := []

theorem cut_character_gives_name :
    let s : Session := ⟨cutSource, [], "", ""⟩
    let p : Path := ⟨Utf8.encode "x/" ++ cutName⟩
    s.run (Build.discover (.ofString "x")).run = (.ok [p], s) ∧ p.fileName? = some cutName ∧
      Naming.backslash ∉ cutName ∧
      Naming.ofPath? p = some ⟨Naming.pascal ".a\uFFFD", ".a\uFFFD"⟩ := by
  intro s p
  have hplace : cutSource.placeOf (.ofString "x") = .ok [Utf8.encode "x"] := except_eq_ok (by decide +kernel)
  have hfound : sources cutSource (.ofString "x") = [p] :=
    sources_of_below hplace (by decide +kernel) (by decide +kernel)
  have hdirectory : cutSource.isDirectory (.ofString "x") = true := by decide +kernel
  have hrun := Command.discover_run s hdirectory
  rw [hfound] at hrun
  have hname : p.fileName? = some cutName := by decide +kernel
  have hback : Naming.backslash ∉ cutName := by decide
  obtain ⟨file, hfile, hgiven⟩ := discovered_source_gives_name hrun List.mem_cons_self
  obtain rfl : file = cutName := Option.some.inj (hfile.symm.trans hname)
  obtain ⟨tag, htag, hpath, -⟩ := hgiven hback
  have htext : (Utf8.decodeLossy cutName).toList = ".a\uFFFD".toList ++ ".webc".toList := by decide +kernel
  obtain rfl : tag = ".a\uFFFD" := by
    rw [htag, String.toList_append] at htext
    exact String.toList_injective (List.append_cancel_right htext)
  exact ⟨hrun, hname, hback, hpath⟩

end Discovery

end ComponentCompiler
