import ComponentCompiler.Proofs.Command.Run
import ComponentCompiler.Proofs.Discovery
import ComponentCompiler.Proofs.Disk.Entries
import ComponentCompiler.Proofs.Path.Order

/-!
Which sources are found below a directory, and in which order.

`LeadsToSource` says, name by name and without a search, which names lead from a directory to a source: every name
stands in the directory that the names before it open, no link on the way goes back to a directory that the way has come
through, and the last name is that of a source file. Links may go round in circles and lead nowhere.

The search finds nothing else (`exists_names_of_mem_below`), finds all of it if it goes down far enough
(`mem_below_of_leadsToSource`), and finds nothing twice (`nodup_below`). What carries the inductions is that the search
keeps the places of the directories that its names come through (`ComesThrough`). Every name has its part in the length
of a path, and a path of more than `maxPath` octets leads nowhere, so the search always goes down far enough
(`mem_sources_iff`).
-/

namespace ComponentCompiler

open ComponentCompiler.Path Text

namespace Discovery

open Disk

/-! ## Names of sources -/

/-- how the name of a source ends, in octets -/
def sourceSuffix : List UInt8 := dotOctet :: sourceExtension

theorem isSource_along_iff {d : Disk} {dir : Path} {names : List Name} {name : Name} (hdir : dir.octets ≠ [])
    (h : IsOrdinary name) :
    isSource d (dir.along (names ++ [name])) = true ↔
      d.isFile (dir.along (names ++ [name])) = true ∧ ∃ stem, stem ≠ [] ∧ name = stem ++ sourceSuffix := by
  have hextension : (dir.along (names ++ [name])).extension? = extensionOf? name := by
    rw [along_concat]
    simp [extension?, fileName?, parts_join (octets_along_ne_nil hdir names) h]
  have hdot : dotOctet ∉ sourceExtension := by decide
  rw [isSource, Bool.and_eq_true, beq_iff_eq, hextension, extensionOf?_eq_some_iff]
  simp only [hdot, not_false_eq_true, true_and, sourceSuffix]

/-! ## Ways -/

/-- a name leads on from the directory that the names before it open: there is an entry with this name, and it is no
link to a directory that was come through -/
def LeadsOn (d : Disk) (dir : Path) (front : List Name) (name : Name) : Prop :=
  ∃ here entry, d.Opens (dir.along front) here ∧ d.entry? (here ++ [name]) = some entry ∧
    ∀ target place, entry = .link target → d.Opens (dir.along (front ++ [name])) place →
      ∀ before, before <+: front → ¬ d.Opens (dir.along before) place

/-- every name leads on from the names before it -/
def IsWay (d : Disk) (dir : Path) (names : List Name) : Prop :=
  ∀ front name, front ++ [name] <+: names → LeadsOn d dir front name

/-- names that lead from a directory to a source -/
structure LeadsToSource (d : Disk) (dir : Path) (names : List Name) : Prop where
  way : IsWay d dir names
  isFile : d.isFile (dir.along names) = true
  ending : ∃ front stem, names = front ++ [stem ++ sourceSuffix] ∧ stem ≠ []

theorem IsWay.of_append {d : Disk} {dir : Path} {names more : List Name} (h : IsWay d dir (names ++ more)) :
    IsWay d dir names := fun front name hfront =>
  h front name (hfront.trans (List.prefix_append _ _))

theorem isWay_concat {d : Disk} {dir : Path} {names : List Name} {name : Name} :
    IsWay d dir (names ++ [name]) ↔ IsWay d dir names ∧ LeadsOn d dir names name := by
  refine ⟨fun h => ⟨h.of_append, h names name List.prefix_rfl⟩, fun ⟨hway, hon⟩ front other hfront => ?_⟩
  rcases List.prefix_concat_iff.1 hfront with heq | hfront
  · obtain ⟨rfl, hlast⟩ := List.append_inj' heq rfl
    obtain rfl := List.singleton_inj.1 hlast
    exact hon
  · exact hway front other hfront

/-- the names of a way are names of entries -/
theorem IsWay.isOrdinary {d : Disk} (h : d.IsProper) {dir : Path} {names : List Name} (hway : IsWay d dir names) :
    ∀ name ∈ names, IsOrdinary name := by
  intro name hmem
  obtain ⟨front, back, rfl⟩ := List.append_of_mem hmem
  obtain ⟨here, entry, -, hentry, -⟩ := hway front name ⟨back, by simp⟩
  exact h.isOrdinary hentry

/-! ## The search -/

theorem nodup_behind {d : Disk} {depth : Nat} {above : List Place} {p : Path} {entry : Entry}
    (h : ∀ place, (below d depth (place :: above) p).Nodup) : (behind d depth above p entry).Nodup := by
  unfold behind
  split
  · exact List.nodup_nil
  · next place hplace =>
    split
    · split
      · split
        · exact List.nodup_nil
        · exact h place
      · exact h place
    · split
      · exact List.nodup_singleton p
      · exact List.nodup_nil

/-- the places of the directories that names come through -/
def ComesThrough (d : Disk) (dir : Path) (names : List Name) (above : List Place) : Prop :=
  ∀ place, place ∈ above ↔ ∃ before, before <+: names ∧ d.Opens (dir.along before) place

theorem ComesThrough.concat {d : Disk} {dir : Path} {names : List Name} {above : List Place}
    (h : ComesThrough d dir names above) {name : Name} {place : Place}
    (hopens : d.Opens (dir.along (names ++ [name])) place) :
    ComesThrough d dir (names ++ [name]) (place :: above) := by
  intro other
  simp only [List.mem_cons, h other, List.prefix_concat_iff]
  constructor
  · rintro (rfl | ⟨before, hbefore, hother⟩)
    · exact ⟨_, Or.inl rfl, hopens⟩
    · exact ⟨before, Or.inr hbefore, hother⟩
  · rintro ⟨before, rfl | hbefore, hother⟩
    · exact Or.inl (hother.unique hopens)
    · exact Or.inr ⟨before, hbefore, hother⟩

/-- the search follows exactly the entries that lead on -/
theorem ComesThrough.leadsOn_iff {d : Disk} {dir : Path} {names : List Name} {above : List Place}
    (h : ComesThrough d dir names above) {here : Place} (hopens : d.Opens (dir.along names) here) {name : Name}
    {place : Place} (hnext : d.Opens (dir.along (names ++ [name])) place) :
    LeadsOn d dir names name ↔
      ∃ entry, d.entry? (here ++ [name]) = some entry ∧ ∀ target, entry = .link target → place ∉ above := by
  constructor
  · rintro ⟨here', entry, hopens', hentry, hfresh⟩
    obtain rfl := hopens.unique hopens'
    refine ⟨entry, hentry, fun target hlink hmem => ?_⟩
    obtain ⟨before, hbefore, hold⟩ := (h place).1 hmem
    exact hfresh target place hlink hnext before hbefore hold
  · rintro ⟨entry, hentry, hfresh⟩
    refine ⟨here, entry, hopens, hentry, fun target place' hlink hnext' before hbefore hold => ?_⟩
    obtain rfl := hnext.unique hnext'
    exact hfresh target hlink ((h place).2 ⟨before, hbefore, hold⟩)

section Search

variable {d : Disk} (h : d.IsProper)

include h

/-- what the search finds is a source that names lead to, behind the names that were taken -/
theorem exists_names_of_mem_below {dir : Path} (hdir : dir.octets ≠ []) {depth : Nat} {above : List Place}
    {done : List Name} {here : Place} (hopens : d.Opens (dir.along done) here) (hway : IsWay d dir done)
    (habove : ComesThrough d dir done above) {p : Path} (hp : p ∈ below d depth above (dir.along done)) :
    ∃ names, LeadsToSource d dir (done ++ names) ∧ p = dir.along (done ++ names) := by
  induction depth generalizing done above here with
  | zero => simp [below] at hp
  | succ depth ih =>
    rw [below_of_opens hopens] at hp
    obtain ⟨⟨name, entry⟩, hchild, hp⟩ := List.mem_flatMap.1 hp
    have hentry := h.mem_children_iff.1 hchild
    obtain ⟨place, hplace, hp⟩ := mem_behind_iff.1 hp
    rw [← along_concat] at hplace hp
    rcases hp with ⟨hdirectory, hfresh, hp⟩ | ⟨hfile, hsource, rfl⟩
    · have hnext : d.Opens (dir.along (done ++ [name])) place := ⟨hplace, hdirectory⟩
      have hon := (habove.leadsOn_iff hopens hnext).2 ⟨entry, hentry, hfresh⟩
      obtain ⟨names, hnames⟩ := ih hnext (isWay_concat.2 ⟨hway, hon⟩) (habove.concat hnext) hp
      exact ⟨name :: names, by rwa [List.append_cons]⟩
    · have hon : LeadsOn d dir done name := by
        refine ⟨here, entry, hopens, hentry, fun _ place' _ hnext => absurd hnext.2 ?_⟩
        rwa [← Except.ok.inj (hplace.symm.trans hnext.1)]
      obtain ⟨hisFile, stem, hstem, hname⟩ := (isSource_along_iff hdir (h.isOrdinary hentry)).1 hsource
      exact ⟨[name], ⟨isWay_concat.2 ⟨hway, hon⟩, hisFile, done, stem, by rw [hname], hstem⟩, rfl⟩

/-- a source that names lead to is found, if the search goes down far enough -/
theorem mem_below_of_leadsToSource {dir : Path} (hdir : dir.octets ≠ []) {depth : Nat} {above : List Place}
    {done names : List Name} {here : Place} (hopens : d.Opens (dir.along done) here)
    (habove : ComesThrough d dir done above) (hleads : LeadsToSource d dir (done ++ names))
    (hdepth : names.length ≤ depth) :
    dir.along (done ++ names) ∈ below d depth above (dir.along done) := by
  induction names generalizing depth done above here with
  | nil =>
    have hfile := hleads.isFile
    rw [List.append_nil, hopens.isFile] at hfile
    cases hfile
  | cons name names ih =>
    obtain ⟨depth, rfl⟩ : ∃ less, depth = less + 1 :=
      Nat.exists_eq_add_of_le' (Nat.lt_of_lt_of_le (Nat.succ_pos _) hdepth)
    rw [List.append_cons] at hleads ⊢
    have hon := (isWay_concat.1 hleads.way.of_append).2
    rw [below_of_opens hopens, List.mem_flatMap]
    cases names with
    | nil =>
      rw [List.append_nil] at hleads ⊢
      obtain ⟨here', entry, hopens', hentry, -⟩ := hon
      obtain rfl := hopens.unique hopens'
      obtain ⟨place, content, hplace, hfile⟩ := exists_place_of_isFile hleads.isFile
      obtain ⟨front, stem, hnames, hstem⟩ := hleads.ending
      have hname : name = stem ++ sourceSuffix := List.singleton_inj.1 (List.append_inj' hnames rfl).2
      have hsource : isSource d (dir.along (done ++ [name])) = true :=
        (isSource_along_iff hdir (h.isOrdinary hentry)).2 ⟨hleads.isFile, stem, hstem, hname⟩
      refine ⟨(name, entry), h.mem_children_iff.2 hentry, mem_behind_iff.2 ?_⟩
      rw [← along_concat]
      exact ⟨place, hplace, Or.inr ⟨by simp [hfile], hsource, rfl⟩⟩
    | cons next names =>
      -- a name that is not the last one opens a directory
      obtain ⟨place, -, hnext, -⟩ := hleads.way (done ++ [name]) next ⟨names, by simp⟩
      obtain ⟨entry, hentry, hfresh⟩ := (habove.leadsOn_iff hopens hnext).1 hon
      have hfound := ih hnext (habove.concat hnext) hleads (Nat.le_of_succ_le_succ hdepth)
      refine ⟨(name, entry), h.mem_children_iff.2 hentry, mem_behind_iff.2 ?_⟩
      rw [← along_concat]
      exact ⟨place, hnext.1, Or.inl ⟨hnext.2, hfresh, hfound⟩⟩

/-- what is found below a path goes on from it -/
theorem parts_prefix_of_mem_below {depth : Nat} {above : List Place} {dir p : Path} (hp : p ∈ below d depth above dir) :
    dir.parts <+: p.parts := by
  have hjoin : ∀ dir here name entry, d.Opens dir here → (name, entry) ∈ d.children here →
      dir.parts <+: (dir.join ⟨name⟩).parts := by
    intro dir here name entry hopens hchild
    rw [parts_join hopens.octets_ne_nil (h.isOrdinary (h.mem_children_iff.1 hchild))]
    exact List.prefix_append _ _
  refine below_induction (P := fun dir p => dir.parts <+: p.parts) ?_ ?_ hp
  · intro dir here name entry hopens hchild _
    exact hjoin dir here name entry hopens hchild
  · intro dir here name entry p hopens hchild hp
    exact (hjoin dir here name entry hopens hchild).trans hp

/-- nothing is found twice -/
theorem nodup_below (depth : Nat) (above : List Place) (dir : Path) : (below d depth above dir).Nodup := by
  induction depth generalizing dir above with
  | zero => simp [below]
  | succ depth ih =>
    by_cases hopens : ∃ here, d.Opens dir here
    · obtain ⟨here, hopens⟩ := hopens
      rw [below_of_opens hopens, List.nodup_flatMap]
      refine ⟨fun child _ => nodup_behind fun place => ih (place :: above) _, ?_⟩
      refine (h.pairwise_children here).imp_of_mem fun {a b} ha hb hne p hpa hpb => hne ?_
      have hinitial : ∀ child ∈ d.children here, p ∈ behind d depth above (dir.join ⟨child.1⟩) child.2 →
          dir.parts ++ [.entry child.1] <+: p.parts := by
        intro child hchild hp
        rw [← parts_join hopens.octets_ne_nil (h.isOrdinary (h.mem_children_iff.1 hchild))]
        obtain ⟨place, -, ⟨-, -, hp⟩ | ⟨-, -, rfl⟩⟩ := mem_behind_iff.1 hp
        · exact parts_prefix_of_mem_below h hp
        · exact List.prefix_rfl
      have heq := List.prefix_of_prefix_length_le (hinitial a ha hpa) (hinitial b hb hpb) (by simp)
      simpa using heq
    · rw [List.eq_nil_iff_forall_not_mem.2 fun p hp => hopens (exists_opens_of_mem_below hp)]
      exact List.nodup_nil

end Search

/-! ## The sources in order -/

section Sources

variable {d : Disk} (h : d.IsProper) {dir : Path} {here : Place} (hopens : d.Opens dir here)

include h hopens

theorem mem_sources_iff {p : Path} : p ∈ sources d dir ↔ ∃ names, LeadsToSource d dir names ∧ p = dir.along names := by
  have hdir := hopens.octets_ne_nil
  have hstart : d.Opens (dir.along []) here := hopens
  have hway : IsWay d dir [] := fun front name hfront => absurd hfront (by simp)
  have habove : ComesThrough d dir [] [here] := by
    intro place
    simp only [List.mem_singleton, List.prefix_nil, exists_eq_left]
    exact ⟨fun heq => heq ▸ hstart, fun hplace => hplace.unique hstart⟩
  simp only [sources, hopens.1, List.mem_mergeSort]
  constructor
  · exact exists_names_of_mem_below h hdir hstart hway habove
  · rintro ⟨names, hleads, rfl⟩
    -- the path to a source is not too long, and every name has its part in its length
    obtain ⟨place, content, hplace, -⟩ := exists_place_of_isFile hleads.isFile
    have hlength := (checkPath_eq_ok_iff.1 (checkPath_of_placeOf hplace)).2.1
    have hnames := length_along_le (p := dir) fun name hname => (hleads.way.isOrdinary h name hname).toIsName
    exact mem_below_of_leadsToSource h hdir hstart habove hleads (by omega)

/-- the sources are in order, and none is there twice -/
theorem pairwise_sources : (sources d dir).Pairwise fun p q => p.le q = true ∧ p ≠ q := by
  simp only [sources, hopens.1]
  exact (List.pairwise_mergeSort le_trans le_total _).and
    ((List.mergeSort_perm _ _).nodup_iff.2 (nodup_below h _ _ _))

end Sources

/-- **Discovery finds exactly the sources that names lead to, each once and in order.** The disk may have any links.
Every directory can be searched, and the result is the list of all paths that go on from it by names that lead to a
source; these names strictly increase, compared name by name and each name octet by octet, and so do the paths in the
order of paths. -/
theorem discover_leads_to_sources (s : Session) {dir : Path} (hproper : s.disk.IsProper)
    (hdirectory : s.disk.isDirectory dir = true) :
    ∃ ways : List (List Name), s.run (Build.discover dir).run = (.ok (ways.map dir.along), s) ∧
      (∀ names, names ∈ ways ↔ LeadsToSource s.disk dir names) ∧
      ways.Pairwise (List.Lex (List.Lex (· < ·))) ∧
      (ways.map dir.along).Pairwise fun p q => p.le q = true ∧ q.le p = false := by
  obtain ⟨here, hopens⟩ := opens_of_isDirectory hdirectory
  have hdir := hopens.octets_ne_nil
  have hordinary : ∀ {names}, LeadsToSource s.disk dir names → ∀ name ∈ names, IsOrdinary name := fun hleads =>
    hleads.way.isOrdinary hproper
  choose! way hway using fun p => (mem_sources_iff hproper hopens (p := p)).1
  have hmem : ∀ names, names ∈ (sources s.disk dir).map way ↔ LeadsToSource s.disk dir names := by
    intro names
    rw [List.mem_map]
    constructor
    · rintro ⟨p, hp, rfl⟩
      exact (hway p hp).1
    · intro hleads
      have hp := (mem_sources_iff hproper hopens).2 ⟨names, hleads, rfl⟩
      obtain ⟨hleads', heq⟩ := hway _ hp
      exact ⟨_, hp, (along_inj hdir (hordinary hleads) (hordinary hleads') heq).symm⟩
  have hlex : ((sources s.disk dir).map way).Pairwise (List.Lex (List.Lex (· < ·))) := by
    refine List.pairwise_map.2 ((pairwise_sources hproper hopens).imp_of_mem fun {p q} hp hq hpq => ?_)
    obtain ⟨hleads, heq⟩ := hway p hp
    obtain ⟨hleads', heq'⟩ := hway q hq
    rw [heq, heq'] at hpq
    exact lex_of_le_along hdir (hordinary hleads) (hordinary hleads') hpq.1 hpq.2
  refine ⟨_, ?_, hmem, hlex, List.pairwise_map.2 (hlex.imp_of_mem fun {a b} ha hb hab => ?_)⟩
  · have hpaths : ((sources s.disk dir).map way).map dir.along = sources s.disk dir := by
      rw [List.map_map]
      exact (List.map_congr_left fun p hp => (hway p hp).2.symm).trans (List.map_id _)
    rw [Command.discover_run s hdirectory, hpaths]
  · have ha := hordinary ((hmem a).1 ha)
    have hb := hordinary ((hmem b).1 hb)
    exact ⟨(le_along_iff hdir ha hb).2 (Or.inr hab), le_along_eq_false hdir ha hb hab⟩

/-- two ways to one directory, a link back to the directory above, and a link that leads nowhere -/
def circles : Disk where
  entries :=
    [([Utf8.encode "a"], .directory), ([Utf8.encode "a", Utf8.encode "x.webc"], .file []),
      ([Utf8.encode "a", Utf8.encode "back"], .link (.ofString "..")), ([Utf8.encode "a-.webc"], .file []),
      ([Utf8.encode "b"], .link (.ofString "a")), ([Utf8.encode "c.webc"], .link (.ofString "gone"))]
  workingDir := []

/-- both ways are taken, and the link back is not; `a` comes before `a-.webc`, though a dash comes before a slash -/
theorem circles_leads_to_sources :
    let s : Session := ⟨circles, [], "", ""⟩
    let dir : Path := .ofString "."
    circles.IsProper ∧ circles.isDirectory dir = true ∧
      s.run (Build.discover dir).run = (.ok (["./a/x.webc", "./a-.webc", "./b/x.webc"].map .ofString), s) ∧
      LeadsToSource circles dir [Utf8.encode "b", Utf8.encode "x.webc"] ∧
      ¬ LeadsToSource circles dir [Utf8.encode "a", Utf8.encode "back", Utf8.encode "a", Utf8.encode "x.webc"] := by
  intro s dir
  have hproper : circles.IsProper := ⟨by decide +kernel, by decide +kernel⟩
  have hdirectory : circles.isDirectory dir = true := by decide +kernel
  have hplace : circles.placeOf dir = .ok [] := except_eq_ok (by decide +kernel)
  have hfound : sources circles dir = ["./a/x.webc", "./a-.webc", "./b/x.webc"].map .ofString :=
    sources_of_below hplace (by decide +kernel) (by decide +kernel)
  have hrun := Command.discover_run s hdirectory
  rw [hfound] at hrun
  obtain ⟨ways, hways, hmem, -, -⟩ := discover_leads_to_sources s hproper hdirectory
  have hpaths : ways.map dir.along = ["./a/x.webc", "./a-.webc", "./b/x.webc"].map .ofString :=
    Except.ok.inj (congrArg Prod.fst (hways.symm.trans hrun))
  refine ⟨hproper, hdirectory, hrun, ?_, fun hleads => ?_⟩
  · obtain ⟨names, hnames, hpath⟩ : ∃ names ∈ ways, dir.along names = .ofString "./b/x.webc" := by
      rw [← List.mem_map, hpaths]
      decide
    have hleads := (hmem names).1 hnames
    have heq : names = [Utf8.encode "b", Utf8.encode "x.webc"] :=
      along_inj (p := dir) (by decide) (hleads.way.isOrdinary hproper) (by decide) (hpath.trans (by decide))
    rwa [← heq]
  · have hpath := List.mem_map_of_mem (f := dir.along) ((hmem _).2 hleads)
    rw [hpaths] at hpath
    revert hpath
    decide

end Discovery

end ComponentCompiler
