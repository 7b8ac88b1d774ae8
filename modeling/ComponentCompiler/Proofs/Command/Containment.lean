import ComponentCompiler.Proofs.Command.Run
import ComponentCompiler.Proofs.Disk.MakeDirs

/-!
What a run leaves on the disk.

On a disk without links, everything a run changes belongs to a source of the run, in whatever way its sources take
turns: a file lies in the directory of the source's component, and a new directory is this directory or one above it
that was missing. `run_contained` says where the directory of a component is. For an ordinary identifier it is the
directory of this name in `components`; but a source named by dots alone has the identifier `.` or `..`, and its files
go to `components` itself or to the output root. `dotted_source_escapes` shows such a source.
-/

namespace ComponentCompiler.Command

open Text ComponentCompiler.Path Disk

/-! ## What a step may change -/

/-- a place belongs to a directory: it is a file in it, or it was missing and is now the directory or one above it -/
inductive Belongs (dir : Path) (before after : Disk) (place : Place) : Prop
  | file (here : Place) (name : Name) (content : List UInt8) (hdir : after.placeOf dir = .ok here)
      (hhere : after.entry? here = some .directory) (hplace : place = here ++ [name])
      (hentry : after.entry? place = some (.file content))
  | directory (p : Path) (hp : p ∈ dir.ancestors) (hbefore : before.entry? place = none)
      (hentry : after.entry? place = some .directory) (hat : after.placeOf p = .ok place)

/-- all that is different between two disks belongs to one of some directories -/
structure Contained (dirs : List Path) (before after : Disk) : Prop where
  keeps : Keeps before after
  noLinks : after.NoLinks
  belongs : ∀ place, after.entry? place ≠ before.entry? place → ∃ dir ∈ dirs, Belongs dir before after place

theorem Contained.refl {d : Disk} (h : d.NoLinks) (dirs : List Path) : Contained dirs d d :=
  ⟨Keeps.refl d, h, fun _ hne => absurd rfl hne⟩

theorem Contained.trans {dirs : List Path} {d e f : Disk} (h : Contained dirs d e) (h' : Contained dirs e f)
    (hd : d.NoLinks) : Contained dirs d f where
  keeps := h.keeps.trans h'.keeps
  noLinks := h'.noLinks
  belongs := fun place hne => by
    by_cases hlast : f.entry? place = e.entry? place
    · rw [hlast] at hne
      obtain ⟨dir, hdir, hbelongs⟩ := h.belongs place hne
      refine ⟨dir, hdir, ?_⟩
      cases hbelongs with
      | file here name content hat hhere hplace hentry =>
        exact .file here name content (h'.keeps.placeOf h.noLinks h'.noLinks hhere hat)
          (h'.keeps.directory here hhere) hplace
          (hlast.trans hentry)
      | directory p hp hbefore hentry hat =>
        exact .directory p hp hbefore (hlast.trans hentry) (h'.keeps.placeOf h.noLinks h'.noLinks hentry hat)
    · obtain ⟨dir, hdir, hbelongs⟩ := h'.belongs place hlast
      refine ⟨dir, hdir, ?_⟩
      cases hbelongs with
      | file here name content hat hhere hplace hentry => exact .file here name content hat hhere hplace hentry
      | directory p hp hbefore hentry hat =>
        refine .directory p hp ?_ hentry hat
        by_contra hsome
        have := h.keeps.isSome hd (Option.isSome_iff_ne_none.2 hsome)
        simp [hbefore] at this

theorem makeDirs_contained {d : Disk} (h : d.NoLinks) {dirs : List Path} {dir : Path} (hdir : dir ∈ dirs) :
    Contained dirs d (d.makeDirs dir).2 := by
  have hgrows := makeChain_grows h dir.ancestors
  refine ⟨hgrows.keeps, hgrows.noLinks, fun place hne => ⟨dir, hdir, ?_⟩⟩
  obtain ⟨hbefore, hentry, p, hp, hat⟩ := hgrows.fresh place hne
  exact .directory p hp hbefore hentry hat

/-- a file that is written into a directory belongs to it -/
theorem write_contained {d e : Disk} (h : d.NoLinks) {dirs : List Path} {dir : Path} (hdir : dir ∈ dirs)
    (hend : EndsInName dir) {name : Name} (hname : IsOrdinary name) {content : List UInt8}
    (hwrite : d.write (dir.join ⟨name⟩) content = .ok e) : Contained dirs d e := by
  rw [write_join h hend.1 hname] at hwrite
  obtain ⟨_, hcheck, hwrite⟩ := except_bind_eq_ok.1 hwrite
  obtain ⟨here, hhere, hwrite⟩ := except_bind_eq_ok.1 hwrite
  obtain ⟨place, hplace, hfill⟩ := except_bind_eq_ok.1 hwrite
  obtain ⟨-, rfl⟩ := nameIn_eq_ok_iff.1 hplace
  obtain ⟨hnot, rfl⟩ := fill_eq_ok_iff.1 hfill
  have hnil : here ++ [name] ≠ [] := by simp
  have hkeeps := keeps_put_file h hnil hnot content
  have hlinks : NoLinks (d.put (here ++ [name]) (.file content)) := noLinks_put h hnil (by simp)
  have hcheckDir := checkPath_of_join hend hname.toIsName hcheck
  refine ⟨hkeeps, hlinks, fun place hne => ⟨dir, hdir, ?_⟩⟩
  rw [entry?_put hnil] at hne
  split_ifs at hne with heq
  · exact .file here name content (placeOf_of_directoryAt hlinks hcheckDir (hkeeps.directoryAt h hhere))
      (hkeeps.directory here (entry?_of_reach hhere)) heq (by rw [entry?_put hnil, if_pos heq])
  · exact absurd rfl hne

/-! ## What a run may change -/

/-- requests that make given directories and write ordinary files into them -/
def Confined (dirs : List Path) : Request → Prop
  | .makeDirs p => p ∈ dirs
  | .writeText p _ => ∃ dir ∈ dirs, ∃ name, IsOrdinary name ∧ p = dir.join ⟨name⟩
  | _ => True

theorem answer_contained {dirs : List Path} (hdirs : ∀ dir ∈ dirs, EndsInName dir) (s : Session) (h : s.disk.NoLinks)
    {request : Request} (hrequest : Confined dirs request) : Contained dirs s.disk (s.answer request).2.disk := by
  cases request with
  | makeDirs p => exact makeDirs_contained h hrequest
  | writeText p text =>
    obtain ⟨dir, hdir, name, hname, rfl⟩ := hrequest
    cases hwrite : s.disk.writeText (dir.join ⟨name⟩) text with
    | error fault =>
      simp only [Session.answer, hwrite]
      exact Contained.refl h dirs
    | ok e =>
      simp only [Session.answer, hwrite]
      exact write_contained h hdir (hdirs dir hdir) hname hwrite
  | _ => exact Contained.refl h dirs

theorem ends_contained {α : Type} {Q : α → Prop} {dirs : List Path} (hdirs : ∀ dir ∈ dirs, EndsInName dir) {t : Task α}
    (ht : t.Meets (Confined dirs) Q) {s s' : Session} {result : α} (h : s.disk.NoLinks) (hends : s.Ends t result s') :
    Contained dirs s.disk s'.disk :=
  hends.invariant (I := fun s₁ => Contained dirs s.disk s₁.disk)
    (fun s₁ _ hrequest hs => hs.trans (answer_contained hdirs s₁ hs.noLinks hrequest) h) ht (Contained.refl h dirs)

theorem Orderly.confined {α : Type} {source : Path} {props : Option Path} {dir : Path} {files : List Name}
    {failed : Disk.Fault → α} {t : Task α} (ht : Orderly source props dir files failed t) {dirs : List Path}
    (hdir : dir ∈ dirs) (hfiles : ∀ name ∈ files, IsOrdinary name) : t.Meets (Confined dirs) fun _ => True := by
  induction t with
  | done result => trivial
  | ask request next ih =>
    cases request with
    | makeDirs p =>
      obtain ⟨rfl, hwrites, hfailed⟩ := ht
      refine ⟨hdir, fun answer => ?_⟩
      cases answer with
      | error fault =>
        rw [hfailed fault]
        trivial
      | ok _ =>
        refine hwrites.imp fun request hrequest => ?_
        cases request with
        | writeText p text =>
          obtain ⟨name, hname, rfl⟩ := hrequest
          exact ⟨_, hdir, name, hfiles name hname, rfl⟩
        | makeDirs p => exact hrequest.elim
        | _ => trivial
    | writeText p text => exact ht.1.elim
    | _ => exact ⟨trivial, fun answer => ih answer (ht.2 answer)⟩
  | pick next ih => exact fun way => ih way (ht way)

def dirsFor (output : Path) (sources : List Path) : List Path :=
  sources.map fun source => Output.componentDir output (Component.identifierFor source)

theorem endsInName_dirsFor {output : Path} {sources : List Path} : ∀ dir ∈ dirsFor output sources, EndsInName dir := by
  intro dir hdir
  obtain ⟨source, -, rfl⟩ := List.mem_map.1 hdir
  exact endsInName_join _ (Component.isName_identifierFor source)

theorem interleaves_contained {target : Target} (htarget : target ∈ Target.builtin) {props : Option Path}
    {output : Path} {sources : List Path} {s s' : Session} {results : List Result} (h : s.disk.NoLinks)
    (hturns : Interleaves (sources.map (attempt target props output)) s results s') :
    Contained (dirsFor output sources) s.disk s'.disk := by
  refine ends_contained (Q := fun _ => True) endsInName_dirsFor ?_ h (ends_gather_iff.2 hturns)
  refine (Task.Meets.gather (Q := fun _ => True) fun t ht => ?_).mono fun _ _ => trivial
  obtain ⟨source, hsource, rfl⟩ := List.mem_map.1 ht
  have hdir : Output.componentDir output (Component.identifierFor source) ∈ dirsFor output sources :=
    List.mem_map_of_mem hsource
  have hone := (compileOne_orderly target props output source).confined hdir (isOrdinary_entries htarget)
  exact Task.Meets.bind hone fun _ _ => trivial

/-! ## Where it is -/

/-- the directory of a component is the one of its name in `components`, unless the name is a dot or two -/
theorem placeOf_componentDir {d : Disk} (h : d.NoLinks) {output source : Path} {here : Place}
    (hat : d.placeOf (Output.componentDir output (Component.identifierFor source)) = .ok here)
    (hhere : d.entry? here = some .directory) :
    let name := Utf8.encode (Component.identifierFor source)
    ∃ base, d.placeOf (output.join (.ofString "components")) = .ok base ∧ d.entry? base = some .directory ∧
      (IsOrdinary name ∧ here = base ++ [name] ∨ name = dot ∧ here = base ∨ name = dotDot ∧ here = base.dropLast) := by
  intro name
  have hname : IsName name := Component.isName_identifierFor source
  have hend : EndsInName (output.join (.ofString "components")) := endsInName_join output isOrdinary_components.toIsName
  obtain ⟨hcheck, hdir⟩ := directoryAt_of_placeOf h hat hhere
  have hcheckBase := checkPath_of_join hend hname hcheck
  obtain ⟨base, hbase, hdir⟩ := except_bind_eq_ok.1 ((directoryAt_join d hend hname).symm.trans hdir)
  have hbaseDir := entry?_of_reach hbase
  refine ⟨base, placeOf_of_directoryAt h hcheckBase hbase, hbaseDir, ?_⟩
  rw [reach_singleton, stand_of_directory hbaseDir, except_ok_bind] at hdir
  obtain ⟨next, henter, hstand⟩ := except_bind_eq_ok.1 hdir
  obtain ⟨-, rfl⟩ := stand_eq_ok_iff.1 hstand
  rcases enter_eq_ok henter with ⟨hidle, rfl⟩ | ⟨hup, rfl⟩ | ⟨hidle, hup, rfl⟩
  · exact Or.inr (Or.inl ⟨(isIdle_iff.1 hidle).resolve_left hname.nonempty, rfl⟩)
  · exact Or.inr (Or.inr ⟨hup, rfl⟩)
  · exact Or.inl ⟨⟨hname, (not_isIdle_iff.1 hidle).2, hup⟩, rfl⟩

/-- what a run changed at a place is there because of a source: it is a file in the directory of the source's component,
or a directory on the way there that was missing. The directory of the component is the one of its identifier in
`components`, but for the identifiers `.` and `..`, which lead to `components` itself and to the directory above it. -/
def Explained (before after : Disk) (output source : Path) (place : Place) : Prop :=
  let name := Utf8.encode (Component.identifierFor source)
  (∃ base file content, after.placeOf (output.join (.ofString "components")) = .ok base ∧
    after.entry? base = some .directory ∧ after.entry? place = some (.file content) ∧
    (IsOrdinary name ∧ place = base ++ [name, file] ∨ name = dot ∧ place = base ++ [file] ∨
      name = dotDot ∧ place = base.dropLast ++ [file])) ∨
  (before.entry? place = none ∧ after.entry? place = some .directory ∧
    ∃ p ∈ (Output.componentDir output (Component.identifierFor source)).ancestors, after.placeOf p = .ok place)

theorem Belongs.explained {before after : Disk} (h : after.NoLinks) {output source : Path} {place : Place}
    (hbelongs : Belongs (Output.componentDir output (Component.identifierFor source)) before after place) :
    Explained before after output source place := by
  cases hbelongs with
  | directory p hp hbefore hentry hat => exact Or.inr ⟨hbefore, hentry, p, hp, hat⟩
  | file here file content hat hhere hplace hentry =>
    obtain ⟨base, hbase, hbaseDir, hwhere⟩ := placeOf_componentDir h hat hhere
    refine Or.inl ⟨base, file, content, hbase, hbaseDir, hentry, ?_⟩
    rcases hwhere with ⟨hordinary, rfl⟩ | ⟨hdot, rfl⟩ | ⟨hup, rfl⟩
    · exact Or.inl ⟨hordinary, by rw [hplace, List.append_assoc]; rfl⟩
    · exact Or.inr (Or.inl ⟨hdot, hplace⟩)
    · exact Or.inr (Or.inr ⟨hup, hplace⟩)

/-- **Containment.** On a disk without links, a run changes nothing but the directories of the components of its
sources, in whatever way these take turns: a changed file lies in one of them, and a new directory is one of them or was
missing above it. -/
theorem run_contained (s : Session) (h : s.disk.NoLinks) (options : Options) (settings : Settings)
    (result : Except Fault Outcome) (s' : Session) (hrun : s.Ends (run options settings).run result s') :
    let after := s'.disk
    ∀ place, after.entry? place ≠ s.disk.entry? place →
      ∃ output, options.output.or settings.output = some output ∧
        ∃ source ∈ sourcesOf s.disk options, Explained s.disk after output source place := by
  intro after place hchanged
  rcases run_interleaves hrun with ⟨-, hsame⟩ | ⟨-, target, htarget, output, houtput, results, s₁, hturns, hafter, -⟩
  · exact absurd (congrArg (Disk.entry? · place) hsame) hchanged
  · have hcontained := interleaves_contained htarget h hturns
    rw [← hafter] at hcontained
    obtain ⟨dir, hdir, hbelongs⟩ := hcontained.belongs place hchanged
    obtain ⟨source, hsource, rfl⟩ := List.mem_map.1 hdir
    exact ⟨output, houtput, source, hsource, hbelongs.explained hcontained.noLinks⟩

/-- a disk with one source, in a directory `s` -/
def oneSource (name : String) : Disk where
  entries := [([Utf8.encode "s"], .directory), ([Utf8.encode "s", Utf8.encode name], .file (Utf8.encode "<p>x</p>"))]
  workingDir := []

def toReact (name : String) : Options where
  target := some "react"
  source := .ofString ("s/" ++ name)
  output := some (.ofString "o")

def afterCompiling (name : String) : Disk :=
  ((⟨oneSource name, [], "", ""⟩ : Session).run (run (toReact name) ⟨none, none⟩).run).2.disk

theorem oneSource_noLinks (name : String) : (oneSource name).NoLinks :=
  noLinks_of_entries (by simp [oneSource])

/-- a run that writes `o/components/Card/index.tsx` -/
theorem card_contained :
    let place := ["o", "components", "Card", "index.tsx"].map Utf8.encode
    let before := oneSource "card.webc"
    let after := afterCompiling "card.webc"
    after.entry? place ≠ before.entry? place ∧
      ∃ output, (toReact "card.webc").output.or none = some output ∧
        ∃ source ∈ sourcesOf before (toReact "card.webc"), Explained before after output source place := by
  refine ⟨by decide +kernel, ?_⟩
  exact run_contained ⟨oneSource "card.webc", [], "", ""⟩ (oneSource_noLinks _) (toReact "card.webc") ⟨none, none⟩ _ _
    (Session.ends_run _ _) (["o", "components", "Card", "index.tsx"].map Utf8.encode) (by decide +kernel)

/-- a source named by dots writes a file beside `components` -/
theorem dotted_source_escapes :
    let before := oneSource "...webc"
    let after := afterCompiling "...webc"
    let place := ["o", "index.tsx"].map Utf8.encode
    after.placeOf (.ofString "o/components") = .ok (["o", "components"].map Utf8.encode) ∧
      before.entry? place = none ∧ (after.entry? place).isSome := by
  decide +kernel

end ComponentCompiler.Command
