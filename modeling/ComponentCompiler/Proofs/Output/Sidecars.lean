import Mathlib.Data.List.Nodup
import ComponentCompiler.Proofs.Output.Storage

/-!
Two ends of writing one artifact.

The stylesheet and the script are written at once, so writing the same artifact on the same disk can end in more than
one way. Whether one of the two is refused depends on its own place only, and not on the other one
(`Stores.refused_iff`); so if none is refused the order makes no difference. If one is, it is refused in every order,
and what can differ is whether the other one is there; if both are, it is the one that the fault names. `Ending.twins`
says so.
-/

namespace ComponentCompiler

open Text ComponentCompiler.Path

namespace Disk

variable {d e : Disk} {dir : Path} {here : Place} {file : String × String} {reason : Fault}

/-- whether and why a file is refused depends on its directory and its place only -/
theorem refused_iff (hd : d.NoLinks) (he : e.NoLinks) (hdir : dir.octets ≠ []) (hfile : IsOrdinary (Utf8.encode file.1))
    (hhere : d.directoryAt dir = .ok here) (hhere' : e.directoryAt dir = .ok here)
    (hentry : e.entry? (filePlace here file) = d.entry? (filePlace here file)) :
    e.writeText (dir.join (.ofString file.1)) file.2 = .error reason ↔
      d.writeText (dir.join (.ofString file.1)) file.2 = .error reason := by
  have hentry' : e.entry? (here ++ [Utf8.encode file.1]) = d.entry? (here ++ [Utf8.encode file.1]) := hentry
  rw [Path.ofString, writeText, writeText, write_join hd hdir hfile, write_join he hdir hfile, hhere, hhere']
  cases checkPath (dir.join ⟨Utf8.encode file.1⟩) with
  | error fault => rfl
  | ok _ =>
    simp only [except_ok_bind]
    by_cases hlong : (Utf8.encode file.1).length > maxName
    · rw [nameIn, if_pos hlong]
      rfl
    · rw [nameIn, if_neg hlong, except_ok_bind, except_ok_bind, fill, fill, hentry']
      split_ifs
      · rfl
      · -- both are written
        constructor <;> intro hrefused <;> cases hrefused

theorem Stores.refused_iff {files : List (String × String)} (h : Stores here files d e) (hd : d.NoLinks)
    (hdir : dir.octets ≠ []) (hfile : IsOrdinary (Utf8.encode file.1)) (hhere : d.directoryAt dir = .ok here)
    (hother : Utf8.encode file.1 ∉ files.map fun file => Utf8.encode file.1) :
    e.writeText (dir.join (.ofString file.1)) file.2 = .error reason ↔
      d.writeText (dir.join (.ofString file.1)) file.2 = .error reason := by
  refine Disk.refused_iff hd h.noLinks hdir hfile hhere (h.keeps.directoryAt hd hhere)
    (h.around _ fun other hmem heq => ?_)
  have hname : Utf8.encode file.1 = Utf8.encode other.1 := by simpa [filePlace] using heq
  exact hother (hname ▸ List.mem_map_of_mem hmem)

/-- files that were written one after the other could each have been the first -/
theorem Writes.accepted {files : List (String × String)} (h : Writes dir files d e) (hd : d.NoLinks)
    (hdir : dir.octets ≠ []) (hhere : d.directoryAt dir = .ok here)
    (hnames : ∀ file ∈ files, IsOrdinary (Utf8.encode file.1))
    (hnodup : (files.map fun file => Utf8.encode file.1).Nodup) (hmem : file ∈ files) :
    ∃ after, d.writeText (dir.join (.ofString file.1)) file.2 = .ok after := by
  obtain ⟨before, rest, rfl⟩ := List.append_of_mem hmem
  obtain ⟨middle, hbefore, after, hwrite, -⟩ := writes_append.1 h
  rw [List.map_append, List.map_cons, List.nodup_middle, List.nodup_cons, List.mem_append, not_or] at hnodup
  obtain ⟨⟨hfresh, -⟩, hnodup⟩ := hnodup
  obtain ⟨hstores, -⟩ := writes_store hd hdir hhere (fun other hother => hnames other (List.mem_append_left _ hother))
    hnodup.of_append_left hbefore
  cases hfirst : d.writeText (dir.join (.ofString file.1)) file.2 with
  | ok first => exact ⟨first, rfl⟩
  | error reason =>
    have hrefused := (hstores.refused_iff hd hdir (hnames file hmem) hhere hfresh).2 hfirst
    cases hwrite.symm.trans hrefused

/-- a file is at its place with its text, or what was there before -/
def Pending (d : Disk) (here : Place) (file : String × String) (e : Disk) : Prop :=
  e.entry? (filePlace here file) = d.entry? (filePlace here file) ∨
    e.entry? (filePlace here file) = some (.file (Utf8.encode file.2))

end Disk

namespace Output

open Disk Command

variable {artifact : Artifact} {root dir : Path} {d e e' plain : Disk} {here : Place}

/-! ## One end -/

/-- one of some files is refused, as it would have been in the beginning, and some that could be written are -/
structure Torn (dir : Path) (here : Place) (files : List (String × String)) (d : Disk) (file : String × String)
    (reason : Disk.Fault) (written : List (String × String)) (e : Disk) : Prop where
  mem : file ∈ files
  refused : d.writeText (dir.join (.ofString file.1)) file.2 = .error reason
  part : written ⊆ files
  accepted : ∀ other ∈ written, ∃ after, d.writeText (dir.join (.ofString other.1)) other.2 = .ok after
  stores : Stores here written d e

theorem Refused.torn {files : List (String × String)} {fault : Fault} (h : Refused dir files d fault e) (hd : d.NoLinks)
    (hdir : dir.octets ≠ []) (hhere : d.directoryAt dir = .ok here)
    (hnames : ∀ file ∈ files, IsOrdinary (Utf8.encode file.1))
    (hnodup : (files.map fun file => Utf8.encode file.1).Nodup) :
    ∃ file reason written, fault = .writeText (dir.join (.ofString file.1)) reason ∧
      Torn dir here files d file reason written e := by
  obtain ⟨part, before, refused, after⟩ := h
  rename_i done late file middle reason
  obtain ⟨hmem, hrest⟩ := List.cons_subset.1 part.subset
  have hdone := (List.append_subset.1 hrest).1
  obtain ⟨sub, hperm, hsub⟩ := part
  have hdistinct := (hperm.map fun file => Utf8.encode file.1).nodup_iff.1 (hnodup.sublist (hsub.map _))
  rw [List.map_cons, List.nodup_cons, List.map_append] at hdistinct
  obtain ⟨hfresh, hdistinct⟩ := hdistinct
  have hwrites : Writes dir (done ++ late) d e := writes_append.2 ⟨middle, before, after⟩
  have hordinary : ∀ other ∈ done ++ late, IsOrdinary (Utf8.encode other.1) := fun other hother =>
    hnames other (hrest hother)
  obtain ⟨hbefore, -⟩ := writes_store hd hdir hhere (fun other hother => hnames other (hdone hother))
    hdistinct.of_append_left before
  rw [← List.map_append] at hdistinct
  refine ⟨file, reason, done ++ late, rfl, hmem, ?_, hrest, fun other hother => ?_, ?_⟩
  · have hapart : Utf8.encode file.1 ∉ done.map fun file => Utf8.encode file.1 :=
      fun hin => hfresh (List.mem_append_left _ hin)
    exact (hbefore.refused_iff hd hdir (hnames file hmem) hhere hapart).1 refused
  · exact hwrites.accepted hd hdir hhere hordinary hdistinct hother
  · exact (writes_store hd hdir hhere hordinary hdistinct hwrites).1

/-! ## Two ends -/

def refusal (root : Path) (identifier : String) (file : String × String) (reason : Disk.Fault) : Except Fault Written :=
  .error (.writeText ((componentDir root identifier).join (.ofString file.1)) reason)

/-- two ends of writing an artifact on the same disk: the same, or both after the directory was made and the source
written, and then the same but for what depends on which of two sidecars was served first when one is refused -/
inductive Twins (artifact : Artifact) (root : Path) (d : Disk) :
    Except Fault Written → Disk → Except Fault Written → Disk → Prop
  | same (r : Except Fault Written) (e : Disk) : Twins artifact root d r e r e
  | made {r r' : Except Fault Written} {e e' : Disk} {here : Place}
      (check : checkPath (componentDir root artifact.identifier) = .ok ())
      (left : e.directoryAt (componentDir root artifact.identifier) = .ok here)
      (right : e'.directoryAt (componentDir root artifact.identifier) = .ok here)
      (results : r = r' ∨ ∃ file ∈ sidecars artifact, ∃ file' ∈ sidecars artifact, file.1 ≠ file'.1 ∧
        ∃ reason reason', r = refusal root artifact.identifier file reason ∧
          r' = refusal root artifact.identifier file' reason')
      (tree : ∀ place, e.entry? place = e'.entry? place ∨ ∃ file ∈ sidecars artifact, ∃ other ∈ sidecars artifact,
        other.1 ≠ file.1 ∧ (∃ reason, r = refusal root artifact.identifier file reason ∧ r' = r) ∧
          place = filePlace here other ∧ Pending d here other e ∧ Pending d here other e') :
      Twins artifact root d r e r' e'

/-- the directory and the source are there -/
structure Started (artifact : Artifact) (root : Path) (d plain : Disk) (here : Place) : Prop where
  noLinks : plain.NoLinks
  check : checkPath (componentDir root artifact.identifier) = .ok ()
  directory : plain.directoryAt (componentDir root artifact.identifier) = .ok here
  /-- where a sidecar can be written, nothing has changed yet -/
  beside : ∀ file ∈ sidecars artifact, plain.entry? (filePlace here file) ≠ some .directory →
    plain.entry? (filePlace here file) = d.entry? (filePlace here file)

theorem started_of_outset (hlinks : d.NoLinks) (hnames : WellNamed artifact) (h : outset artifact root d = .ok plain) :
    ∃ here, Started artifact root d plain here := by
  have hdir := componentDir_ne_nil root artifact.identifier
  obtain ⟨made, hmake, hsource⟩ := outset_eq_ok h
  have hgrows : Grows (componentDir root artifact.identifier).ancestors d _ := makeChain_grows hlinks _
  rw [show d.makeChain (componentDir root artifact.identifier).ancestors = _ from hmake] at hgrows
  obtain ⟨hcheck, here, hhere⟩ := (isDirectory_iff hgrows.noLinks _).1 (isDirectory_of_makeDirs hlinks hdir hmake)
  have hone : Writes (componentDir root artifact.identifier) [(artifact.files.component, artifact.source)] made plain :=
    ⟨plain, hsource, rfl⟩
  obtain ⟨hfresh, -⟩ := List.nodup_cons.1 hnames.distinct
  obtain ⟨hname, -⟩ := List.forall_mem_cons.1 hnames.ordinary
  obtain ⟨hstores, -⟩ := writes_store hgrows.noLinks hdir hhere (by simpa using hname) (by simp) hone
  refine ⟨here, hstores.noLinks, hcheck, hstores.keeps.directoryAt hgrows.noLinks hhere,
    fun file hfile hdirectory => ?_⟩
  have hapart : ∀ source ∈ [(artifact.files.component, artifact.source)],
      filePlace here file ≠ filePlace here source := by
    intro source hmem heq
    obtain rfl := List.mem_singleton.1 hmem
    have hname : Utf8.encode file.1 = Utf8.encode artifact.files.component := by simpa [filePlace] using heq
    exact hfresh (List.mem_map.2 ⟨file, hfile, hname⟩)
  rw [hstores.around _ hapart] at hdirectory ⊢
  by_contra hchanged
  -- what is new is a directory
  exact hdirectory (hgrows.fresh _ hchanged).2.1

theorem name_of_mem_sidecars {file : String × String} (h : file ∈ sidecars artifact) :
    file.1 = artifact.files.styles ∨ file.1 = artifact.files.script := by
  rcases List.mem_append.1 h with h | h <;> simp only [Option.mem_toList, Option.map_eq_some_iff] at h <;>
    obtain ⟨text, -, rfl⟩ := h
  · exact Or.inl rfl
  · exact Or.inr rfl

section Sidecars

variable {file file' : String × String} {reason reason' : Disk.Fault} {written written' : List (String × String)}

theorem WellNamed.eq_of_name (h : WellNamed artifact) (hfile : file ∈ sidecars artifact)
    (hfile' : file' ∈ sidecars artifact) (hname : file.1 = file'.1) : file = file' :=
  List.inj_on_of_nodup_map h.distinct (List.mem_cons_of_mem _ hfile) (List.mem_cons_of_mem _ hfile')
    (congrArg Utf8.encode hname)

/-- a file that is written is not the one that is refused, in whatever end -/
theorem Torn.name_ne (h : Torn dir here (sidecars artifact) plain file reason written e)
    (h' : Torn dir here (sidecars artifact) plain file' reason' written' e') (hnames : WellNamed artifact)
    {other : String × String} (hother : other ∈ written) : other.1 ≠ file'.1 := by
  intro hname
  obtain rfl := hnames.eq_of_name (h.part hother) h'.mem hname
  obtain ⟨_, haccepted⟩ := h.accepted other hother
  cases haccepted.symm.trans h'.refused

/-- of two sidecars the one that is not refused is there or not -/
theorem Torn.pending
    (h : Torn (componentDir root artifact.identifier) here (sidecars artifact) plain file reason written e)
    (hstarted : Started artifact root d plain here) (hnames : WellNamed artifact) {other : String × String}
    (hother : other ∈ sidecars artifact)
    (haccepted : ∃ after, plain.writeText ((componentDir root artifact.identifier).join (.ofString other.1)) other.2 =
      .ok after) : Pending d here other e := by
  by_cases hin : ∃ found ∈ written, filePlace here other = filePlace here found
  · obtain ⟨found, hfound, heq⟩ := hin
    have hname : Utf8.encode other.1 = Utf8.encode found.1 := by simpa [filePlace] using heq
    obtain rfl := hnames.eq_of_name hother (h.part hfound) (Utf8.encode_injective hname)
    exact Or.inr (h.stores.inside other hfound)
  · left
    rw [h.stores.around _ fun found hfound heq => hin ⟨found, hfound, heq⟩]
    obtain ⟨after, hafter⟩ := haccepted
    obtain ⟨there, -, hthere, -, hplace, -⟩ := writeText_put hstarted.noLinks (componentDir_ne_nil _ _)
      (hnames.ordinary other (List.mem_cons_of_mem _ hother)) hafter
    obtain rfl : here = there := Except.ok.inj (hstarted.directory.symm.trans hthere)
    exact hstarted.beside other hother hplace

theorem Torn.twins
    (h : Torn (componentDir root artifact.identifier) here (sidecars artifact) plain file reason written e)
    (h' : Torn (componentDir root artifact.identifier) here (sidecars artifact) plain file' reason' written' e')
    (hstarted : Started artifact root d plain here) (hnames : WellNamed artifact) :
    Twins artifact root d (refusal root artifact.identifier file reason) e
      (refusal root artifact.identifier file' reason') e' := by
  -- one file is refused for one reason
  have hsame : file.1 = file'.1 →
      refusal root artifact.identifier file' reason' = refusal root artifact.identifier file reason := by
    intro hname
    obtain rfl := hnames.eq_of_name h.mem h'.mem hname
    obtain rfl : reason = reason' := Except.error.inj (h.refused.symm.trans h'.refused)
    rfl
  refine .made hstarted.check (h.stores.keeps.directoryAt hstarted.noLinks hstarted.directory)
    (h'.stores.keeps.directoryAt hstarted.noLinks hstarted.directory) ?_ fun place => ?_
  · by_cases hname : file.1 = file'.1
    · exact Or.inl (hsame hname).symm
    · exact Or.inr ⟨file, h.mem, file', h'.mem, hname, reason, reason', rfl, rfl⟩
  by_cases hin : ∃ other, (other ∈ written ∨ other ∈ written') ∧ place = filePlace here other
  · obtain ⟨other, hother, rfl⟩ := hin
    obtain ⟨hmem, haccepted, hne, hne'⟩ : other ∈ sidecars artifact ∧
        (∃ after, plain.writeText ((componentDir root artifact.identifier).join (.ofString other.1)) other.2 =
          .ok after) ∧ other.1 ≠ file.1 ∧ other.1 ≠ file'.1 := by
      rcases hother with hother | hother
      · exact ⟨h.part hother, h.accepted other hother, h.name_ne h hnames hother, h.name_ne h' hnames hother⟩
      · exact ⟨h'.part hother, h'.accepted other hother, h'.name_ne h hnames hother, h'.name_ne h' hnames hother⟩
    -- there are two names, so the same file is refused in both ends
    have hname : file.1 = file'.1 := by
      rcases name_of_mem_sidecars h.mem with hfile | hfile <;>
        rcases name_of_mem_sidecars h'.mem with hfile' | hfile' <;>
        rcases name_of_mem_sidecars hmem with hthis | hthis <;> simp_all
    refine Or.inr ⟨file, h.mem, other, hmem, hne, ⟨reason, rfl, hsame hname⟩, rfl, ?_, ?_⟩
    · exact h.pending hstarted hnames hmem haccepted
    · exact h'.pending hstarted hnames hmem haccepted
  · left
    rw [h.stores.around place fun other hother heq => hin ⟨other, Or.inl hother, heq⟩,
      h'.stores.around place fun other hother heq => hin ⟨other, Or.inr hother, heq⟩]

end Sidecars

/-- the same files are put on the same disk -/
theorem Stores.entry?_eq {files : List (String × String)} (h : Stores here files d e) (h' : Stores here files d e')
    (place : Place) : e.entry? place = e'.entry? place := by
  by_cases hin : ∃ file ∈ files, place = filePlace here file
  · obtain ⟨file, hfile, rfl⟩ := hin
    rw [h.inside file hfile, h'.inside file hfile]
  · have hout : ∀ file ∈ files, place ≠ filePlace here file := fun file hfile heq => hin ⟨file, hfile, heq⟩
    rw [h.around place hout, h'.around place hout]

/-- the sidecars have good names, in whatever order they come -/
theorem WellNamed.of_perm {files : List (String × String)} (h : WellNamed artifact)
    (hperm : files.Perm (sidecars artifact)) :
    (∀ file ∈ files, IsOrdinary (Utf8.encode file.1)) ∧ (files.map fun file => Utf8.encode file.1).Nodup := by
  have hdistinct : ((sidecars artifact).map fun file => Utf8.encode file.1).Nodup := (List.nodup_cons.1 h.distinct).2
  refine ⟨fun file hfile => ?_, (hperm.map _).nodup_iff.2 hdistinct⟩
  exact h.ordinary file (List.mem_cons_of_mem _ (hperm.subset hfile))

section Started

variable {files : List (String × String)} {fault : Fault} (hstarted : Started artifact root d plain here)
  (hnames : WellNamed artifact)

include hstarted hnames

theorem Started.torn (h : Refused (componentDir root artifact.identifier) (sidecars artifact) plain fault e) :
    ∃ file reason written, fault = .writeText ((componentDir root artifact.identifier).join (.ofString file.1)) reason ∧
      Torn (componentDir root artifact.identifier) here (sidecars artifact) plain file reason written e := by
  obtain ⟨hordinary, hdistinct⟩ := hnames.of_perm (List.Perm.refl _)
  exact h.torn hstarted.noLinks (componentDir_ne_nil _ _) hstarted.directory hordinary hdistinct

/-- where all sidecars are written, the order does not matter -/
theorem Started.stores (hperm : files.Perm (sidecars artifact))
    (hwrites : Writes (componentDir root artifact.identifier) files plain e) :
    Stores here (sidecars artifact) plain e := by
  obtain ⟨hordinary, hdistinct⟩ := hnames.of_perm hperm
  obtain ⟨hstores, -⟩ :=
    writes_store hstarted.noLinks (componentDir_ne_nil _ _) hstarted.directory hordinary hdistinct hwrites
  exact hstores.perm hperm

/-- where all sidecars are written in one order, none is refused in another -/
theorem Started.not_refused (hperm : files.Perm (sidecars artifact))
    (hwrites : Writes (componentDir root artifact.identifier) files plain e) :
    ¬ Refused (componentDir root artifact.identifier) (sidecars artifact) plain fault e' := by
  intro hrefused
  obtain ⟨hordinary, hdistinct⟩ := hnames.of_perm hperm
  obtain ⟨file, reason, written, -, htorn⟩ := hstarted.torn hnames hrefused
  obtain ⟨_, haccepted⟩ := hwrites.accepted hstarted.noLinks (componentDir_ne_nil _ _) hstarted.directory hordinary
    hdistinct (hperm.symm.subset htorn.mem)
  cases haccepted.symm.trans htorn.refused

end Started

/-- **Two ends of writing an artifact on one disk.** They are the same, but for the case that a sidecar is refused. -/
theorem Ending.twins {r r' : Except Fault Written} (hlinks : d.NoLinks) (hnames : WellNamed artifact)
    (h : Ending artifact root d r e) (h' : Ending artifact root d r' e') : Twins artifact root d r e r' e' := by
  -- both ends go on from one disk, or neither gets as far as the sidecars
  cases h with
  | early start =>
    cases h' with
    | early start' =>
      cases start.symm.trans start'
      exact .same _ _
    | torn start' _ => cases start.symm.trans start'
    | whole start' _ _ => cases start.symm.trans start'
  | torn start refused =>
    obtain ⟨here, hstarted⟩ := started_of_outset hlinks hnames start
    cases h' with
    | early start' => cases start.symm.trans start'
    | torn start' refused' =>
      cases start.symm.trans start'
      obtain ⟨file, reason, written, rfl, htorn⟩ := hstarted.torn hnames refused
      obtain ⟨file', reason', written', rfl, htorn'⟩ := hstarted.torn hnames refused'
      exact htorn.twins htorn' hstarted hnames
    | whole start' perm' writes' =>
      cases start.symm.trans start'
      exact absurd refused (hstarted.not_refused hnames perm' writes')
  | whole start perm writes =>
    obtain ⟨here, hstarted⟩ := started_of_outset hlinks hnames start
    cases h' with
    | early start' => cases start.symm.trans start'
    | torn start' refused' =>
      cases start.symm.trans start'
      exact absurd refused' (hstarted.not_refused hnames perm writes)
    | whole start' perm' writes' =>
      cases start.symm.trans start'
      have hstores := hstarted.stores hnames perm writes
      have hstores' := hstarted.stores hnames perm' writes'
      exact .made hstarted.check (hstores.keeps.directoryAt hstarted.noLinks hstarted.directory)
        (hstores'.keeps.directoryAt hstarted.noLinks hstarted.directory) (Or.inl rfl)
        fun place => Or.inl (Stores.entry?_eq hstores hstores' place)

end Output

end ComponentCompiler
