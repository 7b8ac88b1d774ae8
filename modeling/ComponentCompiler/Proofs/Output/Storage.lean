import Mathlib.Data.List.Perm.Subperm
import ComponentCompiler.Proofs.Command.Steps
import ComponentCompiler.Proofs.Disk.MakeDirs
import ComponentCompiler.Proofs.Output.Plan

/-!
What an artifact leaves on a disk.

Writing an artifact can end in three ways (`Ending`, `write_ends`): it comes to nothing but its directory; its
stylesheet or its script is refused, with the other one written before, written afterwards or not at all; or everything
is written. Files that are put into one directory have their texts then, and nothing else is changed (`Stores`,
`writes_store`). Where the directory and the files are there with their texts already, no end of writing them once more
changes anything (`Ending.again`). `write_reads_back` says both of writing an artifact below any output root, and under
any identifier: also one that is empty, that starts at the root or that steps back.
-/

namespace ComponentCompiler

open Text ComponentCompiler.Path

/-- the files that were written -/
def Written.files (written : Written) : List Path :=
  written.component :: (written.styles.toList ++ written.script.toList)

namespace Disk

/-! ## The text of a file -/

/-- a file of a directory has a text -/
def Holds (d : Disk) (dir : Path) (file : Name) (text : String) : Prop :=
  d.lookup (dir.join ⟨file⟩) = .ok (.file (Utf8.encode text))

variable {d e : Disk} {dir : Path} {file : Name} {text : String}

theorem writeText_put (h : d.NoLinks) (hdir : dir.octets ≠ []) (hfile : IsOrdinary file)
    (hwrite : d.writeText (dir.join ⟨file⟩) text = .ok e) :
    ∃ here, checkPath (dir.join ⟨file⟩) = .ok () ∧ d.directoryAt dir = .ok here ∧ file.length ≤ maxName ∧
      d.entry? (here ++ [file]) ≠ some .directory ∧ e = d.put (here ++ [file]) (.file (Utf8.encode text)) := by
  rw [writeText, write_join h hdir hfile] at hwrite
  obtain ⟨_, hcheck, hwrite⟩ := except_bind_eq_ok.1 hwrite
  obtain ⟨here, hhere, hwrite⟩ := except_bind_eq_ok.1 hwrite
  obtain ⟨place, hplace, hfill⟩ := except_bind_eq_ok.1 hwrite
  obtain ⟨hfits, rfl⟩ := nameIn_eq_ok_iff.1 hplace
  obtain ⟨hdir, rfl⟩ := fill_eq_ok_iff.1 hfill
  exact ⟨here, hcheck, hhere, hfits, hdir, rfl⟩

theorem holds_iff (h : d.NoLinks) (hdir : dir.octets ≠ []) (hfile : IsOrdinary file) :
    d.Holds dir file text ↔ checkPath (dir.join ⟨file⟩) = .ok () ∧ ∃ here, d.directoryAt dir = .ok here ∧
      file.length ≤ maxName ∧ d.entry? (here ++ [file]) = some (.file (Utf8.encode text)) := by
  rw [Holds, lookup_join h hdir hfile]
  constructor
  · intro hlookup
    obtain ⟨_, hcheck, hlookup⟩ := except_bind_eq_ok.1 hlookup
    obtain ⟨here, hhere, hlookup⟩ := except_bind_eq_ok.1 hlookup
    obtain ⟨place, hplace, hlook⟩ := except_bind_eq_ok.1 hlookup
    obtain ⟨hfits, rfl⟩ := nameIn_eq_ok_iff.1 hplace
    refine ⟨hcheck, here, hhere, hfits, ?_⟩
    unfold look at hlook
    split at hlook
    · next entry hentry => rw [hentry, Except.ok.inj hlook]
    · cases hlook
  · rintro ⟨hcheck, here, hhere, hfits, hentry⟩
    rw [hcheck, except_ok_bind, hhere, except_ok_bind, nameIn, if_neg (Nat.not_lt.2 hfits), except_ok_bind,
      look, hentry]

/-! ## The same disk again -/

theorem SameTree.refl (d : Disk) : SameTree d d :=
  ⟨rfl, fun _ => rfl⟩

theorem SameTree.trans {d e f : Disk} (h : SameTree d e) (h' : SameTree e f) : SameTree d f :=
  ⟨h.workingDir.trans h'.workingDir, fun place => (h.entry place).trans (h'.entry place)⟩

theorem SameTree.keeps {d e : Disk} (h : SameTree d e) : Keeps d e where
  workingDir := h.workingDir.symm
  directory := fun place hplace => (h.entry place).symm.trans hplace
  file := fun place content hplace => ⟨content, (h.entry place).symm.trans hplace⟩

theorem SameTree.noLinks {d e : Disk} (h : SameTree d e) (hd : d.NoLinks) : e.NoLinks :=
  fun place target hlink => hd place target ((h.entry place).trans hlink)

/-- what is there already can be put there -/
theorem sameTree_put {d : Disk} {place : Place} {entry : Entry} (hne : place ≠ []) (h : d.entry? place = some entry) :
    SameTree d (d.put place entry) := by
  refine ⟨rfl, fun other => ?_⟩
  rw [entry?_put hne]
  split_ifs with heq
  · rw [heq, h]
  · rfl

theorem Holds.of_sameTree (h : d.Holds dir file text) (hd : d.NoLinks) (hdir : dir.octets ≠ [])
    (hfile : IsOrdinary file) (hsame : SameTree d e) : e.Holds dir file text := by
  obtain ⟨hcheck, here, hhere, hfits, hentry⟩ := (holds_iff hd hdir hfile).1 h
  refine (holds_iff (hsame.noLinks hd) hdir hfile).2 ⟨hcheck, here, hsame.keeps.directoryAt hd hhere, hfits, ?_⟩
  rw [← hsame.entry, hentry]

/-- a text that a file has can be written once more -/
theorem Holds.writeText_again (h : d.Holds dir file text) (hd : d.NoLinks) (hdir : dir.octets ≠ [])
    (hfile : IsOrdinary file) :
    ∃ e, d.writeText (dir.join ⟨file⟩) text = .ok e ∧ SameTree d e := by
  obtain ⟨hcheck, here, hhere, hfits, hentry⟩ := (holds_iff hd hdir hfile).1 h
  refine ⟨d.put (here ++ [file]) (.file (Utf8.encode text)), ?_, sameTree_put (by simp) hentry⟩
  rw [writeText, write_join hd hdir hfile, hcheck, except_ok_bind, hhere, except_ok_bind,
    nameIn_eq_ok_iff.2 ⟨hfits, rfl⟩, except_ok_bind]
  exact fill_eq_ok_iff.2 ⟨by simp [hentry], rfl⟩

theorem Holds.placeOf (h : d.Holds dir file text) (hd : d.NoLinks) (hdir : dir.octets ≠ []) (hfile : IsOrdinary file)
    {here : Place} (hhere : d.directoryAt dir = .ok here) : d.placeOf (dir.join ⟨file⟩) = .ok (here ++ [file]) := by
  obtain ⟨hcheck, there, hthere, hfits, hentry⟩ := (holds_iff hd hdir hfile).1 h
  obtain rfl : here = there := Except.ok.inj (hhere.symm.trans hthere)
  obtain ⟨front, hpieces, hway⟩ := exists_way_join d hdir hfile.toIsName
  rw [placeOf_eq, locate_of_concat hd .find hpieces hfile.not_isIdle hfile.notUp, hway, hcheck, except_ok_bind, hhere,
    except_ok_bind, if_neg (Nat.not_lt.2 hfits), hentry]
  rfl

/-! ## Files in one directory -/

def filePlace (here : Place) (file : String × String) : Place :=
  here ++ [Utf8.encode file.1]

/-- files were put into a directory with their texts, and nothing else was changed -/
structure Stores (here : Place) (files : List (String × String)) (d e : Disk) : Prop where
  keeps : Keeps d e
  noLinks : e.NoLinks
  inside : ∀ file ∈ files, e.entry? (filePlace here file) = some (.file (Utf8.encode file.2))
  around : ∀ place, (∀ file ∈ files, place ≠ filePlace here file) → e.entry? place = d.entry? place

theorem filePlace_ne_nil (here : Place) (file : String × String) : filePlace here file ≠ [] := by
  simp [filePlace]

theorem Stores.cons {here : Place} {file : String × String} {files : List (String × String)} (h : d.NoLinks)
    (hplace : d.entry? (filePlace here file) ≠ some .directory)
    (hfresh : Utf8.encode file.1 ∉ files.map fun file => Utf8.encode file.1)
    (hrest : Stores here files (d.put (filePlace here file) (.file (Utf8.encode file.2))) e) :
    Stores here (file :: files) d e := by
  have hne := filePlace_ne_nil here file
  have hapart : ∀ other ∈ files, filePlace here file ≠ filePlace here other := by
    intro other hother heq
    have hname : Utf8.encode file.1 = Utf8.encode other.1 := by simpa [filePlace] using heq
    exact hfresh (hname ▸ List.mem_map_of_mem hother)
  refine ⟨(keeps_put_file h hne hplace _).trans hrest.keeps, hrest.noLinks, fun other hother => ?_,
    fun place haround => ?_⟩
  · rcases List.mem_cons.1 hother with rfl | hother
    · rw [hrest.around _ hapart, entry?_put hne, if_pos rfl]
    · exact hrest.inside other hother
  · rw [hrest.around place fun other hother => haround other (List.mem_cons_of_mem _ hother), entry?_put hne,
      if_neg (haround file List.mem_cons_self)]

theorem Stores.perm {here : Place} {files others : List (String × String)} (h : Stores here files d e)
    (hperm : files.Perm others) : Stores here others d e :=
  ⟨h.keeps, h.noLinks, fun file hfile => h.inside file (hperm.mem_iff.2 hfile),
    fun place hplace => h.around place fun file hfile => hplace file (hperm.mem_iff.1 hfile)⟩

/-- files are written into a directory, one after the other -/
def Writes (dir : Path) : List (String × String) → Disk → Disk → Prop
  | [], d, e => e = d
  | file :: files, d, e =>
    ∃ middle, d.writeText (dir.join (.ofString file.1)) file.2 = .ok middle ∧ Writes dir files middle e

theorem writes_append {files others : List (String × String)} :
    Writes dir (files ++ others) d e ↔ ∃ middle, Writes dir files d middle ∧ Writes dir others middle e := by
  induction files generalizing d with
  | nil => simp [Writes]
  | cons file files ih =>
    constructor
    · rintro ⟨first, hwrite, hrest⟩
      obtain ⟨middle, hfiles, hothers⟩ := ih.1 hrest
      exact ⟨middle, ⟨first, hwrite, hfiles⟩, hothers⟩
    · rintro ⟨middle, ⟨first, hwrite, hfiles⟩, hothers⟩
      exact ⟨first, hwrite, ih.2 ⟨middle, hfiles, hothers⟩⟩

/-- what is on the disk after files were written into a directory -/
theorem writes_store {here : Place} {files : List (String × String)} (hlinks : d.NoLinks) (hdir : dir.octets ≠ [])
    (hhere : d.directoryAt dir = .ok here) (hnames : ∀ file ∈ files, IsOrdinary (Utf8.encode file.1))
    (hnodup : (files.map fun file => Utf8.encode file.1).Nodup) (h : Writes dir files d e) :
    Stores here files d e ∧ ∀ file ∈ files, e.Holds dir (Utf8.encode file.1) file.2 := by
  induction files generalizing d with
  | nil =>
    obtain rfl : e = d := h
    exact ⟨⟨Keeps.refl _, hlinks, by simp, fun _ _ => rfl⟩, by simp⟩
  | cons file files ih =>
    obtain ⟨middle, hwrite, hrest⟩ := h
    obtain ⟨hname, hnames⟩ := List.forall_mem_cons.1 hnames
    obtain ⟨hfresh, hnodup⟩ := List.nodup_cons.1 hnodup
    obtain ⟨there, hcheck, hthere, hfits, hplace, rfl⟩ := writeText_put hlinks hdir hname hwrite
    obtain rfl : here = there := Except.ok.inj (hhere.symm.trans hthere)
    have hkeeps := keeps_put_file hlinks (filePlace_ne_nil here file) hplace (Utf8.encode file.2)
    obtain ⟨hstores, hholds⟩ := ih (noLinks_put hlinks (filePlace_ne_nil here file) (by simp))
      (hkeeps.directoryAt hlinks hhere) hnames hnodup hrest
    have hall := hstores.cons hlinks hplace hfresh
    refine ⟨hall, List.forall_mem_cons.2 ⟨?_, hholds⟩⟩
    exact (holds_iff hall.noLinks hdir hname).2
      ⟨hcheck, here, hall.keeps.directoryAt hlinks hhere, hfits, hall.inside file List.mem_cons_self⟩

/-- writing files that have their texts already changes nothing -/
theorem Writes.again {files : List (String × String)} (h : Writes dir files d e) (hlinks : d.NoLinks)
    (hdir : dir.octets ≠ []) (hnames : ∀ file ∈ files, IsOrdinary (Utf8.encode file.1))
    (hholds : ∀ file ∈ files, d.Holds dir (Utf8.encode file.1) file.2) : SameTree d e := by
  induction files generalizing d with
  | nil =>
    obtain rfl : e = d := h
    exact SameTree.refl e
  | cons file files ih =>
    obtain ⟨middle, hwrite, hrest⟩ := h
    obtain ⟨hname, hnames⟩ := List.forall_mem_cons.1 hnames
    obtain ⟨hfile, hholds⟩ := List.forall_mem_cons.1 hholds
    obtain ⟨again, hagain, hsame⟩ := hfile.writeText_again hlinks hdir hname
    obtain rfl : again = middle := Except.ok.inj (hagain.symm.trans hwrite)
    refine hsame.trans (ih hrest (hsame.noLinks hlinks) hnames fun other hother => ?_)
    exact (hholds other hother).of_sameTree hlinks hdir (hnames other hother) hsame

end Disk

namespace Output

open Disk Command

/-! ## How writing can end -/

/-- one of some files is refused, and others of them are written, before it or after it -/
inductive Refused (dir : Path) (files : List (String × String)) (d : Disk) : Fault → Disk → Prop
  | intro {done late : List (String × String)} {file : String × String} {middle e : Disk} {reason : Disk.Fault}
      (part : (file :: (done ++ late)).Subperm files) (before : Writes dir done d middle)
      (refused : middle.writeText (dir.join (.ofString file.1)) file.2 = .error reason)
      (after : Writes dir late middle e) :
      Refused dir files d (.writeText (dir.join (.ofString file.1)) reason) e

/-- the disk with the directory and the source of an artifact, or the fault and the disk where it does not come to
that -/
def outset (artifact : Artifact) (root : Path) (d : Disk) : Except (Fault × Disk) Disk :=
  let dir := componentDir root artifact.identifier
  let component := dir.join (.ofString artifact.files.component)
  match d.makeDirs dir with
  | (.error reason, e) => .error (.makeDirs dir reason, e)
  | (.ok (), made) =>
    match made.writeText component artifact.source with
    | .error reason => .error (.writeText component reason, made)
    | .ok plain => .ok plain

/-- how writing an artifact can end -/
inductive Ending (artifact : Artifact) (root : Path) (d : Disk) : Except Fault Written → Disk → Prop
  | early {fault : Fault} {e : Disk} (start : outset artifact root d = .error (fault, e)) :
      Ending artifact root d (.error fault) e
  | torn {plain e : Disk} {fault : Fault} (start : outset artifact root d = .ok plain)
      (refused : Refused (componentDir root artifact.identifier) (sidecars artifact) plain fault e) :
      Ending artifact root d (.error fault) e
  | whole {plain e : Disk} {files : List (String × String)} (start : outset artifact root d = .ok plain)
      (perm : files.Perm (sidecars artifact)) (writes : Writes (componentDir root artifact.identifier) files plain e) :
      Ending artifact root d (.ok (destination artifact root)) e

theorem outset_eq_ok {artifact : Artifact} {root : Path} {d plain : Disk} (h : outset artifact root d = .ok plain) :
    let dir := componentDir root artifact.identifier
    ∃ made, d.makeDirs dir = (.ok (), made) ∧
      made.writeText (dir.join (.ofString artifact.files.component)) artifact.source = .ok plain := by
  intro dir
  unfold outset at h
  rcases hmake : d.makeDirs dir with ⟨reason | _, made⟩
  · simp only [dir, hmake] at h
    cases h
  · simp only [dir, hmake] at h
    refine ⟨made, rfl, ?_⟩
    cases hsource : made.writeText (dir.join (.ofString artifact.files.component)) artifact.source with
    | error reason =>
      simp only [dir, hsource] at h
      cases h
    | ok written =>
      simp only [dir, hsource] at h
      rw [Except.ok.inj h]

section Ends

variable {s s' : Session} {dir : Path}

theorem makeDirs_ends {result : Except Fault Unit} (h : s.Ends (makeDirs dir).run result s') :
    ∃ answer, s.disk.makeDirs dir = (answer, s'.disk) ∧ result = answer.mapError (Fault.makeDirs dir) := by
  obtain ⟨answer, _, ⟨rfl, rfl⟩, h⟩ := Session.ends_bind.1 h
  rcases hmake : s.disk.makeDirs dir with ⟨reason | made, e⟩ <;> simp only [Session.answer, hmake] at h <;>
    obtain ⟨rfl, rfl⟩ := h <;> exact ⟨_, rfl, rfl⟩

theorem writeFile_ends {path : Path} {text : String} {result : Except Fault Unit}
    (h : s.Ends (writeFile path text).run result s') :
    (result = .ok () ∧ s.disk.writeText path text = .ok s'.disk) ∨
      ∃ reason, result = .error (.writeText path reason) ∧ s.disk.writeText path text = .error reason ∧
        s'.disk = s.disk := by
  obtain ⟨answer, _, ⟨rfl, rfl⟩, h⟩ := Session.ends_bind.1 h
  cases hwrite : s.disk.writeText path text with
  | error reason =>
    simp only [Session.answer, hwrite, Session.update] at h
    obtain ⟨rfl, rfl⟩ := h
    exact Or.inr ⟨reason, rfl, rfl, rfl⟩
  | ok e =>
    simp only [Session.answer, hwrite, Session.update] at h
    obtain ⟨rfl, rfl⟩ := h
    exact Or.inl ⟨rfl, rfl⟩

/-- a file that there may be is written, or refused -/
theorem writeOptional_ends {name : String} {text : Option String} {result : Except Fault (Option Path)}
    (h : s.Ends (writeOptional dir name text).run result s') :
    (result = .ok (text.map fun _ => dir.join (.ofString name)) ∧
        Writes dir (text.map (name, ·)).toList s.disk s'.disk) ∨
      ∃ t reason, text = some t ∧ result = .error (.writeText (dir.join (.ofString name)) reason) ∧
        s.disk.writeText (dir.join (.ofString name)) t = .error reason ∧ s'.disk = s.disk := by
  cases text with
  | none =>
    obtain ⟨rfl, rfl⟩ := h
    exact Or.inl ⟨rfl, rfl⟩
  | some text =>
    rcases Session.ends_bindExcept.1 h with ⟨_, s₁, hwrite, hend⟩ | ⟨fault, rfl, hwrite⟩
    · obtain ⟨rfl, rfl⟩ := hend
      rcases writeFile_ends hwrite with ⟨-, hwrite⟩ | ⟨reason, heq, -⟩
      · exact Or.inl ⟨rfl, _, hwrite, rfl⟩
      · cases heq
    · rcases writeFile_ends hwrite with ⟨heq, -⟩ | ⟨reason, heq, hrefused, hdisk⟩
      · cases heq
      · cases heq
        exact Or.inr ⟨text, reason, rfl, rfl, hrefused, hdisk⟩

variable {name name' : String} {text text' : Option String} {fault : Fault}

/-- one of two files is refused when the first is served first -/
theorem tryInTurn_refused
    (h : s.Ends (Task.tryInTurn (writeOptional dir name text) (writeOptional dir name' text')).run (.error fault) s') :
    Refused dir ((text.map (name, ·)).toList ++ (text'.map (name', ·)).toList) s.disk fault s'.disk := by
  rcases h.tryInTurn with ⟨p, s₁, hfirst, result, hsecond, hresult⟩ | ⟨e, s₁, hfirst, he, hleft⟩
  · rcases writeOptional_ends hfirst with ⟨-, hwrites⟩ | ⟨_, _, -, heq, -⟩
    · rcases writeOptional_ends hsecond with ⟨rfl, -⟩ | ⟨t, reason, rfl, rfl, hrefused, hdisk⟩
      · cases hresult
      · cases hresult
        have hpart : ((name', t) :: ((text.map (name, ·)).toList ++ [])).Subperm
            ((text.map (name, ·)).toList ++ ((some t).map (name', ·)).toList) := by
          rw [List.append_nil]
          exact (List.perm_append_singleton _ _).symm.subperm
        exact (Refused.intro hpart hwrites hrefused hdisk :)
    · cases heq
  · cases he
    rcases writeOptional_ends hfirst with ⟨heq, -⟩ | ⟨t, reason, rfl, heq, hrefused, hdisk⟩
    · cases heq
    · cases heq
      -- the other file is written afterwards, or it is not
      have hlate : Writes dir [] s.disk s'.disk ∨ Writes dir (text'.map (name', ·)).toList s.disk s'.disk := by
        rcases hleft with rfl | ⟨result, hsecond⟩
        · exact Or.inl hdisk
        · rcases writeOptional_ends hsecond with ⟨-, hwrites⟩ | ⟨_, _, -, -, -, hsame⟩
          · exact Or.inr (hdisk ▸ hwrites)
          · exact Or.inl (hsame.trans hdisk)
      rcases hlate with hnone | hwrites
      · have hpart : ((name, t) :: ([] ++ [])).Subperm
            (((some t).map (name, ·)).toList ++ (text'.map (name', ·)).toList) := (List.sublist_append_left _ _).subperm
        exact (Refused.intro hpart rfl hrefused hnone :)
      · have hpart : ((name, t) :: ([] ++ (text'.map (name', ·)).toList)).Subperm
            (((some t).map (name, ·)).toList ++ (text'.map (name', ·)).toList) := (List.Perm.refl _).subperm
        exact (Refused.intro hpart rfl hrefused hwrites :)

theorem Refused.subperm {files others : List (String × String)} {d e : Disk} (h : Refused dir files d fault e)
    (hpart : files.Subperm others) : Refused dir others d fault e := by
  obtain ⟨part, before, refused, after⟩ := h
  exact .intro (part.trans hpart) before refused after

/-- one of two files that are under way at once is refused -/
theorem tryBoth_refused
    (h : s.Ends (Task.tryBoth (writeOptional dir name text) (writeOptional dir name' text')).run (.error fault) s') :
    Refused dir ((text.map (name, ·)).toList ++ (text'.map (name', ·)).toList) s.disk fault s'.disk := by
  rcases h.tryBoth with hturn | ⟨result, hturn, hresult⟩
  · exact tryInTurn_refused hturn
  · cases result with
    | ok both => cases hresult
    | error fault' =>
      cases hresult
      exact (tryInTurn_refused hturn).subperm List.perm_append_comm.subperm

/-- two files that are under way at once are written in one order or the other -/
theorem tryBoth_writes {both : Option Path × Option Path}
    (h : s.Ends (Task.tryBoth (writeOptional dir name text) (writeOptional dir name' text')).run (.ok both) s') :
    both = (text.map fun _ => dir.join (.ofString name), text'.map fun _ => dir.join (.ofString name')) ∧
      ∃ files, files.Perm ((text.map (name, ·)).toList ++ (text'.map (name', ·)).toList) ∧
        Writes dir files s.disk s'.disk := by
  -- a good result leaves one way for each of the two
  have hone {name : String} {text : Option String} {p : Option Path} {s s' : Session}
      (h : s.Ends (writeOptional dir name text).run (.ok p) s') :
      p = (text.map fun _ => dir.join (.ofString name)) ∧ Writes dir (text.map (name, ·)).toList s.disk s'.disk := by
    rcases writeOptional_ends h with ⟨hp, hwrites⟩ | ⟨_, _, -, heq, -⟩
    · exact ⟨Except.ok.inj hp, hwrites⟩
    · cases heq
  obtain ⟨p, p'⟩ := both
  rcases h.tryBoth_ok with ⟨s₁, hfirst, hsecond⟩ | ⟨s₁, hsecond, hfirst⟩
  · obtain ⟨rfl, hwrites⟩ := hone hfirst
    obtain ⟨rfl, hwrites'⟩ := hone hsecond
    exact ⟨rfl, _, List.Perm.refl _, writes_append.2 ⟨_, hwrites, hwrites'⟩⟩
  · obtain ⟨rfl, hwrites⟩ := hone hfirst
    obtain ⟨rfl, hwrites'⟩ := hone hsecond
    exact ⟨rfl, _, List.perm_append_comm, writes_append.2 ⟨_, hwrites', hwrites⟩⟩

/-- writing an artifact ends in one of these ways -/
theorem write_ends {artifact : Artifact} {root : Path} {result : Except Fault Written}
    (h : s.Ends (write artifact root).run result s') : Ending artifact root s.disk result s'.disk := by
  unfold write at h
  rcases Session.ends_bindExcept.1 h with ⟨_, s₁, hmake, h⟩ | ⟨fault, rfl, hmake⟩
  · obtain ⟨answer, hmade, hanswer⟩ := makeDirs_ends hmake
    cases answer with
    | error reason => cases hanswer
    | ok _ =>
      rcases Session.ends_bindExcept.1 h with ⟨_, s₂, hsource, h⟩ | ⟨fault, rfl, hsource⟩
      · rcases writeFile_ends hsource with ⟨-, hsource⟩ | ⟨reason, heq, -⟩
        · have hstart : outset artifact root s.disk = .ok s₂.disk := by simp only [outset, hmade, hsource]
          rcases Session.ends_bindExcept.1 h with ⟨both, s₃, hboth, h⟩ | ⟨fault, rfl, hboth⟩
          · obtain ⟨rfl, files, hperm, hwrites⟩ := tryBoth_writes hboth
            obtain ⟨_, s₄, ⟨-, rfl⟩, rfl, rfl⟩ := Session.ends_bindLift.1 h
            exact .whole hstart hperm hwrites
          · exact .torn hstart (tryBoth_refused hboth)
        · cases heq
      · rcases writeFile_ends hsource with ⟨heq, -⟩ | ⟨reason, heq, hrefused, hdisk⟩
        · cases heq
        · cases heq
          exact .early (by simp only [outset, hmade, hrefused, hdisk])
  · obtain ⟨answer, hmade, hanswer⟩ := makeDirs_ends hmake
    cases answer with
    | error reason =>
      cases hanswer
      exact .early (by simp only [outset, hmade])
    | ok _ => cases hanswer

end Ends

theorem componentDir_ne_nil (root : Path) (identifier : String) : (componentDir root identifier).octets ≠ [] :=
  octets_join_ne_nil (endsInName_join root isOrdinary_components.toIsName).1 _

/-- an artifact whose directory and files are there can be written once more -/
theorem Ending.again {artifact : Artifact} {root : Path} {d e : Disk} {result : Except Fault Written}
    (h : Ending artifact root d result e) (hlinks : d.NoLinks)
    (hdirectory : d.isDirectory (componentDir root artifact.identifier) = true)
    (hnames : ∀ file ∈ texts artifact, IsOrdinary (Utf8.encode file.1))
    (hholds : ∀ file ∈ texts artifact, d.Holds (componentDir root artifact.identifier) (Utf8.encode file.1) file.2) :
    result = .ok (destination artifact root) ∧ SameTree d e := by
  have hdir := componentDir_ne_nil root artifact.identifier
  have hmade := makeDirs_of_isDirectory hlinks hdirectory
  obtain ⟨hname, hnames⟩ := List.forall_mem_cons.1 hnames
  obtain ⟨hfile, hholds⟩ := List.forall_mem_cons.1 hholds
  obtain ⟨plain, hplain, hsame⟩ := hfile.writeText_again hlinks hdir hname
  have hstart : outset artifact root d = .ok plain := by
    rw [outset, hmade]
    simp only [Path.ofString, hplain]
  have hlinks' := hsame.noLinks hlinks
  have hholds' : ∀ file ∈ sidecars artifact,
      plain.Holds (componentDir root artifact.identifier) (Utf8.encode file.1) file.2 := fun file hmem =>
    (hholds file hmem).of_sameTree hlinks hdir (hnames file hmem) hsame
  cases h with
  | early start => cases hstart.symm.trans start
  | torn start refused =>
    cases hstart.symm.trans start
    -- what was written before changed nothing, so the file that was refused has its text
    obtain ⟨part, before, refused, -⟩ := refused
    obtain ⟨hmem, hrest⟩ := List.cons_subset.1 part.subset
    have hdone := (List.append_subset.1 hrest).1
    have hsame' := before.again hlinks' hdir (fun file hfile => hnames file (hdone hfile)) fun file hfile =>
      hholds' file (hdone hfile)
    have hlast := (hholds' _ hmem).of_sameTree hlinks' hdir (hnames _ hmem) hsame'
    obtain ⟨_, hagain, -⟩ := hlast.writeText_again (hsame'.noLinks hlinks') hdir (hnames _ hmem)
    cases hagain.symm.trans refused
  | whole start perm writes =>
    cases hstart.symm.trans start
    refine ⟨rfl, hsame.trans (writes.again hlinks' hdir (fun file hfile => ?_) fun file hfile => ?_)⟩
    · exact hnames file (perm.subset hfile)
    · exact hholds' file (perm.subset hfile)

/-! ## Names of files -/

theorem mem_texts {artifact : Artifact} {file : String × String} (h : file ∈ texts artifact) :
    file = (artifact.files.component, artifact.source) ∨
      (∃ text, artifact.styles = some text ∧ file = (artifact.files.styles, text)) ∨
      ∃ text, artifact.script = some text ∧ file = (artifact.files.script, text) := by
  simp only [texts, sidecars, List.mem_cons, List.mem_append, Option.mem_toList, Option.map_eq_some_iff] at h
  rcases h with rfl | ⟨text, htext, rfl⟩ | ⟨text, htext, rfl⟩
  · exact Or.inl rfl
  · exact Or.inr (Or.inl ⟨text, htext, rfl⟩)
  · exact Or.inr (Or.inr ⟨text, htext, rfl⟩)

theorem texts_sublist (artifact : Artifact) :
    ((texts artifact).map fun file => Utf8.encode file.1).Sublist artifact.files.entries := by
  unfold texts sidecars FileNames.entries
  cases artifact.styles <;> cases artifact.script <;> simp

theorem destination_files (artifact : Artifact) (root : Path) :
    (destination artifact root).files =
      (texts artifact).map fun file => (componentDir root artifact.identifier).join (.ofString file.1) := by
  unfold destination Written.files texts sidecars
  cases artifact.styles <;> cases artifact.script <;> rfl

theorem entries_nodup {target : Target} (h : target ∈ Target.builtin) : target.files.entries.Nodup := by
  have hall : ∀ target ∈ Target.builtin, target.files.entries.Nodup := by decide +kernel
  exact hall target h

/-- the files of an artifact have names that a directory can have side by side -/
structure WellNamed (artifact : Artifact) : Prop where
  ordinary : ∀ file ∈ texts artifact, IsOrdinary (Utf8.encode file.1)
  distinct : ((texts artifact).map fun file => Utf8.encode file.1).Nodup

theorem wellNamed_of_builtin {artifact : Artifact} {target : Target} (htarget : target ∈ Target.builtin)
    (hfiles : artifact.files = target.files) : WellNamed artifact where
  ordinary := fun _ hfile =>
    isOrdinary_entries htarget _ (hfiles ▸ (texts_sublist artifact).subset (List.mem_map_of_mem hfile))
  distinct := (hfiles ▸ entries_nodup htarget).sublist (texts_sublist artifact)

/-- what writing an artifact does to the disk: directories on the way to its own one are made, and then its files are
put there -/
theorem write_stores {s s' : Session} {artifact : Artifact} {root : Path} {written : Written} (hlinks : s.disk.NoLinks)
    (hnames : WellNamed artifact) (h : s.Ends (write artifact root).run (.ok written) s') :
    let dir := componentDir root artifact.identifier
    written = destination artifact root ∧
    ∃ here middle, Grows dir.ancestors s.disk middle ∧ Stores here (texts artifact) middle s'.disk ∧
      s'.disk.isDirectory dir = true ∧ s'.disk.directoryAt dir = .ok here ∧
      ∀ file ∈ texts artifact, s'.disk.Holds dir (Utf8.encode file.1) file.2 := by
  intro dir
  have hne : dir.octets ≠ [] := componentDir_ne_nil root artifact.identifier
  cases write_ends h with
  | whole start perm writes =>
    rename_i plain files
    obtain ⟨made, make, source⟩ := outset_eq_ok start
    have hgrows : Grows dir.ancestors s.disk (s.disk.makeDirs dir).2 := makeChain_grows hlinks dir.ancestors
    rw [make] at hgrows
    obtain ⟨hcheck, here, hhere⟩ := (isDirectory_iff hgrows.noLinks _).1 (isDirectory_of_makeDirs hlinks hne make)
    have hperm : ((artifact.files.component, artifact.source) :: files).Perm (texts artifact) := perm.cons _
    have hall : Writes dir ((artifact.files.component, artifact.source) :: files) made s'.disk :=
      ⟨plain, source, writes⟩
    obtain ⟨hstores, hholds⟩ := writes_store hgrows.noLinks hne hhere
      (fun file hfile => hnames.ordinary file (hperm.subset hfile)) ((hperm.map _).nodup_iff.2 hnames.distinct) hall
    have hhere' := hstores.keeps.directoryAt hgrows.noLinks hhere
    refine ⟨rfl, here, made, hgrows, hstores.perm hperm, ?_, hhere',
      fun file hfile => hholds file (hperm.symm.subset hfile)⟩
    exact (isDirectory_iff hstores.noLinks _).2 ⟨hcheck, here, hhere'⟩

/-- a file that there may be is found with its text, if it is written when there is one -/
theorem map_lookup {d : Disk} {dir : Path} {name : String} {text : Option String}
    (h : ∀ t, text = some t → d.Holds dir (Utf8.encode name) t) :
    (text.map fun _ => dir.join (.ofString name)).map d.lookup = text.map fun t => .ok (.file (Utf8.encode t)) := by
  cases text with
  | none => rfl
  | some t => exact congrArg some (h t rfl)

/-- **What is written reads back, and writing it again changes nothing.** The root and the identifier may be any texts:
with steps back, with slashes, empty. Where writing succeeds, in whatever order the stylesheet and the script came, the
files it names hold the texts octet by octet, and all other files and all directories that were there are as they were.
Writing the same artifact again has no end but the same result and the same tree. -/
theorem write_reads_back {s s' : Session} {artifact : Artifact} {root : Path} {written : Written}
    (hlinks : s.disk.NoLinks) (hfiles : artifact.files ∈ Target.builtin.map Target.files)
    (hwrite : s.Ends (write artifact root).run (.ok written) s') :
    written = destination artifact root ∧
    (s'.disk.lookup written.component = .ok (.file (Utf8.encode artifact.source)) ∧
      written.styles.map s'.disk.lookup = artifact.styles.map (fun text => .ok (.file (Utf8.encode text))) ∧
      written.script.map s'.disk.lookup = artifact.script.map (fun text => .ok (.file (Utf8.encode text)))) ∧
    (∀ place content, s.disk.entry? place = some (.file content) →
      (∀ p ∈ written.files, s'.disk.placeOf p ≠ .ok place) → s'.disk.entry? place = some (.file content)) ∧
    (∀ place, s.disk.entry? place = some .directory → s'.disk.entry? place = some .directory) ∧
    ∀ result s'', s'.Ends (write artifact root).run result s'' → result = .ok written ∧ SameTree s'.disk s''.disk := by
  obtain ⟨target, htarget, hsame⟩ := List.mem_map.1 hfiles
  have hnames := wellNamed_of_builtin htarget hsame.symm
  obtain ⟨rfl, here, middle, hgrows, hstores, hdirectory, hhere, hholds⟩ := write_stores hlinks hnames hwrite
  have hplaces := destination_files artifact root
  refine ⟨rfl, ⟨hholds (artifact.files.component, artifact.source) List.mem_cons_self, ?_, ?_⟩,
    fun place content hentry hother => ?_, fun place hentry => ?_, fun result s'' hagain => ?_⟩
  · apply map_lookup
    intro text htext
    exact hholds (artifact.files.styles, text) (by simp [texts, sidecars, htext])
  · apply map_lookup
    intro text htext
    exact hholds (artifact.files.script, text) (by simp [texts, sidecars, htext])
  · have haround : ∀ file ∈ texts artifact, place ≠ filePlace here file := by
      rintro file hfile rfl
      refine hother _ (hplaces ▸ List.mem_map_of_mem hfile) ?_
      exact (hholds file hfile).placeOf hstores.noLinks (componentDir_ne_nil root artifact.identifier)
        (hnames.ordinary file hfile) hhere
    rw [hstores.around place haround, hgrows.entry?_of_some hentry]
  · exact hstores.keeps.directory place (hgrows.keeps.directory place hentry)
  · exact (write_ends hagain).again hstores.noLinks hdirectory hnames.ordinary hholds

/-- an output root with a file in it -/
def usedRoot : Disk where
  entries := [([Utf8.encode "o"], .directory), ([Utf8.encode "o", Utf8.encode "old.txt"], .file (Utf8.encode "old"))]
  workingDir := []

/-- the same with an identifier that steps back, through a directory that is made for it -/
theorem stepping_back_reads_back :
    let s : Session := ⟨usedRoot, [], "", ""⟩
    let artifact : Artifact := ⟨"x", some "p", none, "a/../B", Target.react.files⟩
    let first := s.run (write artifact (.ofString "o")).run
    let second := first.2.run (write artifact (.ofString "o")).run
    first.1 = .ok (destination artifact (.ofString "o")) ∧
      first.2.disk.lookup (.ofString "o/components/a/../B/index.tsx") = .ok (.file (Utf8.encode "x")) ∧
      first.2.disk.entry? [Utf8.encode "o", Utf8.encode "old.txt"] = some (.file (Utf8.encode "old")) ∧
      second.1 = first.1 ∧ SameTree first.2.disk second.2.disk := by
  intro s artifact first second
  have hlinks : usedRoot.NoLinks := noLinks_of_entries (by simp [usedRoot])
  have hwritten : first.1 = .ok (destination artifact (.ofString "o")) := except_eq_ok (by decide +kernel)
  have hends : s.Ends (write artifact (.ofString "o")).run (.ok (destination artifact (.ofString "o"))) first.2 :=
    Session.ends_of_run hwritten
  obtain ⟨-, ⟨hsource, -, -⟩, hothers, -, hagain⟩ :=
    @write_reads_back s first.2 artifact (.ofString "o") _ hlinks (by decide) hends
  obtain ⟨hresult, hsame⟩ := hagain _ _ (first.2.ends_run _)
  have hpath : (destination artifact (.ofString "o")).component = .ofString "o/components/a/../B/index.tsx" := by
    decide +kernel
  rw [hpath] at hsource
  refine ⟨hwritten, hsource, hothers _ _ (by decide +kernel) fun p hp hplace => ?_, hresult.trans hwritten.symm, hsame⟩
  have hapart : ∀ p ∈ (destination artifact (.ofString "o")).files,
      (first.2.disk.placeOf p).toOption ≠ some [Utf8.encode "o", Utf8.encode "old.txt"] := by decide +kernel
  exact hapart p hp (by rw [hplace]; rfl)

end Output

end ComponentCompiler
