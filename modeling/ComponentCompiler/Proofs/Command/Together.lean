import ComponentCompiler.Proofs.Command.Batch

/-!
One request on two disks.

A source of a batch is compiled among others on one disk, and alone on another one that looks the same to it. The
requests that change a disk do the same on both (`makeDirs_together`, `write_together`): they get the same answer, and
the disks still look the same to the source, with nothing changed for the others. Only where the base cannot be made the
two answers can be different faults.
-/

namespace ComponentCompiler.Command.Batch

open Text ComponentCompiler.Path Disk

variable {b : Batch} {source : Path} {d alone e single : Disk}

/-! ## Changes -/

/-- a change of the disk that keeps it sound and that no other source notices -/
structure Effect (b : Batch) (source : Path) (d e : Disk) : Prop where
  sound : ∀ sources, source ∈ sources → b.Sound sources d → b.Sound sources e
  others : ∀ other alone, nameOf other ≠ nameOf source → b.Follows d alone other → b.Follows e alone other
  ready : b.Ready d → b.Ready e

theorem Effect.refl (b : Batch) (source : Path) (d : Disk) : b.Effect source d d :=
  ⟨fun _ _ h => h, fun _ _ _ h => h, id⟩

theorem Effect.trans {source : Path} {d e f : Disk} (h : b.Effect source d e) (h' : b.Effect source e f) :
    b.Effect source d f where
  sound := fun sources hmem hd => h'.sound sources hmem (h.sound sources hmem hd)
  others := fun other alone hne hd => h'.others other alone hne (h.others other alone hne hd)
  ready := fun hd => h'.ready (h.ready hd)

theorem effect_lift (hstage : d = b.disk ∨ b.Ready d) (hcheck : checkPath b.base = .ok ()) (source : Path) :
    b.Effect source d (b.lift d) where
  sound := fun _ _ h => h.lift hcheck
  others := fun _ _ _ h => h.lift_left hstage hcheck
  ready := fun _ => ready_lift hstage hcheck

theorem effect_put (hd : d.NoLinks) (hready : b.Ready d) (hok : b.ground.directoryAt b.base = .ok b.place)
    {place : Place} (hzone : b.InZone source place) {entry : Entry} (hadmits : Admits d place entry) :
    b.Effect source d (d.put place entry) where
  sound := fun _ hmem h => h.put hready hok hmem hzone hadmits
  others := fun _ _ hne h => h.put_other hne hzone hready (hready.put hd hok hadmits.keeps)
  ready := fun _ => hready.put hd hok hadmits.keeps

/-- one source changes two disks in step, the one it shares with others and its own -/
structure Together (b : Batch) (source : Path) (d alone e single : Disk) : Prop where
  shared : b.Effect source d e
  own : b.Effect source alone single
  follows : b.Follows e single source
  touched : e = d ∨ b.Ready single

theorem Together.refl (h : b.Follows d alone source) : b.Together source d alone d alone :=
  ⟨Effect.refl b source d, Effect.refl b source alone, h, Or.inl rfl⟩

theorem Together.trans {f last : Disk} (h : b.Together source d alone e single)
    (h' : b.Together source e single f last) :
    b.Together source d alone f last where
  shared := h.shared.trans h'.shared
  own := h.own.trans h'.own
  follows := h'.follows
  touched := by
    rcases h.touched with rfl | hready
    · exact h'.touched
    · exact Or.inr (h'.own.ready hready)

theorem together_lift (hd : d = b.disk ∨ b.Ready d) (halone : alone = b.disk ∨ b.Ready alone)
    (hcheck : checkPath b.base = .ok ()) (h : b.Follows d alone source) :
    b.Together source d alone (b.lift d) (b.lift alone) where
  shared := effect_lift hd hcheck source
  own := effect_lift halone hcheck source
  follows := (h.lift_left hd hcheck).lift_right (ready_lift hd hcheck) halone hcheck
  touched := Or.inr (ready_lift halone hcheck)

theorem together_put (hd : d.NoLinks) (halone : alone.NoLinks) (hready : b.Ready d) (hown : b.Ready alone)
    (hok : b.ground.directoryAt b.base = .ok b.place) {place : Place} (hzone : b.InZone source place) {entry : Entry}
    (hadmits : Admits d place entry) (hadmits' : Admits alone place entry) (h : b.Follows d alone source) :
    b.Together source d alone (d.put place entry) (alone.put place entry) := by
  have hready' := hready.put hd hok hadmits.keeps
  have hown' := hown.put halone hok hadmits'.keeps
  exact ⟨effect_put hd hready hok hzone hadmits, effect_put halone hown hok hzone hadmits',
    h.put hzone.ne_nil hready hown hready' hown', Or.inr hown'⟩

/-! ## The directory of a component -/

/-- the directory of the component of a source is made -/
structure Made (b : Batch) (d : Disk) (source : Path) : Prop where
  ready : b.Ready d
  base : b.ground.directoryAt b.base = .ok b.place
  fits : (nameOf source).length ≤ maxName
  entry : d.entry? (b.place ++ [nameOf source]) = some .directory

theorem inZone_dir (b : Batch) (source : Path) : b.InZone source (b.place ++ [nameOf source]) :=
  ⟨[], rfl⟩

theorem Follows.same_entry (h : b.Follows d alone source) (hd : b.Ready d) (halone : b.Ready alone) {place : Place}
    (hplace : b.InZone source place) : d.entry? place = alone.entry? place := by
  have hzone := h.zone place hplace
  rwa [lift_of_ready hd, lift_of_ready halone] at hzone

theorem Made.of_follows (hmade : b.Made alone source) (h : b.Follows d alone source) : b.Made d source := by
  have hready := h.ready hmade.ready
  exact ⟨hready, hmade.base, hmade.fits, (h.same_entry hready hmade.ready (b.inZone_dir source)).trans hmade.entry⟩

theorem Made.directoryAt (h : b.Made d source) (hname : IsOrdinary (nameOf source)) :
    d.directoryAt (b.dir source) = .ok (b.place ++ [nameOf source]) := by
  have hbase := h.ready.base.trans h.base
  rw [dir_eq, directoryAt_join d b.isBase.ends hname.toIsName, hbase, except_ok_bind]
  exact reach_name hname.not_isIdle hname.notUp h.fits (entry?_of_reach hbase) h.entry

theorem Made.put {place : Place} {entry : Entry} (h : b.Made d source) (hd : d.NoLinks)
    (hadmits : Admits d place entry) :
    b.Made (d.put place entry) source where
  ready := h.ready.put hd h.base hadmits.keeps
  base := h.base
  fits := h.fits
  entry := hadmits.keeps.directory _ h.entry

/-- two faults of one source, alone and among others: the same, or both in the way of the base -/
def SameFault (b : Batch) (fault fault' : Disk.Fault) : Prop :=
  fault = fault' ∨ b.Refused fault ∧ b.Refused fault'

/-- the name of a component gets its place in the base on both disks, or on none -/
theorem own_together (hd : d.NoLinks) (halone : alone.NoLinks) (hready : b.Ready d) (hown : b.Ready alone)
    (hok : b.ground.directoryAt b.base = .ok b.place) (h : b.Follows d alone source) :
    (∃ fault, d.own b.place (nameOf source) = (.error fault, d) ∧
      alone.own b.place (nameOf source) = (.error fault, alone)) ∨
      ∃ e single, d.own b.place (nameOf source) = (.ok (), e) ∧ alone.own b.place (nameOf source) = (.ok (), single) ∧
        b.Made single source ∧ b.Together source d alone e single := by
  have hzone := b.inZone_dir source
  have hentry := h.same_entry hready hown hzone
  unfold own
  by_cases hlong : (nameOf source).length > maxName
  · exact Or.inl ⟨.nameTooLong, if_pos hlong, if_pos hlong⟩
  have hfits := Nat.not_lt.1 hlong
  rw [if_neg hlong, if_neg hlong, hentry]
  cases halready : alone.entry? (b.place ++ [nameOf source]) with
  | none =>
    have hadmits := admits_directory hd hzone.ne_nil (hentry.trans halready)
    have hadmits' := admits_directory halone hzone.ne_nil halready
    refine Or.inr ⟨_, _, rfl, rfl, ⟨hown.put halone hok hadmits'.keeps, hok, hfits, ?_⟩,
      together_put hd halone hready hown hok hzone hadmits hadmits' h⟩
    rw [entry?_put hzone.ne_nil, if_pos rfl]
  | some entry =>
    cases entry with
    | directory => exact Or.inr ⟨d, alone, rfl, rfl, ⟨hown, hok, hfits, halready⟩, Together.refl h⟩
    | file content => exact Or.inl ⟨.alreadyExists, rfl, rfl⟩
    | link target => exact Or.inl ⟨.alreadyExists, rfl, rfl⟩

/-! ## Requests -/

/-- the directory of a component is made on both disks, or on none -/
theorem makeDirs_together (hname : IsOrdinary (nameOf source)) (hd : b.Sound b.sources d)
    (halone : b.Sound [source] alone) (h : b.Follows d alone source) :
    (∃ fault fault' e single, d.makeDirs (b.dir source) = (.error fault, e) ∧
        alone.makeDirs (b.dir source) = (.error fault', single) ∧ b.SameFault fault fault' ∧
        b.Together source d alone e single) ∨
      ∃ e single, d.makeDirs (b.dir source) = (.ok (), e) ∧ alone.makeDirs (b.dir source) = (.ok (), single) ∧
        b.Made single source ∧ b.Together source d alone e single := by
  rw [dir_eq]
  cases hcheck : checkPath (b.base.join ⟨nameOf source⟩) with
  | error fault =>
    exact Or.inl ⟨fault, fault, d, alone, makeDirs_unchecked hd.noLinks b.isBase hname hcheck,
      makeDirs_unchecked halone.noLinks b.isBase hname hcheck, Or.inl rfl, Together.refl h⟩
  | ok _ =>
    have hbase := checkPath_of_join b.isBase.ends hname.toIsName hcheck
    have hlift := together_lift hd.stage halone.stage hbase h
    have hready := ready_lift hd.stage hbase
    have hown := ready_lift halone.stage hbase
    rw [makeDirs_join hd.noLinks b.isBase hname hcheck, makeDirs_join halone.noLinks b.isBase hname hcheck]
    cases hat : b.ground.directoryAt b.base with
    | error later =>
      -- the first attempt and the later ones can give different faults, and the disks need not be at the same one
      obtain ⟨fault, hfault, hprepare⟩ := prepare_refused hd.stage hbase hat
      obtain ⟨fault', hfault', hprepare'⟩ := prepare_refused halone.stage hbase hat
      rw [hprepare, hprepare']
      exact Or.inl ⟨fault, fault', _, _, rfl, rfl, Or.inr ⟨hfault, hfault'⟩, hlift⟩
    | ok here =>
      obtain rfl := place_of_ok hat
      have hlinks := (hd.lift hbase).noLinks
      have hlinks' := (halone.lift hbase).noLinks
      rw [prepare_ok hd.stage hbase hat, prepare_ok halone.stage hbase hat]
      simp only [settle_join hlinks b.isBase.ends hname hcheck (hready.base.trans hat),
        settle_join hlinks' b.isBase.ends hname hcheck (hown.base.trans hat)]
      rcases own_together hlinks hlinks' hready hown hat hlift.follows with
        ⟨fault, hfault, hfault'⟩ | ⟨e, single, he, hsingle, hmade, htogether⟩
      · exact Or.inl ⟨fault, fault, _, _, hfault, hfault', Or.inl rfl, hlift⟩
      · exact Or.inr ⟨e, single, he, hsingle, hmade, hlift.trans htogether⟩

/-- no file of a component looks like a source -/
theorem extensionOf?_entries {target : Target} (h : target ∈ Target.builtin) :
    ∀ name ∈ target.files.entries, extensionOf? name ≠ some Discovery.sourceExtension := by
  have hall : ∀ target ∈ Target.builtin, ∀ name ∈ target.files.entries,
      extensionOf? name ≠ some Discovery.sourceExtension := by decide +kernel
  exact hall target h

theorem inZone_file (b : Batch) (source : Path) (file : Name) :
    b.InZone source (b.place ++ [nameOf source] ++ [file]) :=
  ⟨[file], by simp⟩

/-- a file of a component is written on both disks, or on none -/
theorem write_together (hname : IsOrdinary (nameOf source)) (hd : d.NoLinks) (halone : alone.NoLinks)
    (h : b.Follows d alone source) (hmade : b.Made alone source) {file : Name} (hfile : file ∈ b.target.files.entries)
    (text : String) :
    (∃ fault, d.writeText ((b.dir source).join ⟨file⟩) text = .error fault ∧
        alone.writeText ((b.dir source).join ⟨file⟩) text = .error fault) ∨
      ∃ e single, d.writeText ((b.dir source).join ⟨file⟩) text = .ok e ∧
        alone.writeText ((b.dir source).join ⟨file⟩) text = .ok single ∧ b.Made single source ∧
        b.Together source d alone e single := by
  have hordinary := isOrdinary_entries b.builtin file hfile
  have hext := extensionOf?_entries b.builtin file hfile
  have hend : EndsInName (b.dir source) := b.dir_eq source ▸ endsInName_join b.base hname.toIsName
  have hmade' := hmade.of_follows h
  have hzone := b.inZone_file source file
  have hentry := h.same_entry hmade'.ready hmade.ready hzone
  rw [writeText, writeText, write_join hd hend.1 hordinary, write_join halone hend.1 hordinary, hmade.directoryAt hname,
    hmade'.directoryAt hname]
  cases checkPath ((b.dir source).join ⟨file⟩) with
  | error fault => exact Or.inl ⟨fault, rfl, rfl⟩
  | ok _ =>
    simp only [except_ok_bind]
    by_cases hlong : file.length > maxName
    · rw [nameIn, if_pos hlong]
      exact Or.inl ⟨.nameTooLong, rfl, rfl⟩
    rw [nameIn, if_neg hlong, except_ok_bind, except_ok_bind, fill, fill, hentry]
    by_cases hdir : alone.entry? (b.place ++ [nameOf source] ++ [file]) = some .directory
    · exact Or.inl ⟨.isADirectory, if_pos hdir, if_pos hdir⟩
    · have hvacant : d.entry? (b.place ++ [nameOf source] ++ [file]) ≠ some .directory := by rwa [hentry]
      have hadmits := admits_file hd hvacant hext (Utf8.encode text)
      have hadmits' := admits_file halone hdir hext (Utf8.encode text)
      exact Or.inr ⟨_, _, if_neg hdir, if_neg hdir, hmade.put halone hadmits',
        together_put hd halone hmade'.ready hmade.ready hmade.base hzone hadmits hadmits' h⟩

end ComponentCompiler.Command.Batch
