import ComponentCompiler.Proofs.Command.Steps
import ComponentCompiler.Proofs.Discovery
import ComponentCompiler.Proofs.Disk.Ground

/-!
Batches: sources that are compiled side by side.

All components of a batch go to directories in one common directory, the base. What a source changes on the disk beyond
the base lies in its own zone, the places at and below the directory of its name in the base; and it looks at nothing
else that changes. `Sound` says what holds of the disk while the sources of a batch are compiled in any order, and
`Follows` that the disk looks to one source as if the source had been compiled alone. The lemmas after them say that the
steps of a source keep both, for itself and for the others.
-/

namespace ComponentCompiler.Command

open Text ComponentCompiler.Path Disk

/-- the name of the directory of a source's component -/
def nameOf (source : Path) : Name :=
  Utf8.encode (Component.identifierFor source)

/-- discovered sources whose components have distinct ordinary names, the target and the output root that they are
compiled to, and the disk they are on -/
structure Batch where
  disk : Disk
  target : Target
  output : Path
  sources : List Path
  noLinks : disk.NoLinks
  builtin : target ∈ Target.builtin
  found : ∀ source ∈ sources, Discovery.isSource disk source = true
  ordinary : ∀ source ∈ sources, IsOrdinary (nameOf source)
  distinct : (sources.map nameOf).Nodup

namespace Batch

variable {b : Batch}

/-! ## The base -/

/-- the common directory -/
def base (b : Batch) : Path :=
  b.output.join (.ofString "components")

def dir (b : Batch) (source : Path) : Path :=
  Output.componentDir b.output (Component.identifierFor source)

/-- the disk with the base made, or as much of it as can be -/
def ground (b : Batch) : Disk :=
  (b.disk.prepare b.base).2

/-- the place of the base -/
def place (b : Batch) : Place :=
  match b.ground.directoryAt b.base with
  | .ok here => here
  | .error _ => []

/-- a disk on which the base is made, as on the ground -/
structure Ready (b : Batch) (d : Disk) : Prop where
  check : checkPath b.base = .ok ()
  keeps : Keeps b.ground d
  base : d.directoryAt b.base = b.ground.directoryAt b.base

/-- a disk with the base made -/
def lift (b : Batch) (d : Disk) : Disk :=
  (d.prepare b.base).2

/-- the faults that making the base can give -/
def Refused (b : Batch) (fault : Disk.Fault) : Prop :=
  checkPath b.base = .ok () ∧ ((b.disk.prepare b.base).1 = .error fault ∨ b.ground.directoryAt b.base = .error fault)

theorem isBase (b : Batch) : IsBase b.base :=
  isBase_join b.output isOrdinary_components.toIsName isOrdinary_components.not_isIdle

theorem dir_eq (b : Batch) (source : Path) : b.dir source = b.base.join ⟨nameOf source⟩ :=
  rfl

theorem place_of_ok {here : Place} (h : b.ground.directoryAt b.base = .ok here) : b.place = here := by
  rw [place, h]

theorem ready_ground (hcheck : checkPath b.base = .ok ()) : b.Ready b.ground :=
  ⟨hcheck, Keeps.refl _, rfl⟩

theorem prepare_disk (hcheck : checkPath b.base = .ok ()) :
    (b.ground.directoryAt b.base = .ok b.place ∧ b.disk.prepare b.base = (.ok (), b.ground)) ∨
      ∃ fault later, b.disk.prepare b.base = (.error fault, b.ground) ∧ b.ground.directoryAt b.base = .error later ∧
        Blocks fault later := by
  have hsettled := prepare_settled b.noLinks b.isBase hcheck
  have hground : b.disk.prepare b.base = ((b.disk.prepare b.base).1, b.ground) := rfl
  unfold Settled at hsettled
  cases hresult : (b.disk.prepare b.base).1 with
  | ok _ =>
    rw [hresult] at hsettled hground
    obtain ⟨here, hhere⟩ := hsettled
    have hplace := place_of_ok hhere
    exact Or.inl ⟨hplace ▸ hhere, hground⟩
  | error fault =>
    rw [hresult] at hsettled hground
    obtain ⟨later, hlater, hblocks⟩ := hsettled
    exact Or.inr ⟨fault, later, hground, hlater, hblocks⟩

theorem prepare_of_ready {d : Disk} (h : b.Ready d) :
    (b.ground.directoryAt b.base = .ok b.place ∧ d.prepare b.base = (.ok (), d)) ∨
      ∃ fault, b.ground.directoryAt b.base = .error fault ∧ d.prepare b.base = (.error fault, d) := by
  rcases prepare_disk h.check with ⟨hok, -⟩ | ⟨-, later, -, hlater, hmissing, -⟩
  · exact Or.inl ⟨hok, prepare_of_ok (h.base.trans hok)⟩
  · exact Or.inr ⟨later, hlater, prepare_of_blocked (h.base.trans hlater) hmissing⟩

theorem lift_of_ready {d : Disk} (h : b.Ready d) : b.lift d = d := by
  rcases prepare_of_ready h with ⟨-, hprepare⟩ | ⟨fault, -, hprepare⟩ <;> rw [lift, hprepare]

/-- where the base can be made, making it succeeds at any time -/
theorem prepare_ok {d : Disk} (h : d = b.disk ∨ b.Ready d) (hcheck : checkPath b.base = .ok ())
    (hok : b.ground.directoryAt b.base = .ok b.place) : d.prepare b.base = (.ok (), b.lift d) := by
  rcases h with rfl | hready
  · rcases prepare_disk hcheck with ⟨-, hprepare⟩ | ⟨-, later, -, hlater, -⟩
    · exact hprepare
    · cases hok.symm.trans hlater
  · rw [lift_of_ready hready]
    exact prepare_of_ok (hready.base.trans hok)

/-- where it cannot be made, making it fails at any time -/
theorem prepare_refused {d : Disk} (h : d = b.disk ∨ b.Ready d) (hcheck : checkPath b.base = .ok ())
    {later : Disk.Fault} (hlater : b.ground.directoryAt b.base = .error later) :
    ∃ fault, b.Refused fault ∧ d.prepare b.base = (.error fault, b.lift d) := by
  rcases h with rfl | hready
  · rcases prepare_disk hcheck with ⟨hok, -⟩ | ⟨fault, -, hprepare, -⟩
    · cases hlater.symm.trans hok
    · exact ⟨fault, ⟨hcheck, Or.inl (by rw [hprepare])⟩, hprepare⟩
  · rw [lift_of_ready hready]
    rcases prepare_of_ready hready with ⟨hok, -⟩ | ⟨fault, hfault, hprepare⟩
    · cases hlater.symm.trans hok
    · exact ⟨fault, ⟨hcheck, Or.inr hfault⟩, hprepare⟩

theorem ready_lift {d : Disk} (h : d = b.disk ∨ b.Ready d) (hcheck : checkPath b.base = .ok ()) :
    b.Ready (b.lift d) := by
  rcases h with rfl | hready
  · exact ready_ground hcheck
  · rwa [lift_of_ready hready]

/-! ## Zones -/

/-- a place at or below the directory of a source's component -/
def InZone (b : Batch) (source : Path) (place : Place) : Prop :=
  ∃ rest, place = b.place ++ nameOf source :: rest

theorem InZone.ne_nil {source : Path} {place : Place} (h : b.InZone source place) : place ≠ [] := by
  obtain ⟨rest, rfl⟩ := h
  simp

theorem InZone.nameOf_eq {source other : Path} {place : Place} (h : b.InZone source place) (h' : b.InZone other place) :
    nameOf source = nameOf other := by
  obtain ⟨rest, rfl⟩ := h
  obtain ⟨rest', heq⟩ := h'
  exact (List.cons.inj (List.append_cancel_left heq)).1

/-- what holds of the disk while some sources of the batch are compiled -/
structure Sound (b : Batch) (sources : List Path) (d : Disk) : Prop where
  noLinks : d.NoLinks
  stage : d = b.disk ∨ b.Ready d
  keeps : Keeps b.disk d
  /-- sources stay as they are -/
  intact : ∀ place name content, extensionOf? name = some Discovery.sourceExtension →
    b.disk.entry? (place ++ [name]) = some (.file content) → d.entry? (place ++ [name]) = some (.file content)
  /-- beyond the base, only the zones change -/
  around : ∀ place, (∀ source ∈ sources, ¬ b.InZone source place) → entry? (b.lift d) place = b.ground.entry? place

/-- the base is made -/
theorem Sound.lift {sources : List Path} {d : Disk} (h : b.Sound sources d) (hcheck : checkPath b.base = .ok ()) :
    b.Sound sources (b.lift d) := by
  have hgrows : Grows b.base.ancestors d (b.lift d) := prepare_grows h.noLinks b.base
  have hready := ready_lift h.stage hcheck
  refine ⟨hgrows.noLinks, Or.inr hready, h.keeps.trans hgrows.keeps, fun place name content hext hfile => ?_, ?_⟩
  · have hbefore := h.intact place name content hext hfile
    by_contra hchanged
    have hfresh := hgrows.fresh (place ++ [name]) fun heq => hchanged (heq.trans hbefore)
    cases hbefore.symm.trans hfresh.1
  · rw [lift_of_ready hready]
    exact h.around

theorem Ready.put {d : Disk} (h : b.Ready d) (hd : d.NoLinks) (hok : b.ground.directoryAt b.base = .ok b.place)
    {place : Place} {entry : Entry} (hkeeps : Keeps d (d.put place entry)) : b.Ready (d.put place entry) where
  check := h.check
  keeps := h.keeps.trans hkeeps
  base := (hkeeps.directoryAt hd (h.base.trans hok)).trans hok.symm

/-- an entry can come to a place: directories stay, no link comes in, and no source is replaced -/
structure Admits (d : Disk) (place : Place) (entry : Entry) : Prop where
  keeps : Keeps d (d.put place entry)
  noLinks : NoLinks (d.put place entry)
  foreign : ∀ front name, place = front ++ [name] → extensionOf? name = some Discovery.sourceExtension →
    d.entry? place = none

theorem admits_directory {d : Disk} (hd : d.NoLinks) {place : Place} (hnil : place ≠ [])
    (hnone : d.entry? place = none) :
    Admits d place .directory where
  keeps := keeps_put_vacant hnil hnone _
  noLinks := noLinks_put hd hnil (by simp)
  foreign := fun _ _ _ _ => hnone

theorem admits_file {d : Disk} (hd : d.NoLinks) {here : Place} {name : Name}
    (hplace : d.entry? (here ++ [name]) ≠ some .directory) (hext : extensionOf? name ≠ some Discovery.sourceExtension)
    (content : List UInt8) : Admits d (here ++ [name]) (.file content) where
  keeps := keeps_put_file hd (by simp) hplace content
  noLinks := noLinks_put hd (by simp) (by simp)
  foreign := fun front last heq hlast => by
    obtain ⟨-, hname⟩ := List.append_inj' heq rfl
    exact absurd ((List.singleton_inj.1 hname).symm ▸ hlast) hext

/-- an entry of a source is put in its zone -/
theorem Sound.put {sources : List Path} {d : Disk} (h : b.Sound sources d) (hready : b.Ready d)
    (hok : b.ground.directoryAt b.base = .ok b.place) {source : Path} (hsource : source ∈ sources) {place : Place}
    (hzone : b.InZone source place) {entry : Entry} (hadmits : Admits d place entry) :
    b.Sound sources (d.put place entry) := by
  have hready' := hready.put h.noLinks hok hadmits.keeps
  refine ⟨hadmits.noLinks, Or.inr hready', h.keeps.trans hadmits.keeps, fun front name content hext hfile => ?_,
    fun other hother => ?_⟩
  · have hbefore := h.intact front name content hext hfile
    have hne : front ++ [name] ≠ place := by
      rintro rfl
      cases hbefore.symm.trans (hadmits.foreign front name rfl hext)
    rw [entry?_put hzone.ne_nil, if_neg hne, hbefore]
  · have haround := h.around other hother
    have hne : other ≠ place := by
      rintro rfl
      exact hother source hsource hzone
    rw [lift_of_ready hready] at haround
    rw [lift_of_ready hready', entry?_put hzone.ne_nil, if_neg hne, haround]

/-! ## Alone and among others -/

/-- to a source, a disk looks like another one: the base is made if it is made there, and the zone is the same -/
structure Follows (b : Batch) (d alone : Disk) (source : Path) : Prop where
  ready : b.Ready alone → b.Ready d
  zone : ∀ place, b.InZone source place → entry? (b.lift d) place = entry? (b.lift alone) place

theorem Follows.refl (b : Batch) (d : Disk) (source : Path) : b.Follows d d source :=
  ⟨id, fun _ _ => rfl⟩

theorem Follows.lift_left {d alone : Disk} {source : Path} (h : b.Follows d alone source)
    (hstage : d = b.disk ∨ b.Ready d) (hcheck : checkPath b.base = .ok ()) : b.Follows (b.lift d) alone source := by
  have hready := ready_lift hstage hcheck
  refine ⟨fun _ => hready, fun place hplace => ?_⟩
  rw [lift_of_ready hready]
  exact h.zone place hplace

theorem Follows.lift_right {d alone : Disk} {source : Path} (h : b.Follows d alone source) (hready : b.Ready d)
    (hstage : alone = b.disk ∨ b.Ready alone) (hcheck : checkPath b.base = .ok ()) :
    b.Follows d (b.lift alone) source := by
  refine ⟨fun _ => hready, fun place hplace => ?_⟩
  rw [lift_of_ready (ready_lift hstage hcheck)]
  exact h.zone place hplace

/-- the same entry is put on both disks -/
theorem Follows.put {d alone : Disk} {source : Path} (h : b.Follows d alone source) {place : Place} {entry : Entry}
    (hnil : place ≠ []) (hd : b.Ready d) (halone : b.Ready alone) (hd' : b.Ready (d.put place entry))
    (halone' : b.Ready (alone.put place entry)) : b.Follows (d.put place entry) (alone.put place entry) source := by
  refine ⟨fun _ => hd', fun other hother => ?_⟩
  have hzone := h.zone other hother
  rw [lift_of_ready hd, lift_of_ready halone] at hzone
  rw [lift_of_ready hd', lift_of_ready halone', entry?_put hnil, entry?_put hnil, hzone]

/-- an entry is put in the zone of another source -/
theorem Follows.put_other {d alone : Disk} {source other : Path} (h : b.Follows d alone source)
    (hne : nameOf source ≠ nameOf other) {place : Place} (hzone : b.InZone other place) {entry : Entry} (hd : b.Ready d)
    (hd' : b.Ready (d.put place entry)) : b.Follows (d.put place entry) alone source := by
  refine ⟨fun _ => hd', fun inside hinside => ?_⟩
  have hsame := h.zone inside hinside
  have hplace : inside ≠ place := by
    rintro rfl
    exact hne (hinside.nameOf_eq hzone)
  rw [lift_of_ready hd] at hsame
  rw [lift_of_ready hd', entry?_put hzone.ne_nil, if_neg hplace, hsame]

end Batch

end ComponentCompiler.Command
