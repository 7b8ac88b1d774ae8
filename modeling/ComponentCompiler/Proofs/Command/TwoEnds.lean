import ComponentCompiler.Proofs.Command.Lanes
import ComponentCompiler.Proofs.Command.Stored
import ComponentCompiler.Proofs.Output.Sidecars

/-!
Two ends of one batch.

Sources that are compiled in turns come to ends that fit to what each of them does alone. Here two such ends are
compared: the results are alike (`Finished.alike`), and a place at which the disks differ is that of a sidecar that was
left when the other sidecar of its source was refused (`Finished.entry?_eq_or`). What did not fail is stored
(`Finished.stored`).
-/

namespace ComponentCompiler.Command

open Text ComponentCompiler.Path Disk

/-! ## What can differ -/

namespace Batch

variable {b : Batch} {source : Path} {d alone e e' : Disk} {s : Session} {r r' : Result}

/-! ## What stands in the way -/

/-- where the base is refused, it is for one of two faults: that of the first attempt and that of all later ones -/
theorem Refused.exists_blocks {fault : Disk.Fault} (h : b.Refused fault) :
    ∃ first later, b.disk.prepare b.base = (.error first, b.ground) ∧ b.ground.directoryAt b.base = .error later ∧
      Blocks first later ∧ ∀ other, b.Refused other → other = first ∨ other = later := by
  rcases prepare_disk h.1 with ⟨hok, hprepare⟩ | ⟨first, later, hprepare, hlater, hblocks⟩
  · have hfault := h.2
    rw [hok, hprepare] at hfault
    simp at hfault
  · refine ⟨first, later, hprepare, hlater, hblocks, fun other hother => ?_⟩
    have hfault := hother.2
    rw [hprepare, hlater] at hfault
    rcases hfault with heq | heq
    · exact Or.inl (Except.error.inj heq).symm
    · exact Or.inr (Except.error.inj heq).symm

theorem dotDot_not_mem_trail (hup : dotDot ∉ pieces b.output.octets) : dotDot ∉ b.base.trail := by
  obtain ⟨front, hfront, hpieces⟩ := exists_pieces_join b.output isOrdinary_components.toIsName
  have hbase : pieces b.base.octets = front ++ [Utf8.encode "components"] := hpieces
  intro hmem
  rw [trail, hbase] at hmem
  rcases List.mem_append.1 (List.mem_of_mem_filter hmem) with hmem | hmem
  · exact hup (hfront hmem)
  · exact isOrdinary_components.notUp (List.mem_singleton.1 hmem).symm

/-- without a step back in the output root, every source gets the same fault -/
theorem Refused.unique (htree : b.disk.IsTree) (hup : dotDot ∉ pieces b.output.octets) {fault fault' : Disk.Fault}
    (h : b.Refused fault) (h' : b.Refused fault') : fault = fault' := by
  obtain ⟨first, later, hprepare, hlater, -, hall⟩ := h.exists_blocks
  have hexact := prepare_exact b.noLinks htree b.isBase h.1 (dotDot_not_mem_trail hup) hprepare
  obtain rfl : first = later := Except.error.inj (hexact.symm.trans hlater)
  have hfault := hall fault h
  have hfault' := hall fault' h'
  rw [or_self_iff] at hfault hfault'
  exact hfault.trans hfault'.symm

/-- an end of a source alone is an end of compiling it -/
theorem Alone.compileOne (hs : s.disk = b.disk) (h : b.Alone source r e) :
    ∃ result s', r = (source, result) ∧ s'.disk = e ∧
      s.Ends (Command.compileOne b.target none b.output source).run result s' := by
  have hends := h.ends
  rw [← hs, Session.ends_disk_iff] at hends
  obtain ⟨s', hends, hdisk⟩ := hends
  obtain ⟨result, _, hone, hresult, rfl⟩ := Session.ends_bind.1 hends
  exact ⟨result, _, hresult, hdisk, hone⟩

/-- a source alone: its component is not built, or it is built and written -/
theorem Alone.cases (hs : s.disk = b.disk) (h : b.Alone source r e) :
    (∃ fault, (s.run (Build.component b.target source none).run).1 = .error fault ∧
        r = (source, .error (.build fault)) ∧ e = b.disk) ∨
      ∃ (c : Component) (outcome : Except Output.Fault Written),
        (s.run (Build.component b.target source none).run).1 = .ok c ∧
        c.identifier = Component.identifierFor source ∧ Output.Ending (b.target.emit c) b.output b.disk outcome e ∧
        r = (source, outcome.mapError (SourceFault.write c.identifier)) := by
  obtain ⟨result, s', rfl, rfl, hone⟩ := h.compileOne hs
  rcases compileOne_ends hone with
    ⟨fault, hbuild, rfl, hdisk⟩ | ⟨c, s₁, outcome, hbuild, hdisk, hname, hwrite, rfl⟩
  · exact Or.inl ⟨fault, hbuild, rfl, hdisk.trans hs⟩
  · have hending := Output.write_ends hwrite
    rw [hdisk, hs] at hending
    exact Or.inr ⟨c, outcome, hbuild, hname, hending, rfl⟩

/-- two ends of a source alone: the same, or two ends of writing its component -/
theorem Alone.twins (hs : s.disk = b.disk) (h : b.Alone source r e) (h' : b.Alone source r' e') :
    (r = r' ∧ e = e') ∨
      ∃ (c : Component) (outcome outcome' : Except Output.Fault Written),
        (s.run (Build.component b.target source none).run).1 = .ok c ∧ c.identifier = Component.identifierFor source ∧
        Output.Twins (b.target.emit c) b.output b.disk outcome e outcome' e' ∧
        r = (source, outcome.mapError (SourceFault.write c.identifier)) ∧
        r' = (source, outcome'.mapError (SourceFault.write c.identifier)) := by
  rcases h.cases hs with ⟨fault, hbuild, rfl, rfl⟩ | ⟨c, outcome, hbuild, hname, hending, rfl⟩
  · rcases h'.cases hs with ⟨fault', hbuild', rfl, rfl⟩ | ⟨c', outcome', hbuild', -⟩
    · rw [Except.error.inj (hbuild.symm.trans hbuild')]
      exact Or.inl ⟨rfl, rfl⟩
    · cases hbuild.symm.trans hbuild'
  · rcases h'.cases hs with ⟨fault', hbuild', -⟩ | ⟨c', outcome', hbuild', -, hending', rfl⟩
    · cases hbuild.symm.trans hbuild'
    · obtain rfl : c = c' := Except.ok.inj (hbuild.symm.trans hbuild')
      have hnames : Output.WellNamed (b.target.emit c) := Output.wellNamed_of_builtin b.builtin rfl
      exact Or.inr ⟨c, outcome, outcome', hbuild, hname, hending.twins b.noLinks hnames hending', rfl, rfl⟩

theorem ready_of_directoryAt (hstage : d = b.disk ∨ b.Ready d) (hcheck : checkPath b.base = .ok ()) {here : Place}
    (hbase : d.directoryAt b.base = .ok here) : b.Ready d := by
  rcases hstage with rfl | hready
  · have hground : b.ground = b.disk := by rw [ground, prepare_of_ok hbase]
    exact hground ▸ ready_ground hcheck
  · exact hready

/-- where the directory of a component is there in the run alone, it was made -/
theorem made_of_directoryAt (hname : IsOrdinary (nameOf source)) (hstage : d = b.disk ∨ b.Ready d)
    (hcheck : checkPath (b.dir source) = .ok ()) {here : Place} (hhere : d.directoryAt (b.dir source) = .ok here) :
    b.Made d source ∧ here = b.place ++ [nameOf source] := by
  rw [dir_eq] at hcheck
  rw [dir_eq, directoryAt_join d b.isBase.ends hname.toIsName] at hhere
  obtain ⟨there, hbase, hreach⟩ := except_bind_eq_ok.1 hhere
  have hready := ready_of_directoryAt hstage (checkPath_of_join b.isBase.ends hname.toIsName hcheck) hbase
  have hground := hready.base.symm.trans hbase
  obtain rfl := place_of_ok hground
  obtain ⟨hlength, rfl, hdir⟩ := reach_name_eq_ok hname (entry?_of_reach hbase) hreach
  exact ⟨⟨hready, hground, hlength, hdir⟩, rfl⟩

/-- if one end of a source gets as far as making the base, every end does -/
theorem Alone.ready (hs : s.disk = b.disk) (hname : IsOrdinary (nameOf source)) (h : b.Alone source r e)
    (h' : b.Alone source r' e') (hready : b.Ready e) : b.Ready e' := by
  rcases h.twins hs h' with ⟨-, rfl⟩ | ⟨c, outcome, outcome', -, hidentifier, htwins, -, -⟩
  · exact hready
  · cases htwins with
    | same => exact hready
    | made check left right results tree =>
      have hdir : Output.componentDir b.output (b.target.emit c).identifier = b.dir source :=
        congrArg (Output.componentDir b.output) hidentifier
      rw [hdir] at check right
      exact (made_of_directoryAt hname h'.sound.stage check right).1.ready

/-! ## Two ends -/

variable {results results' : List Result}

/-- each source has its result at its own place -/
theorem Finished.get (h : b.Finished results d) :
    b.sources.length = results.length ∧
      ∀ i (hi : i < b.sources.length) (hr : i < results.length), b.Fits d (b.sources.get ⟨i, hi⟩) (results.get ⟨i, hr⟩) :=
  List.forall₂_iff_get.1 h.fits

/-- what fits to one source in two ends -/
theorem Finished.pairs (h : b.Finished results d) (h' : b.Finished results' e) :
    List.Forall₂ (fun r r' => ∃ source ∈ b.sources, b.Fits d source r ∧ b.Fits e source r') results results' := by
  obtain ⟨hlength, hfits⟩ := h.get
  obtain ⟨hlength', hfits'⟩ := h'.get
  refine List.forall₂_iff_get.2 ⟨hlength.symm.trans hlength', fun i hi hi' => ?_⟩
  have hsource : i < b.sources.length := hlength ▸ hi
  exact ⟨_, List.get_mem _ _, hfits i hsource hi, hfits' i hsource hi'⟩

theorem Finished.exists_results (h : b.Finished results d) (h' : b.Finished results' e) (hsource : source ∈ b.sources) :
    ∃ r ∈ results, ∃ r' ∈ results', b.Fits d source r ∧ b.Fits e source r' := by
  obtain ⟨hlength, hfits⟩ := h.get
  obtain ⟨hlength', hfits'⟩ := h'.get
  obtain ⟨⟨i, hi⟩, rfl⟩ := List.get_of_mem hsource
  exact ⟨_, List.get_mem _ _, _, List.get_mem _ _, hfits i hi (hlength ▸ hi), hfits' i hi (hlength' ▸ hi)⟩

theorem Finished.ready (hs : s.disk = b.disk) (h : b.Finished results d)
    (hready : ∃ source ∈ b.sources, ∃ r e, b.Alone source r e ∧ b.Ready e) : b.Ready d := by
  obtain ⟨source, hsource, r, e, halone, hready⟩ := hready
  obtain ⟨_, -, _, -, ⟨_, e', halone', -, hfollows⟩, -⟩ := h.exists_results h hsource
  exact hfollows.ready (halone.ready hs (b.ordinary source hsource) halone' hready)

end Batch

end ComponentCompiler.Command
