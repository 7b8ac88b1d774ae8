import ComponentCompiler.Proofs.Command.Steps
import ComponentCompiler.Proofs.Interleaving

/-!
A run of the compile command, taken apart.

A run finds its sources (`sourcesFor_run`), and unless it is a dry run or refused, its sources take turns until all are
compiled, and then it tells how many failed (`realRun_interleaves`); it can do so in every way in which they take turns
(`realRun_of_interleaves`). Nothing else in a run touches the disk (`run_interleaves`).
-/

namespace ComponentCompiler.Command

open Text ComponentCompiler.Path

/-! ## What does not touch the disk -/

/-- requests that leave the disk as it is -/
def Quiet : Request → Prop
  | .makeDirs _ => False
  | .writeText _ _ => False
  | _ => True

theorem answer_quiet (s : Session) {request : Request} (h : Quiet request) : (s.answer request).2.disk = s.disk := by
  cases request with
  | makeDirs p => exact h.elim
  | writeText p text => exact h.elim
  | _ => rfl

theorem ends_quiet {α : Type} {Q : α → Prop} {t : Task α} (ht : t.Meets Quiet Q) {s s' : Session} {result : α}
    (h : s.Ends t result s') : s'.disk = s.disk :=
  h.invariant (I := fun s₁ => s₁.disk = s.disk) (fun s₁ _ hrequest hs => (answer_quiet s₁ hrequest).trans hs) ht rfl

theorem quiet_of_reading {source : Path} {props : Option Path} (request : Request) (h : Reading source props request) :
    Quiet request := by
  cases request <;> trivial

theorem preview_quiet (target : Target) (props : Option Path) (source : Path) :
    Task.Meets Quiet (Task.OnOk fun _ => True) (preview target props source).run := by
  unfold preview
  apply Task.Meets.bindExcept (Q := fun _ => True)
  · exact ⟨trivial, fun _ _ _ => trivial⟩
  intro _ _
  apply Task.Meets.bindExcept (((component_meets target source props).imp quiet_of_reading).adapt _)
  intro c _
  exact ⟨trivial, fun _ _ _ => trivial⟩

theorem previews_quiet (target : Target) (props : Option Path) (sources : List Path) :
    Task.Meets Quiet (Task.OnOk fun _ => True) (sources.forM (preview target props)).run := by
  induction sources with
  | nil => exact fun _ _ => trivial
  | cons source sources ih => exact Task.Meets.bindExcept (preview_quiet target props source) fun _ _ => ih

theorem dryRun_quiet (target : Target) (props : Option Path) (sources : List Path) :
    Task.Meets Quiet (Task.OnOk fun _ => True) (dryRun target props sources).run := by
  unfold dryRun
  apply Task.Meets.bindExcept (previews_quiet target props sources)
  exact fun _ _ _ _ => trivial

/-! ## Sources -/

/-- the sources of a run: those below a directory, or the one given -/
def sourcesOf (d : Disk) (options : Options) : List Path :=
  if d.isDirectory options.source then Discovery.sources d options.source else [options.source]

theorem discover_run_eq (s : Session) (dir : Path) :
    s.run (Build.discover dir).run =
      (if s.disk.isDirectory dir then .ok (Discovery.sources s.disk dir)
        else .error (.sourceUnread dir (.refused "not a directory")), s) := by
  have hask : s.run (Build.discover dir).run =
      s.run (if s.disk.isDirectory dir then (do return .ok (← Task.sourcesBelow dir))
        else return .error (.sourceUnread dir (.refused "not a directory"))) := rfl
  rw [hask]
  cases s.disk.isDirectory dir <;> rfl

theorem discover_run (s : Session) {dir : Path} (h : s.disk.isDirectory dir = true) :
    s.run (Build.discover dir).run = (.ok (Discovery.sources s.disk dir), s) := by
  rw [discover_run_eq, if_pos h]

theorem sourcesFor_run (s : Session) (options : Options) :
    s.run (sourcesFor options).run =
      if s.disk.isDirectory options.source && options.props.isSome then (.error .propsForDirectory, s)
      else (.ok (sourcesOf s.disk options), s) := by
  have hask : s.run (liftM (Task.isDirectory options.source) : ExceptT Fault Task Bool).run =
      (.ok (s.disk.isDirectory options.source), s) := rfl
  unfold sourcesFor sourcesOf
  rw [Session.run_bindExcept, hask]
  simp only
  cases hdir : s.disk.isDirectory options.source with
  | false => rfl
  | true =>
    cases hprops : options.props.isSome with
    | true => rfl
    | false =>
      have hdiscover := Session.run_bind s (Build.discover options.source).run
        (fun r => Task.done (r.mapError Fault.build))
      rw [discover_run s hdir] at hdiscover
      exact hdiscover

theorem sourcesFor_straight (options : Options) : (sourcesFor options).run.Straight := by
  have hdiscover : (Build.discover options.source).run.Straight := by
    intro isDirectory
    cases isDirectory with
    | false => trivial
    | true => exact fun _ => trivial
  have hadapt : ((Build.discover options.source).adapt Fault.build).run.Straight := hdiscover.bind fun _ => trivial
  intro isDirectory
  cases isDirectory with
  | false => trivial
  | true =>
    cases options.props with
    | some p => trivial
    | none => exact hadapt

/-! ## Compiling the sources -/

/-- what a run says in the end -/
def conclusion (results : List Result) (total : Nat) : Except Fault Outcome :=
  if failureCount results > 0 then .error (.failures (failureCount results) total) else .ok (.compiled total)

/-- reporting the results does not fail and leaves the disk alone -/
theorem reports_end {s s' : Session} {results : List Result} {said : Except Fault Unit}
    (h : s.Ends (results.forM fun (source, result) => (liftM (report source result) : ExceptT Fault Task Unit)).run
      said s') : said = .ok () ∧ s'.disk = s.disk := by
  induction results generalizing s with
  | nil =>
    obtain ⟨rfl, rfl⟩ := h
    exact ⟨rfl, rfl⟩
  | cons pair results ih =>
    obtain ⟨source, result⟩ := pair
    have hquiet : (report source result).Meets Quiet fun _ => True := by
      cases result <;> exact ⟨trivial, fun _ => trivial⟩
    obtain ⟨_, s₁, hreport, hrest⟩ := Session.ends_bindLift.1 h
    obtain ⟨hsaid, hdisk⟩ := ih hrest
    exact ⟨hsaid, hdisk.trans (ends_quiet hquiet hreport)⟩

/-- what is reported when all is compiled, and the conclusion -/
theorem closing_end {s s' : Session} {target : Target} {results : List Result} {total : Nat}
    {outcome : Except Fault Outcome}
    (h : s.Ends (do
      results.forM fun (source, result) => report source result
      if failureCount results > 0 then throw (.failures (failureCount results) total)
      Task.note .info ("WebC to " ++ target.displayName ++ " compilation successful!")
      return .compiled total : ExceptT Fault Task Outcome).run outcome s') :
    outcome = conclusion results total ∧ s'.disk = s.disk := by
  rcases Session.ends_bindExcept.1 h with ⟨_, s₁, hreports, h⟩ | ⟨fault, -, hreports⟩
  · obtain ⟨-, hdisk⟩ := reports_end hreports
    rw [conclusion, ← hdisk]
    split_ifs at h ⊢ with hfailed
    · obtain ⟨rfl, rfl⟩ := h
      exact ⟨rfl, rfl⟩
    · obtain ⟨rfl, rfl⟩ := h
      exact ⟨rfl, rfl⟩
  · cases (reports_end hreports).1

section

variable {s s' : Session} {target : Target} {props : Option Path} {output : Path} {sources : List Path}
  {options : Options} {settings : Settings}

/-- in a run that is not refused the sources take turns, and then it draws the conclusion -/
theorem realRun_interleaves (hcollision : collision? sources = none) {outcome : Except Fault Outcome}
    (h : s.Ends (realRun target props output sources).run outcome s') :
    ∃ results s₁, Interleaves (sources.map (attempt target props output)) s results s₁ ∧ s'.disk = s₁.disk ∧
      outcome = conclusion results sources.length := by
  unfold realRun at h
  simp only [hcollision] at h
  obtain ⟨_, s₀, hnote, h⟩ := Session.ends_bindLift.1 h
  obtain ⟨results, s₂, hcompile, h⟩ := Session.ends_bindLift.1 h
  obtain ⟨houtcome, hdisk⟩ := closing_end h
  -- what was noted before has no influence on the sources
  have hnoted : s.disk = s₀.disk := by
    obtain ⟨-, rfl⟩ := hnote
    rfl
  obtain ⟨s₁, hcompile, hsame⟩ := hcompile.congr hnoted
  exact ⟨results, s₁, ends_gather_iff.1 hcompile, hdisk.trans hsame.symm, houtcome⟩

theorem builtin_targets : Registry.builtin.targets = Target.builtin := by
  decide +kernel

theorem mem_builtin_of_get {wanted : String} (h : Registry.builtin.get wanted = .ok target) :
    target ∈ Target.builtin := by
  unfold Registry.get at h
  split at h
  · next found hfind =>
    obtain rfl := Except.ok.inj h
    exact builtin_targets ▸ List.mem_of_find?_eq_some hfind
  · cases h

theorem runFor_ends {outcome : Except Fault Outcome} :
    s.Ends (runFor target options settings).run outcome s' ↔
      if s.disk.isDirectory options.source && options.props.isSome then outcome = .error .propsForDirectory ∧ s' = s
      else if options.debug then s.Ends (dryRun target options.props (sourcesOf s.disk options)).run outcome s'
      else
        match options.output.or settings.output with
        | none => outcome = .error .noOutput ∧ s' = s
        | some output => s.Ends (realRun target options.props output (sourcesOf s.disk options)).run outcome s' := by
  have hsources := sourcesFor_run s options
  unfold runFor
  rw [Session.ends_bindExcept_straight (sourcesFor_straight options) hsources]
  cases hrefused : s.disk.isDirectory options.source && options.props.isSome with
  | true => rfl
  | false =>
    simp only [Bool.false_eq_true, if_false]
    cases hdebug : options.debug with
    | true => rfl
    | false => cases options.output.or settings.output <;> rfl

/-- a run with a target that is supported -/
theorem run_supported {wanted : String} (hwanted : options.target.or settings.target = some wanted)
    (hget : Registry.builtin.get wanted = .ok target) :
    run options settings = runFor target options settings := by
  unfold run
  rw [hwanted]
  simp only [hget]

end

/-- the options and settings of a run that compiles all sources below a directory -/
structure Compiles (options : Options) (settings : Settings) (d : Disk) (target : Target) (dir output : Path) :
    Prop where
  source : options.source = dir
  directory : d.isDirectory dir = true
  props : options.props = none
  debug : options.debug = false
  output : options.output.or settings.output = some output
  target : ∃ wanted, options.target.or settings.target = some wanted ∧ Registry.builtin.get wanted = .ok target

theorem Compiles.sourcesOf {options : Options} {settings : Settings} {d : Disk} {target : Target} {dir output : Path}
    (h : Compiles options settings d target dir output) : sourcesOf d options = Discovery.sources d dir := by
  rw [Command.sourcesOf, h.source, if_pos h.directory]

theorem Compiles.ends_iff {s s' : Session} {options : Options} {settings : Settings} {target : Target}
    {dir output : Path} (h : Compiles options settings s.disk target dir output) {outcome : Except Fault Outcome} :
    s.Ends (run options settings).run outcome s' ↔
      s.Ends (realRun target none output (Discovery.sources s.disk dir)).run outcome s' := by
  obtain ⟨wanted, hwanted, hget⟩ := h.target
  rw [run_supported hwanted hget, runFor_ends, h.sourcesOf]
  simp [h.props, h.debug, h.output]

theorem Compiles.run_eq {s : Session} {options : Options} {settings : Settings} {target : Target} {dir output : Path}
    (h : Compiles options settings s.disk target dir output) :
    s.run (run options settings).run = s.run (realRun target none output (Discovery.sources s.disk dir)).run := by
  obtain ⟨wanted, hwanted, hget⟩ := h.target
  rw [run_supported hwanted hget, runFor, Session.run_bindExcept, sourcesFor_run, h.sourcesOf]
  simp [h.props, h.debug, h.output]

/-- a run that does not come to writing its sources: a dry run, one without a supported target, or one that is
refused -/
def EndsEarly (options : Options) (result : Except Fault Outcome) : Prop :=
  options.debug = true ∨ result = .ok .unsupportedTarget ∨
    ∃ fault, result = .error fault ∧ ∀ failed total, fault ≠ .failures failed total

theorem endsEarly_error (options : Options) {fault : Fault} (h : ∀ failed total, fault ≠ .failures failed total) :
    EndsEarly options (.error fault) :=
  Or.inr (Or.inr ⟨fault, rfl, h⟩)

/-- who draws the conclusion from results has not ended early -/
theorem not_endsEarly_conclusion {options : Options} (hdebug : options.debug = false) (results : List Result)
    (total : Nat) : ¬ EndsEarly options (conclusion results total) := by
  rintro (htrue | hunsupported | ⟨fault, hfault, hother⟩)
  · rw [hdebug] at htrue
    cases htrue
  · unfold conclusion at hunsupported
    split_ifs at hunsupported
    cases hunsupported
  · unfold conclusion at hfault
    split_ifs at hfault
    cases hfault
    exact hother _ _ rfl

/-- a run for a supported target ends early and leaves the disk alone, or it is no dry run and compiles its sources -/
theorem runFor_interleaves {s s' : Session} {target : Target} {options : Options} {settings : Settings}
    {result : Except Fault Outcome} (h : s.Ends (runFor target options settings).run result s') :
    (EndsEarly options result ∧ s'.disk = s.disk) ∨
      options.debug = false ∧ ∃ output, options.output.or settings.output = some output ∧
        ∃ results s₁, Interleaves ((sourcesOf s.disk options).map (attempt target options.props output)) s results s₁ ∧
          s'.disk = s₁.disk ∧ result = conclusion results (sourcesOf s.disk options).length := by
  rw [runFor_ends] at h
  split_ifs at h with hprops hdebug
  · obtain ⟨rfl, rfl⟩ := h
    exact Or.inl ⟨endsEarly_error options nofun, rfl⟩
  · exact Or.inl ⟨Or.inl hdebug, ends_quiet (dryRun_quiet _ _ _) h⟩
  · cases houtput : options.output.or settings.output with
    | none =>
      rw [houtput] at h
      obtain ⟨rfl, rfl⟩ := h
      exact Or.inl ⟨endsEarly_error options nofun, rfl⟩
    | some output =>
      rw [houtput] at h
      cases hcollision : collision? (sourcesOf s.disk options) with
      | some c =>
        simp only [realRun, hcollision] at h
        obtain ⟨rfl, rfl⟩ := h
        exact Or.inl ⟨endsEarly_error options nofun, rfl⟩
      | none => exact Or.inr ⟨Bool.eq_false_iff.2 hdebug, output, rfl, realRun_interleaves hcollision h⟩

/-- a run ends early and leaves the disk alone, or it is no dry run and compiles its sources, which take turns -/
theorem run_interleaves {s s' : Session} {options : Options} {settings : Settings} {result : Except Fault Outcome}
    (h : s.Ends (run options settings).run result s') :
    (EndsEarly options result ∧ s'.disk = s.disk) ∨
      options.debug = false ∧ ∃ target ∈ Target.builtin, ∃ output, options.output.or settings.output = some output ∧
        ∃ results s₁, Interleaves ((sourcesOf s.disk options).map (attempt target options.props output)) s results s₁ ∧
          s'.disk = s₁.disk ∧ result = conclusion results (sourcesOf s.disk options).length := by
  cases hwanted : options.target.or settings.target with
  | none =>
    simp only [run, hwanted] at h
    obtain ⟨rfl, rfl⟩ := h
    exact Or.inl ⟨endsEarly_error options nofun, rfl⟩
  | some wanted =>
    cases hget : Registry.builtin.get wanted with
    | error fault =>
      simp only [run, hwanted, hget] at h
      obtain ⟨rfl, rfl⟩ := h
      exact Or.inl ⟨Or.inr (Or.inl rfl), rfl⟩
    | ok target =>
      rw [run_supported hwanted hget] at h
      rcases runFor_interleaves h with hearly | ⟨hdebug, output, houtput, hrest⟩
      · exact Or.inl hearly
      · exact Or.inr ⟨hdebug, target, mem_builtin_of_get hget, output, houtput, hrest⟩

end ComponentCompiler.Command
