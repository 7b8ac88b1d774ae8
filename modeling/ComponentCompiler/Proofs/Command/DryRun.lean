import ComponentCompiler.Proofs.Command.Stored

/-!
A dry run shows what a run would write.

Both build the component of a source from what is on the disk, so they come to the same one. The dry run prints it and
leaves the disk alone (`dryRun_single`). The run writes it, and then its files hold the texts that were printed; what
the component does not have is not written, so that no file of that name is new (`compileOne_shows`). `dry_run_agrees`
puts the two together for runs that differ in nothing but the wish for a dry run.
-/

namespace ComponentCompiler

open Text ComponentCompiler.Path

/-! ## Files that are not written -/

namespace Disk

/-- every file of a name that is on the disk afterwards was there before, and is the same -/
def NoneNew (name : Name) (before after : Disk) : Prop :=
  ∀ place content, after.entry? (place ++ [name]) = some (.file content) →
    before.entry? (place ++ [name]) = some (.file content)

variable {d e : Disk}

/-- a text that stands for a file: the file has it in a given form, or there is none to write and the text says so -/
def Shows (before after : Disk) (dir : Path) (file : String) (form : String → String) (absent shown : String) : Prop :=
  after.Holds dir (Utf8.encode file) (form shown) ∨ shown = absent ∧ NoneNew (Utf8.encode file) before after

/-- a text that there may be stands for its file, if it is written when there is one -/
theorem shows_getD {dir : Path} {file absent : String} {form : String → String} {text : Option String}
    (hsome : ∀ t, text.map form = some t → e.Holds dir (Utf8.encode file) t)
    (hnone : text = none → NoneNew (Utf8.encode file) d e) : Shows d e dir file form absent (text.getD absent) := by
  cases text with
  | none => exact Or.inr ⟨rfl, hnone rfl⟩
  | some t => exact Or.inl (hsome (form t) rfl)

end Disk

namespace Command

open Disk

variable {s s' : Session} {target : Target} {props : Option Path} {output source : Path} {c : Component}
variable {options : Options} {settings : Settings}

/-- writing an artifact makes no files but its own -/
theorem write_noneNew {artifact : Artifact} {written : Written} {name : Name} (hlinks : s.disk.NoLinks)
    (hnames : Output.WellNamed artifact) (hother : ∀ file ∈ Output.texts artifact, name ≠ Utf8.encode file.1)
    (h : s.Ends (Output.write artifact output).run (.ok written) s') : NoneNew name s.disk s'.disk := by
  obtain ⟨-, here, middle, hgrows, hstores, -⟩ := Output.write_stores hlinks hnames h
  intro place content hfile
  have hapart : ∀ file ∈ Output.texts artifact, place ++ [name] ≠ filePlace here file := by
    intro file hmem heq
    exact hother file hmem (by simpa [filePlace] using congrArg List.getLast? heq)
  rw [hstores.around _ hapart] at hfile
  by_contra hbefore
  -- what is new besides the files are directories
  obtain ⟨-, hdirectory, -⟩ := hgrows.fresh (place ++ [name]) fun hsame => hbefore (hsame.symm.trans hfile)
  cases hfile.symm.trans hdirectory

theorem builtin_files (h : target ∈ Target.builtin) :
    target.files.styles = "index.css" ∧ target.files.script = "web-component.js" := by
  have hall : ∀ target ∈ Target.builtin, target.files.styles = "index.css" ∧
      target.files.script = "web-component.js" := by
    decide
  exact hall target h

theorem distinct_files {files : FileNames} (h : files.entries.Nodup) :
    Utf8.encode files.component ≠ Utf8.encode files.styles ∧ Utf8.encode files.component ≠ Utf8.encode files.script ∧
      Utf8.encode files.styles ≠ Utf8.encode files.script := by
  simp only [FileNames.entries, List.nodup_cons, List.mem_cons, List.not_mem_nil, or_false, not_or] at h
  exact ⟨h.1.1, h.1.2, h.2.1⟩

/-- a source that compiles: the texts of its component stand for its files -/
theorem compileOne_shows (htarget : target ∈ Target.builtin) {written : Written} (hlinks : s.disk.NoLinks)
    (h : s.Ends (compileOne target props output source).run (.ok written) s') :
    ∃ c, (s.run (Build.component target source props).run).1 = .ok c ∧
      s'.disk.Holds (Output.componentDir output c.identifier) (Utf8.encode target.files.component)
        (target.emit c).source ∧
      Shows s.disk s'.disk (Output.componentDir output c.identifier) "web-component.js" Artifact.guardScript
        "No JavaScript" (c.script.getD "No JavaScript") ∧
      Shows s.disk s'.disk (Output.componentDir output c.identifier) "index.css" id "No CSS"
        (c.styles.getD "No CSS") := by
  obtain ⟨c, s₁, hbuild, hdisk, -, hwrite⟩ := compileOne_ok h
  have hlinks₁ : s₁.disk.NoLinks := hdisk ▸ hlinks
  have hnames : Output.WellNamed (target.emit c) := Output.wellNamed_of_builtin htarget rfl
  obtain ⟨-, _, _, -, -, -, -, hholds⟩ := Output.write_stores hlinks₁ hnames hwrite
  have hstored : Stored s'.disk (Output.componentDir output c.identifier) (target.emit c) := stored_of_holds hholds
  obtain ⟨hcss, hjs⟩ := builtin_files htarget
  obtain ⟨hdistinct, hdistinct', hdistinct''⟩ := distinct_files (Output.entries_nodup htarget)
  refine ⟨c, hbuild, hstored.component, shows_getD ?_ ?_, shows_getD ?_ ?_⟩
  · intro text htext
    rw [← hjs]
    exact hstored.script text htext
  · -- the other two files have other names
    intro hnone
    rw [← hjs, ← hdisk]
    refine write_noneNew hlinks₁ hnames (fun file hmem => ?_) hwrite
    have hscript : (target.emit c).script = none := congrArg (Option.map Artifact.guardScript) hnone
    rcases Output.mem_texts hmem with rfl | ⟨text, -, rfl⟩ | ⟨text, htext, -⟩
    · exact hdistinct'.symm
    · exact hdistinct''.symm
    · cases hscript.symm.trans htext
  · intro text htext
    rw [← hcss]
    rw [Option.map_id] at htext
    exact hstored.styles text htext
  · intro hnone
    rw [← hcss, ← hdisk]
    refine write_noneNew hlinks₁ hnames (fun file hmem => ?_) hwrite
    have hstyles : (target.emit c).styles = none := hnone
    rcases Output.mem_texts hmem with rfl | ⟨text, htext, -⟩ | ⟨text, -, rfl⟩
    · exact hdistinct.symm
    · cases hstyles.symm.trans htext
    · exact hdistinct''

/-! ## The dry run -/

/-- what is printed in a dry run, section by section -/
def sections (markup js css displayName source : String) : String :=
  "\n".intercalate ["----HTML----", markup, "-----JS-----", js, "----CSS-----", css,
    centre '-' 12 displayName.toUpper, source, "------------"]

theorem dump_eq_sections (c : Component) (artifact : Artifact) (displayName : String) :
    dump c artifact displayName =
      sections c.markup (c.script.getD "No JavaScript") (c.styles.getD "No CSS") displayName artifact.source :=
  rfl

def Silent : Request → Prop
  | .print _ => False
  | _ => True

theorem answer_silent (s : Session) {request : Request} (h : Silent request) : (s.answer request).2.out = s.out := by
  cases request with
  | print line => exact h.elim
  | writeText p text =>
    simp only [Session.answer, Session.update]
    cases s.disk.writeText p text <;> rfl
  | _ => rfl

theorem run_silent {α : Type} {Q : α → Prop} {t : Task α} (h : t.Meets Silent Q) (s : Session) :
    (s.run t).2.out = s.out :=
  (s.ends_run t).invariant (I := fun s' => s'.out = s.out)
    (fun s' _ hrequest hs => (answer_silent s' hrequest).trans hs) h rfl

theorem silent_of_reading {props : Option Path} (request : Request) (h : Reading source props request) :
    Silent request := by
  cases request <;> trivial

/-- a source that can be built is printed -/
theorem preview_run (h : (s.run (Build.component target source props).run).1 = .ok c) :
    ∃ s', s.run (preview target props source).run = (.ok (), s') ∧
      s'.out = s.out ++ dump c (target.emit c) target.displayName ++ "\n" := by
  unfold preview
  rw [Session.run_bindExcept, Session.run_liftM]
  generalize hs₁ : (s.run (Task.note .info ("Debugging [" ++ source.display ++ "]"))).2 = s₁
  have hdisk : s₁.disk = s.disk := by
    rw [← hs₁]
    rfl
  have hout : s₁.out = s.out := by
    rw [← hs₁]
    rfl
  have hcomponent : (s₁.run (Build.component target source props).run).1 = .ok c :=
    (Session.run_congr hdisk _).1.trans h
  have hsilent := run_silent ((component_meets target source props).imp silent_of_reading) s₁
  simp only
  rw [Session.run_bindExcept, Session.run_adapt, hcomponent]
  refine ⟨_, rfl, ?_⟩
  rw [← hout, ← hsilent]

theorem preview_straight (target : Target) (props : Option Path) (source : Path) :
    (preview target props source).run.Straight := by
  have hnote (text : String) : (liftM (Task.note .info text) : ExceptT Fault Task Unit).run.Straight := fun _ => trivial
  have hbuild : ((Build.component target source props).adapt Fault.build).run.Straight :=
    (component_straight target source props).bind fun _ => trivial
  exact (hnote _).bindExcept fun _ => hbuild.bindExcept fun _ _ => trivial

/-- a dry run of one source that can be built has one end -/
theorem dryRun_single (h : (s.run (Build.component target source props).run).1 = .ok c) {outcome : Except Fault Outcome}
    (hends : s.Ends (dryRun target props [source]).run outcome s') :
    outcome = .ok (.dryRun 1) ∧ s'.disk = s.disk ∧
      s'.out = s.out ++ dump c (target.emit c) target.displayName ++ "\n" := by
  have hpreviews : ([source].forM (preview target props)).run.Straight :=
    (preview_straight target props source).bindExcept fun _ => trivial
  have hstraight : (dryRun target props [source]).run.Straight := hpreviews.bindExcept fun _ => trivial
  obtain ⟨s₁, hrun, hout⟩ := preview_run h
  have hall : s.run ([source].forM (preview target props)).run = (.ok (), s₁) := by
    refine (Session.run_bindExcept s (preview target props source) _).trans ?_
    rw [hrun]
    rfl
  have hdry : s.run (dryRun target props [source]).run = (.ok (.dryRun 1), s₁) := by
    unfold dryRun
    rw [Session.run_bindExcept, hall]
    rfl
  have hdisk := ends_quiet (dryRun_quiet target props [source]) hends
  obtain ⟨rfl, rfl⟩ := Prod.mk.inj (hdry.symm.trans (hends.eq_run hstraight))
  exact ⟨rfl, hdisk, hout⟩

/-! ## The two runs -/

theorem sourcesOf_file {d : Disk} (h : d.isDirectory options.source = false) :
    sourcesOf d options = [options.source] := by
  rw [sourcesOf, h]
  rfl

/-- only a run with a supported target compiles its sources -/
theorem exists_supported {n : Nat} (h : s.Ends (run options settings).run (.ok (.compiled n)) s') :
    ∃ wanted target, options.target.or settings.target = some wanted ∧ Registry.builtin.get wanted = .ok target := by
  cases hwanted : options.target.or settings.target with
  | none =>
    simp only [run, hwanted] at h
    cases h.1
  | some wanted =>
    cases hget : Registry.builtin.get wanted with
    | ok target => exact ⟨wanted, target, rfl, hget⟩
    | error fault =>
      simp only [run, hwanted, hget] at h
      cases h.1

/-- a run that compiles its one source -/
theorem runFor_compiled (hdebug : options.debug = false) (hfile : s.disk.isDirectory options.source = false)
    (h : s.Ends (runFor target options settings).run (.ok (.compiled 1)) s') :
    ∃ output written s₁, options.output.or settings.output = some output ∧
      s.Ends (compileOne target options.props output options.source).run (.ok written) s₁ ∧ s'.disk = s₁.disk := by
  rcases runFor_interleaves h with ⟨hearly, -⟩ | ⟨-, output, houtput, results, s₁, hturns, hdisk, hconclusion⟩
  · rcases hearly with htrue | hunsupported | ⟨fault, hfault, -⟩
    · cases hdebug.symm.trans htrue
    · cases hunsupported
    · cases hfault
  · rw [sourcesOf_file hfile] at hturns
    obtain ⟨r, hone, rfl⟩ := interleaves_single_iff.1 hturns
    obtain ⟨result, _, hcompile, rfl, rfl⟩ := Session.ends_bind.1 hone
    cases result with
    | error fault => cases hconclusion
    | ok written => exact ⟨output, written, s₁, houtput, hcompile, hdisk⟩

/-- a dry run of one source -/
theorem runFor_dry {outcome : Except Fault Outcome} (h : s.Ends (runFor target options settings).run outcome s')
    (hdebug : options.debug = true) (hfile : s.disk.isDirectory options.source = false) :
    s.Ends (dryRun target options.props [options.source]).run outcome s' := by
  rw [runFor_ends, hfile, hdebug, sourcesOf_file hfile] at h
  exact h

/-- **A dry run shows what would be written.** On a disk without links, if a run compiles its one source, in whatever
order its files were written, the same run as a dry run is one of one source and leaves the disk as it is. It prints the
sections of the component, and the run has written them: the source text is that of the component file, and the script
in its guarded form and the style sheet are those of their files. In place of a script or a style sheet that the
component does not have there is a remark, and the run has made no file for it. -/
theorem dry_run_agrees (hlinks : s.disk.NoLinks) (hdebug : options.debug = false)
    (hfile : s.disk.isDirectory options.source = false)
    (hrun : s.Ends (run options settings).run (.ok (.compiled 1)) s') :
    ∃ wanted target output c, options.target.or settings.target = some wanted ∧
      Registry.builtin.get wanted = .ok target ∧
      options.output.or settings.output = some output ∧
      (s.run (Build.component target options.source options.props).run).1 = .ok c ∧
      ∃ js css source,
        s'.disk.Holds (Output.componentDir output c.identifier) (Utf8.encode target.files.component) source ∧
        Shows s.disk s'.disk (Output.componentDir output c.identifier) "web-component.js" Artifact.guardScript
          "No JavaScript" js ∧
        Shows s.disk s'.disk (Output.componentDir output c.identifier) "index.css" id "No CSS" css ∧
        ∀ outcome dry, s.Ends (run { options with debug := true } settings).run outcome dry →
          outcome = .ok (.dryRun 1) ∧ dry.disk = s.disk ∧
            dry.out = s.out ++ sections c.markup js css target.displayName source ++ "\n" := by
  obtain ⟨wanted, target, hwanted, hget⟩ := exists_supported hrun
  rw [run_supported hwanted hget] at hrun
  obtain ⟨output, written, s₁, houtput, hone, hdisk⟩ := runFor_compiled hdebug hfile hrun
  obtain ⟨c, hbuild, hsource, hjs, hcss⟩ := compileOne_shows (mem_builtin_of_get hget) hlinks hone
  rw [← hdisk] at hsource hjs hcss
  refine ⟨wanted, target, output, c, hwanted, hget, houtput, hbuild, _, _, _, hsource, hjs, hcss,
    fun outcome dry hdry => ?_⟩
  have hwanted' : ({ options with debug := true } : Options).target.or settings.target = some wanted := hwanted
  rw [run_supported hwanted' hget] at hdry
  have hpreview := runFor_dry hdry rfl hfile
  have hends := dryRun_single hbuild hpreview
  rw [dump_eq_sections] at hends
  exact hends

/-- a source with a token and a script, and props for it -/
def scriptedCard : Disk where
  entries := [([Utf8.encode "s"], .directory),
    ([Utf8.encode "s", Utf8.encode "card.webc"],
      .file (Utf8.encode "<p>\x7b\x7b who \x7d\x7d</p><script>go()</script>")),
    ([Utf8.encode "s", Utf8.encode "p.json"], .file (Utf8.encode "\x7b\"who\": \"you\"\x7d"))]
  workingDir := []

/-- this card in a dry run, and in a run that writes it below the directory of its source -/
theorem scriptedCard_previewed :
    let s : Session := ⟨scriptedCard, [], "", ""⟩
    let options : Options :=
      ⟨some "react", .ofString "s/card.webc", some (.ofString "s"), some (.ofString "s/p.json"), false⟩
    let after := (s.run (run options ⟨none, none⟩).run).2.disk
    let dry := s.run (run { options with debug := true } ⟨none, none⟩).run
    (s.run (run options ⟨none, none⟩).run).1 = .ok (.compiled 1) ∧ dry.1 = .ok (.dryRun 1) ∧ dry.2.disk = s.disk ∧
      ∃ (target : Target) (c : Component) (js css source : String), Registry.builtin.get "react" = .ok target ∧
        dry.2.out = s.out ++ sections c.markup js css target.displayName source ++ "\n" ∧
        after.Holds (Output.componentDir (.ofString "s") c.identifier) (Utf8.encode target.files.component) source ∧
        Shows s.disk after (Output.componentDir (.ofString "s") c.identifier) "web-component.js" Artifact.guardScript
          "No JavaScript" js ∧
        Shows s.disk after (Output.componentDir (.ofString "s") c.identifier) "index.css" id "No CSS" css := by
  intro s options
  have hlinks : s.disk.NoLinks := noLinks_of_entries (by simp [s, scriptedCard])
  have hdebug : options.debug = false := rfl
  have hfile : s.disk.isDirectory options.source = false := by decide +kernel
  have htarget : options.target.or none = some "react" := rfl
  have hroot : options.output.or none = some (.ofString "s") := rfl
  have hrun : (s.run (run options ⟨none, none⟩).run).1 = .ok (.compiled 1) := except_eq_ok (by decide +kernel)
  -- from here on nothing is evaluated any more
  clear_value s options
  obtain ⟨wanted, target, output, c, hwanted, hget, houtput, -, js, css, source, hsource, hjs, hcss, hdry⟩ :=
    dry_run_agrees hlinks hdebug hfile (Session.ends_of_run hrun)
  obtain rfl : wanted = "react" := Option.some.inj (hwanted.symm.trans htarget)
  obtain rfl : output = .ofString "s" := Option.some.inj (houtput.symm.trans hroot)
  obtain ⟨hresult, hsame, hout⟩ := hdry _ _ (s.ends_run _)
  exact ⟨hrun, hresult, hsame, target, c, js, css, source, hget, hout, hsource, hjs, hcss⟩

end Command

end ComponentCompiler
