import ComponentCompiler.Proofs.Command.Run
import ComponentCompiler.Proofs.Discovery

/-!
Runs and sources that end early.

A run makes no change before it compiles its sources, so a dry run, a run without a supported target and a run that is
refused leave the disk as it was. A source makes no change before its component is built: once it asks for one, it does
not end with a failure to build (`attempt_cautious`). A task of this kind that does end so can be left out of any
interleaving, and the disk in the end is the same (`interleaves_without`). `early_end_changes_nothing` puts the two
together.
-/

namespace ComponentCompiler.Command

variable {α : Type}

/-! ## Tasks that are left out -/

/-- a task that does not end as `F` says once it asks for a change -/
def Cautious (F : α → Bool) : Task α → Prop
  | .done _ => True
  | .ask request next =>
    (Quiet request ∧ ∀ answer, Cautious F (next answer)) ∨
      ∀ answer, (next answer).Meets (fun _ => True) fun a => F a = false
  | .pick next => ∀ way, Cautious F (next way)

theorem cautious_of_meets {F : α → Bool} {t : Task α} (h : t.Meets (fun _ => True) fun a => F a = false) :
    Cautious F t := by
  induction t with
  | done result => trivial
  | ask request next ih => exact Or.inr h.2
  | pick next ih => exact fun way => ih way (h way)

theorem Cautious.step {F : α → Bool} {t t' : Task α} {s s' : Session} (h : Cautious F t) (hstep : s.Step t t' s') :
    Cautious F t' := by
  cases hstep with
  | answer request next =>
    rcases h with ⟨-, hnext⟩ | hmeets
    · exact hnext _
    · exact cautious_of_meets (hmeets _)
  | choice next way => exact h way

/-- a step that changes the disk decides that the task does not end as `F` says -/
theorem Cautious.decides {F : α → Bool} {t t' : Task α} {s s' : Session} (h : Cautious F t) (hstep : s.Step t t' s') :
    s'.disk = s.disk ∨ t'.Meets (fun _ => True) fun a => F a = false := by
  cases hstep with
  | answer request next =>
    rcases h with ⟨hquiet, -⟩ | hmeets
    · exact Or.inl (answer_quiet s hquiet)
    · exact Or.inr (hmeets _)
  | choice next way => exact Or.inl rfl

/-- what only looks can come first -/
theorem Cautious.bind {β : Type} {F : β → Bool} {Q : α → Prop} {t : Task α} {f : α → Task β} (ht : t.Meets Quiet Q)
    (hf : ∀ a, Q a → Cautious F (f a)) : Cautious F (t.bind f) := by
  induction t with
  | done result => exact hf result ht
  | ask request next ih => exact Or.inl ⟨ht.1, fun answer => ih answer (ht.2 answer)⟩
  | pick next ih => exact fun way => ih way (ht way)

/-- from a session on, the tasks that do not end as `F` says can take turns and come to their results, and to a disk -/
def EndsWithout (F : α → Bool) (pairs : List (Task α × α)) (s : Session) (d : Disk) : Prop :=
  let others := pairs.filter fun p => !F p.2
  ∃ s', Interleaves (others.map Prod.fst) s (others.map Prod.snd) s' ∧ s'.disk = d

section EndsWithout

variable {F : α → Bool} {s s₁ : Session} {d : Disk} {before after : List (Task α × α)} {t t' : Task α} {result : α}

theorem endsWithout_done {pairs : List (Task α × α)} (h : ∀ p ∈ pairs, p.1 = .done p.2) :
    EndsWithout F pairs s s.disk := by
  refine ⟨s, ?_, rfl⟩
  have htasks : (pairs.filter fun p => !F p.2).map Prod.fst =
      ((pairs.filter fun p => !F p.2).map Prod.snd).map Task.done := by
    rw [List.map_map]
    exact List.map_congr_left fun p hp => h p (List.mem_filter.1 hp).1
  rw [Interleaves, htasks]

/-- a turn of a task that is left out is left out -/
theorem EndsWithout.skip (h : EndsWithout F (before ++ (t', result) :: after) s d) (hF : F result = true) :
    EndsWithout F (before ++ (t, result) :: after) s d := by
  simpa [EndsWithout, hF] using h

/-- a turn of another task stays -/
theorem EndsWithout.turn (h : EndsWithout F (before ++ (t', result) :: after) s₁ d) (hstep : s.Step t t' s₁)
    (hF : F result = false) : EndsWithout F (before ++ (t, result) :: after) s d := by
  obtain ⟨s', hinterleaves, hdisk⟩ := h
  refine ⟨s', ?_, hdisk⟩
  simp only [Interleaves, List.filter_append, List.filter_cons, hF, Bool.not_false, if_true, List.map_append,
    List.map_cons] at hinterleaves ⊢
  exact Relation.ReflTransGen.head (Turn.intro _ _ hstep) hinterleaves

end EndsWithout

/-- **Leaving tasks out.** In any interleaving of cautious tasks, those that end as `F` says can be left out: the others
end as before, and so does the disk. -/
theorem interleaves_without {F : α → Bool} {pairs : List (Task α × α)} {s s' : Session}
    (h : Interleaves (pairs.map Prod.fst) s (pairs.map Prod.snd) s') (hcautious : ∀ p ∈ pairs, Cautious F p.1) :
    EndsWithout F pairs s s'.disk := by
  -- the session of the others has the same disk all along, but not what the tasks that are left out have reported
  suffices hall : (∀ p ∈ pairs, Cautious F p.1) → ∀ s₀ : Session, s₀.disk = s.disk → EndsWithout F pairs s₀ s'.disk from
    hall hcautious s rfl
  refine interleaves_induction
    (P := fun pairs s => (∀ p ∈ pairs, Cautious F p.1) → ∀ s₀ : Session, s₀.disk = s.disk →
      EndsWithout F pairs s₀ s'.disk)
    ?_ ?_ h
  · intro pairs hdone _ s₀ hs₀
    rw [← hs₀]
    exact endsWithout_done hdone
  · intro before after t t' result s s₁ hstep later hlater ih hcautious s₀ hs₀
    have htask : Cautious F t := hcautious (t, result) (by simp)
    have hnext : ∀ p ∈ later, Cautious F p.1 := by
      intro p hp
      rcases List.mem_append.1 hp with hbefore | hrest
      · exact hcautious p (List.mem_append_left _ hbefore)
      · rcases List.mem_cons.1 hrest with rfl | hafter
        · exact htask.step hstep
        · exact hcautious p (by simp [hafter])
    cases hF : F result with
    | true =>
      have hsame : s₁.disk = s.disk := by
        rcases htask.decides hstep with hsame | hmeets
        · exact hsame
        · have hresult := result_of_interleaves hlater (t', result) (by simp [later]) hmeets
          rw [hF] at hresult
          cases hresult
      exact (ih hnext s₀ (hs₀.trans hsame.symm)).skip hF
    | false =>
      obtain ⟨s₀', hstep₀, hdisk₀⟩ := hstep.congr hs₀
      exact (ih hnext s₀' hdisk₀).turn hstep₀ hF

/-! ## Sources that are not built -/

/-- the component was not built: its source or its props were not read, or refused. What is built is also emitted, so
any other failure is one in writing. -/
def failedToBuild : Except SourceFault Written → Bool
  | .error (.build _) => true
  | _ => false

/-- a result of an attempt is one for its source -/
theorem attempt_meets (target : Target) (props : Option Path) (output source : Path) :
    (attempt target props output source).Meets (fun _ => True) fun r => r.1 = source :=
  Task.Meets.bind (Task.meets_true (compileOne target props output source).run) fun _ _ => rfl

/-- what fails in writing does not fail to build -/
theorem write_meets (artifact : Artifact) (output source : Path) (identifier : String) :
    (((Output.write artifact output).adapt (SourceFault.write identifier)).run.bind fun result =>
      Task.done (source, result)).Meets (fun _ => True) fun r => failedToBuild r.2 = false := by
  refine Task.Meets.bind (Q := fun result => failedToBuild result = false) ?_ fun _ hresult => hresult
  refine Task.Meets.bind (Task.meets_true (Output.write artifact output).run) fun result _ => ?_
  cases result <;> rfl

/-- a source asks for no change before its component is built -/
theorem attempt_cautious (target : Target) (props : Option Path) (output source : Path) :
    Cautious (fun r => failedToBuild r.2) (attempt target props output source) := by
  have hbuild := ((component_meets target source props).imp quiet_of_reading).adapt SourceFault.build
  have hsplit : attempt target props output source =
      ((Build.component target source props).adapt SourceFault.build).run.bind fun built =>
        (ExceptT.bindCont (fun c => (Output.write (target.emit c) output).adapt (SourceFault.write c.identifier))
          built).bind fun result => Task.done (source, result) :=
    Task.bind_bind _ _ _
  rw [hsplit]
  refine Cautious.bind hbuild fun built _ => ?_
  cases built with
  | error fault => trivial
  | ok c => exact cautious_of_meets (write_meets (target.emit c) output source c.identifier)

/-- each source comes to one result, in the order of the sources -/
theorem sources_of_interleaves {target : Target} {props : Option Path} {output : Path} {sources : List Path}
    {s s' : Session} {results : List Result}
    (h : Interleaves (sources.map (attempt target props output)) s results s') : results.map Prod.fst = sources := by
  have hlength : results.length = sources.length := by simpa using length_of_turns h
  have hfirst : (sources.zip results).map Prod.fst = sources := List.map_fst_zip hlength.ge
  have hsecond : (sources.zip results).map Prod.snd = results := List.map_snd_zip hlength.le
  have hpairs : Interleaves (((sources.zip results).map fun q => (attempt target props output q.1, q.2)).map Prod.fst) s
      (((sources.zip results).map fun q => (attempt target props output q.1, q.2)).map Prod.snd) s' := by
    have htasks : (sources.zip results).map (fun q => attempt target props output q.1) =
        sources.map (attempt target props output) := by
      rw [← hfirst, List.map_map, hfirst]
      rfl
    rw [List.map_map, List.map_map]
    simp only [Function.comp_def]
    rw [htasks, hsecond]
    exact h
  have hsame : ∀ q ∈ sources.zip results, q.2.1 = q.1 := by
    intro q hq
    exact result_of_interleaves hpairs (attempt target props output q.1, q.2) (List.mem_map_of_mem hq)
      (attempt_meets target props output q.1)
  calc results.map Prod.fst
      = (sources.zip results).map fun q => q.2.1 := by
        rw [← hsecond, List.map_map, hsecond]
        rfl
    _ = (sources.zip results).map Prod.fst := List.map_congr_left hsame
    _ = sources := hfirst

/-- **Sources that are not built change nothing.** However the sources take turns, each comes to one result, and the
disk in the end is one that the sources come to without those that are not built. -/
theorem interleaves_built {target : Target} {props : Option Path} {output : Path} {sources : List Path} {s s' : Session}
    {results : List Result} (h : Interleaves (sources.map (attempt target props output)) s results s') :
    let built := results.filter fun r => !failedToBuild r.2
    results.map Prod.fst = sources ∧
      ∃ s'', Interleaves ((built.map Prod.fst).map (attempt target props output)) s built s'' ∧ s''.disk = s'.disk := by
  intro built
  have hsources : results.map Prod.fst = sources := sources_of_interleaves h
  have hpairs : Interleaves ((results.map fun r => (attempt target props output r.1, r)).map Prod.fst) s
      ((results.map fun r => (attempt target props output r.1, r)).map Prod.snd) s' := by
    rw [← hsources] at h
    simpa [Function.comp_def] using h
  have hcautious : ∀ p ∈ results.map fun r => (attempt target props output r.1, r),
      Cautious (fun r => failedToBuild r.2) p.1 := by
    intro p hp
    obtain ⟨r, -, rfl⟩ := List.mem_map.1 hp
    exact attempt_cautious target props output r.1
  obtain ⟨s'', hinterleaves, hdisk⟩ := interleaves_without hpairs hcautious
  refine ⟨hsources, s'', ?_, hdisk⟩
  simpa [built, List.filter_map, Function.comp_def] using hinterleaves

/-! ## Runs -/

open Text

/-- **What ends early changes nothing.** A dry run, a run that ends for want of a supported target, and a run that fails
in another way than with failed sources leave the disk as it was. Any other run ends as its sources do when they take
turns; and however they take turns, the disk in the end is one that they come to without those whose source or props are
not read, or whose template or props are refused. -/
theorem early_end_changes_nothing (s : Session) (options : Options) (settings : Settings) :
    let sources := sourcesOf s.disk options
    (∀ result s', s.Ends (run options settings).run result s' → EndsEarly options result → s'.disk = s.disk) ∧
    (∀ result s', s.Ends (run options settings).run result s' → ¬ EndsEarly options result →
      ∃ target ∈ Target.builtin, ∃ output, options.output.or settings.output = some output ∧
        ∃ results s₁, Interleaves (sources.map (attempt target options.props output)) s results s₁ ∧
          s'.disk = s₁.disk ∧ result = conclusion results sources.length) ∧
    ∀ target output results s', Interleaves (sources.map (attempt target options.props output)) s results s' →
      let built := results.filter fun r => !failedToBuild r.2
      results.map Prod.fst = sources ∧
        ∃ s'', Interleaves ((built.map Prod.fst).map (attempt target options.props output)) s built s'' ∧
          s''.disk = s'.disk := by
  intro sources
  refine ⟨?_, ?_, fun target output results s' h => interleaves_built h⟩
  · intro result s' hends hearly
    rcases run_interleaves hends with ⟨-, hsame⟩ | ⟨hdebug, -, -, -, -, results, -, -, -, rfl⟩
    · exact hsame
    · exact absurd hearly (not_endsEarly_conclusion hdebug results _)
  · intro result s' hends hlate
    rcases run_interleaves hends with ⟨hearly, -⟩ | ⟨-, target, htarget, output, houtput, hrest⟩
    · exact absurd hearly hlate
    · exact ⟨target, htarget, output, houtput, hrest⟩

/-- a source that compiles, and one whose style block has no end -/
def oneUnterminated : Disk where
  entries := [([Utf8.encode "s"], .directory),
    ([Utf8.encode "s", Utf8.encode "a.webc"], .file (Utf8.encode "<p>a</p>")),
    ([Utf8.encode "s", Utf8.encode "b.webc"], .file (Utf8.encode "<p>b</p><style>"))]
  workingDir := []

theorem oneUnterminated_sources :
    Discovery.sources oneUnterminated (.ofString "s") = [.ofString "s/a.webc", .ofString "s/b.webc"] :=
  Discovery.sources_of_below (rfl : oneUnterminated.placeOf (.ofString "s") = .ok [Utf8.encode "s"]) (by decide +kernel)
    (by decide +kernel)

theorem oneUnterminated_compiles :
    Compiles ⟨some "react", .ofString "s", some (.ofString "o"), none, false⟩ ⟨none, none⟩ oneUnterminated .react
      (.ofString "s") (.ofString "o") :=
  ⟨rfl, by decide +kernel, rfl, rfl, rfl, "react", rfl, by decide +kernel⟩

/-- a dry run leaves this disk alone, and a run changes it as the first source alone does -/
theorem unterminated_source_left_out :
    let s : Session := ⟨oneUnterminated, [], "", ""⟩
    let options (debug : Bool) : Options := ⟨some "react", .ofString "s", some (.ofString "o"), none, debug⟩
    let result (debug : Bool) := (s.run (run (options debug) ⟨none, none⟩).run).1
    let after (debug : Bool) := (s.run (run (options debug) ⟨none, none⟩).run).2.disk
    (EndsEarly (options true) (result true) ∧ after true = oneUnterminated) ∧
      ¬ EndsEarly (options false) (result false) ∧ after false ≠ oneUnterminated ∧
      ∃ built s'', built.map Prod.fst = [Path.ofString "s/a.webc"] ∧
        Interleaves ((built.map Prod.fst).map (attempt .react none (.ofString "o"))) s built s'' ∧
        s''.disk = after false := by
  intro s options result after
  have hcollision : collision? (Discovery.sources s.disk (.ofString "s")) = none := by
    rw [oneUnterminated_sources]
    decide
  obtain ⟨hdry, -, -⟩ := early_end_changes_nothing s (options true) ⟨none, none⟩
  obtain ⟨-, -, hleft⟩ := early_end_changes_nothing s (options false) ⟨none, none⟩
  have hlate : ¬ EndsEarly (options false) (result false) := by
    have hends := s.ends_run (run (options false) ⟨none, none⟩).run
    obtain ⟨results, -, -, -, hresult⟩ := realRun_interleaves hcollision (oneUnterminated_compiles.ends_iff.1 hends)
    rw [show result false = _ from hresult]
    exact not_endsEarly_conclusion rfl results _
  have hafter : after false =
      (s.run (compileEach .react none (.ofString "o") (sourcesOf s.disk (options false)))).2.disk := by
    rw [show after false = _ from congrArg (fun r => r.2.disk) (oneUnterminated_compiles.run_eq (s := s)),
      oneUnterminated_compiles.sourcesOf, oneUnterminated_sources]
    decide +kernel
  have hturns := ends_gather_iff.1
    (s.ends_run (compileEach .react none (.ofString "o") (sourcesOf s.disk (options false))))
  obtain ⟨-, s'', hbuilt, hdisk⟩ := hleft .react (.ofString "o") _ _ hturns
  refine ⟨⟨Or.inl rfl, hdry _ _ (s.ends_run _) (Or.inl rfl)⟩, hlate, ?_, _, s'', ?_, hbuilt, hdisk.trans hafter.symm⟩
  · intro heq
    rw [hafter, oneUnterminated_compiles.sourcesOf, oneUnterminated_sources] at heq
    have hentry := congrArg (fun d : Disk => d.entry? [Utf8.encode "o"]) heq
    revert hentry
    decide +kernel
  · rw [oneUnterminated_compiles.sourcesOf, oneUnterminated_sources]
    decide +kernel

end ComponentCompiler.Command
