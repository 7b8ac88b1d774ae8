import ComponentCompiler.Command
import ComponentCompiler.Proofs.Naming
import ComponentCompiler.Proofs.Path
import ComponentCompiler.Proofs.Task

/-!
The steps of compiling one source.

The task reads, makes the directory of its component, and then writes files into this directory and nothing else; it
ends when the directory cannot be made. `compileOne_orderly` says so for every source, whatever the answers are.
-/

namespace ComponentCompiler

open Text ComponentCompiler.Path

def FileNames.entries (files : FileNames) : List Name :=
  [Utf8.encode files.component, Utf8.encode files.styles, Utf8.encode files.script]

namespace Command

theorem isOrdinary_components : IsOrdinary (Utf8.encode "components") := by
  decide

theorem isOrdinary_entries {target : Target} (h : target ∈ Target.builtin) :
    ∀ name ∈ target.files.entries, IsOrdinary name := by
  have hall : ∀ target ∈ Target.builtin, ∀ name ∈ target.files.entries, IsOrdinary name := by decide +kernel
  exact hall target h

/-- requests that only read: the source, its props, and notes -/
def Reading (source : Path) (props : Option Path) : Request → Prop
  | .readText p => p = source ∨ props = some p
  | .note _ => True
  | _ => False

/-- requests that only write: files with given names in a directory, and notes -/
def Writing (dir : Path) (files : List Name) : Request → Prop
  | .writeText p _ => ∃ name ∈ files, p = dir.join ⟨name⟩
  | .note _ => True
  | _ => False

/-- a task that reads, makes its directory, and then writes files with given names into it; `failed` tells how it ends
if the directory cannot be made -/
def Orderly {α : Type} (source : Path) (props : Option Path) (dir : Path) (files : List Name)
    (failed : Disk.Fault → α) : Task α → Prop
  | .done _ => True
  | .ask (.makeDirs p) next =>
    p = dir ∧ (next (.ok ())).Meets (Writing dir files) (fun _ => True) ∧
      ∀ fault, next (.error fault) = .done (failed fault)
  | .ask request next =>
    Reading source props request ∧ ∀ answer, Orderly source props dir files failed (next answer)
  | .pick next => ∀ way, Orderly source props dir files failed (next way)

/-! ## Reading -/

theorem note_meets (source : Path) (props : Option Path) (level : Level) (text : String) :
    Task.Meets (Reading source props) (Task.OnOk fun _ => True)
      (liftM (Task.note level text) : ExceptT Build.Fault Task Unit).run :=
  ⟨trivial, fun _ _ _ => trivial⟩

theorem loadOptionalProps_meets (source : Path) (props : Option Path) :
    Task.Meets (Reading source props) (Task.OnOk fun _ => True) (Build.loadOptionalProps props).run := by
  cases props with
  | none => exact fun _ _ => trivial
  | some p =>
    unfold Build.loadOptionalProps
    apply Task.Meets.bindExcept (Q := fun _ => True)
    · refine ⟨Or.inr rfl, fun answer => ?_⟩
      cases answer <;> exact fun _ _ => trivial
    · exact fun _ _ _ _ => trivial

/-- a component is built by reading, and assembled out of what was read -/
theorem component_assembles (target : Target) (source : Path) (props : Option Path) :
    Task.Meets (Reading source props)
      (Task.OnOk fun c => ∃ compiled loaded, c = Component.assemble source compiled loaded)
      (Build.component target source props).run := by
  unfold Build.component
  apply Task.Meets.bindExcept (Q := fun _ => True)
  · refine ⟨Or.inl rfl, fun answer => ?_⟩
    cases answer <;> exact fun _ _ => trivial
  intro text _
  apply Task.Meets.bindExcept (loadOptionalProps_meets source props)
  intro loaded _
  apply Task.Meets.bindExcept (Q := fun _ => True)
  · exact fun _ _ => trivial
  intro compiled _
  apply Task.Meets.bindExcept (note_meets source props _ _)
  intro _ _
  have hassemble : Task.Meets (Reading source props)
      (Task.OnOk fun c => ∃ compiled loaded, c = Component.assemble source compiled loaded)
      (pure (Component.assemble source compiled loaded) : ExceptT Build.Fault Task Component).run :=
    Task.meets_pure ⟨compiled, loaded, rfl⟩
  generalize (Naming.ofPath? source).isNone = nameless
  cases nameless with
  | false => exact hassemble
  | true =>
    apply Task.Meets.bindExcept (note_meets source props _ _)
    exact fun _ _ => hassemble

/-- a component is built by reading, and named after its source -/
theorem component_meets (target : Target) (source : Path) (props : Option Path) :
    Task.Meets (Reading source props) (Task.OnOk fun c => c.identifier = Component.identifierFor source)
      (Build.component target source props).run := by
  refine (component_assembles target source props).mono fun result hresult c hc => ?_
  obtain ⟨compiled, loaded, heq⟩ := hresult c hc
  rw [heq, Component.assemble_identifier]

/-- nothing is left open in building a component -/
theorem component_straight (target : Target) (source : Path) (props : Option Path) :
    (Build.component target source props).run.Straight := by
  have hread : (Build.readSource source).run.Straight := by
    intro answer
    cases answer <;> trivial
  have hprops : (Build.loadOptionalProps props).run.Straight := by
    cases props with
    | none => trivial
    | some p =>
      refine Task.Straight.bindExcept (fun answer => ?_) fun _ => trivial
      cases answer <;> trivial
  have hnote (level : Level) (text : String) :
      (liftM (Task.note level text) : ExceptT Build.Fault Task Unit).run.Straight := fun _ => trivial
  unfold Build.component
  refine hread.bindExcept fun text => ?_
  refine hprops.bindExcept fun loaded => ?_
  have hpure (result : Except Build.Fault Compiled) :
      (ExceptT.mk (pure result) : ExceptT Build.Fault Task Compiled).run.Straight := trivial
  refine (hpure _).bindExcept fun compiled => ?_
  have hassemble : (pure (Component.assemble source compiled loaded) :
      ExceptT Build.Fault Task Component).run.Straight :=
    trivial
  refine (hnote _ _).bindExcept ?_
  intro _
  generalize (Naming.ofPath? source).isNone = nameless
  cases nameless with
  | false => exact hassemble
  | true => exact (hnote _ _).bindExcept fun _ => hassemble

/-- what only reads can come before the other steps -/
theorem Orderly.bind {α β : Type} {source : Path} {props : Option Path} {dir : Path} {files : List Name}
    {failed : Disk.Fault → β} {Q : α → Prop} {t : Task α} {f : α → Task β} (ht : t.Meets (Reading source props) Q)
    (hf : ∀ a, Q a → Orderly source props dir files failed (f a)) :
    Orderly source props dir files failed (t.bind f) := by
  induction t with
  | done result => exact hf result ht
  | ask request next ih =>
    obtain ⟨hrequest, hnext⟩ := ht
    cases request with
    | makeDirs p => exact hrequest.elim
    | _ => exact ⟨hrequest, fun answer => ih answer (hnext answer)⟩
  | pick next ih => exact fun way => ih way (ht way)

/-! ## Writing -/

theorem writeFile_meets {dir : Path} {files : List Name} {name : String} (h : Utf8.encode name ∈ files)
    (text : String) :
    Task.Meets (Writing dir files) (Task.OnOk fun _ => True)
      (Output.writeFile (dir.join (.ofString name)) text).run := by
  refine ⟨⟨Utf8.encode name, h, rfl⟩, fun answer => ?_⟩
  cases answer <;> exact fun _ _ => trivial

theorem writeOptional_meets {dir : Path} {files : List Name} {name : String} (h : Utf8.encode name ∈ files)
    (text : Option String) :
    Task.Meets (Writing dir files) (Task.OnOk fun _ => True) (Output.writeOptional dir name text).run := by
  cases text with
  | none => exact fun _ _ => trivial
  | some text =>
    unfold Output.writeOptional
    apply Task.Meets.bindExcept (writeFile_meets h text)
    exact fun _ _ _ _ => trivial

/-- how a task ends when the directory of its component cannot be made -/
def unmade (output : Path) (identifier : String) (fault : Disk.Fault) : Except SourceFault Written :=
  .error (.write identifier (.makeDirs (Output.componentDir output identifier) fault))

theorem makeDirs_orderly {source : Path} {props : Option Path} {output : Path} {identifier : String} {files : List Name}
    {rest : Unit → ExceptT Output.Fault Task Written}
    (h : Task.Meets (Writing (Output.componentDir output identifier) files) (Task.OnOk fun _ => True) (rest ()).run) :
    Orderly source props (Output.componentDir output identifier) files (unmade output identifier)
      ((Output.makeDirs (Output.componentDir output identifier) >>= rest).adapt (SourceFault.write identifier)).run :=
  ⟨rfl, (h.adapt _).mono fun _ _ => trivial, fun _ => rfl⟩

theorem write_orderly (artifact : Artifact) (source : Path) (props : Option Path) (output : Path) :
    Orderly source props (Output.componentDir output artifact.identifier) artifact.files.entries
      (unmade output artifact.identifier)
      ((Output.write artifact output).adapt (SourceFault.write artifact.identifier)).run := by
  unfold Output.write
  apply makeDirs_orderly
  apply Task.Meets.bindExcept (writeFile_meets (by simp [FileNames.entries]) _)
  intro _ _
  apply Task.Meets.bindExcept (Task.Meets.tryBoth (writeOptional_meets (by simp [FileNames.entries]) _)
    (writeOptional_meets (by simp [FileNames.entries]) _))
  intro both _
  exact ⟨trivial, fun _ _ _ => trivial⟩

/-- compiling one source goes in order -/
theorem compileOne_orderly (target : Target) (props : Option Path) (output source : Path) :
    Orderly source props (Output.componentDir output (Component.identifierFor source)) target.files.entries
      (unmade output (Component.identifierFor source)) (compileOne target props output source).run := by
  unfold compileOne
  apply Orderly.bind ((component_meets target source props).adapt SourceFault.build)
  intro result hresult
  cases result with
  | error fault => trivial
  | ok c =>
    have hidentifier : c.identifier = Component.identifierFor source := hresult c rfl
    rw [← hidentifier]
    exact write_orderly (target.emit c) source props output

end Command

end ComponentCompiler
