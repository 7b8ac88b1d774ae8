import ComponentCompiler.Output
import ComponentCompiler.Proofs.Task

/-!
Writing an artifact goes by a plan.

The plan is a list of operations: make the directory of the component, then write the files that there are texts for. A
host answers every request at once, as it likes, so that the stylesheet comes before the script; writing carries the
plan out from its beginning (`write_prompt`). One operation succeeds, or fails with a fault that names it
(`perform_runIn`); so a list of them is carried out whole, or up to the first that fails (`performs_course`).
`write_follows_plan` says what that means for the operations that succeed and for the result.
-/

namespace ComponentCompiler

/-- what changes something where an artifact is written -/
inductive Operation where
  | makeDirs (dir : Path)
  | writeText (path : Path) (text : String)
  deriving DecidableEq, Repr

/-- an operation that was tried, and how it ended -/
structure Attempt where
  operation : Operation
  result : Except Disk.Fault Unit

namespace Attempt

def success (operation : Operation) : Attempt :=
  ⟨operation, .ok ()⟩

/-- the attempt that a request is, once it is answered -/
def ofAnswer : (request : Request) → request.Answer → Option Attempt
  | .makeDirs dir, result => some ⟨.makeDirs dir, result⟩
  | .writeText path text, result => some ⟨.writeText path text, result⟩
  | _, _ => none

/-- the operations that did not fail -/
def succeeded (attempts : List Attempt) : List Operation :=
  (attempts.filter (·.result.isOk)).map (·.operation)

@[simp]
theorem succeeded_append (a b : List Attempt) : succeeded (a ++ b) = succeeded a ++ succeeded b := by
  simp [succeeded]

@[simp]
theorem succeeded_map_success (operations : List Operation) : succeeded (operations.map success) = operations := by
  induction operations with
  | nil => rfl
  | cons operation operations ih => exact congrArg (operation :: ·) ih

@[simp]
theorem succeeded_failure (operation : Operation) (fault : Disk.Fault) : succeeded [⟨operation, .error fault⟩] = [] :=
  rfl

end Attempt

/-! ## What a host sees of a task -/

namespace Task

variable {σ α β ε : Type} (host : Host (StateM σ))

/-- the operations that a task tries on a host, in order -/
def attempts : Task α → σ → List Attempt
  | .done _, _ => []
  | .ask request next, s =>
    (Attempt.ofAnswer request ((host request).run s).1).toList ++
      (next ((host request).run s).1).attempts ((host request).run s).2
  | .pick next, s => (next true).attempts s

theorem runIn_bind (t : Task α) (f : α → Task β) (s : σ) :
    ((t.bind f).runIn host).run s = ((f ((t.runIn host).run s).1).runIn host).run ((t.runIn host).run s).2 := by
  induction t generalizing s with
  | done result => rfl
  | ask request next ih => exact ih _ _
  | pick next ih => exact ih true s

theorem attempts_bind (t : Task α) (f : α → Task β) (s : σ) :
    (t.bind f).attempts host s =
      t.attempts host s ++ (f ((t.runIn host).run s).1).attempts host ((t.runIn host).run s).2 := by
  induction t generalizing s with
  | done result => rfl
  | ask request next ih =>
    rw [attempts, List.append_assoc]
    exact congrArg _ (ih _ _)
  | pick next ih => exact ih true s

variable {x : ExceptT ε Task α} {f : α → ExceptT ε Task β} {s s' : σ}

theorem runIn_bindExcept_ok {a : α} (h : (x.run.runIn host).run s = (.ok a, s')) :
    ((x >>= f).run.runIn host).run s = ((f a).run.runIn host).run s' ∧
      (x >>= f).run.attempts host s = x.run.attempts host s ++ (f a).run.attempts host s' := by
  refine ⟨(runIn_bind host x.run _ s).trans ?_, (attempts_bind host x.run _ s).trans ?_⟩ <;> rw [h] <;> rfl

theorem runIn_bindExcept_error {fault : ε} (h : (x.run.runIn host).run s = (.error fault, s')) :
    ((x >>= f).run.runIn host).run s = (.error fault, s') ∧
      (x >>= f).run.attempts host s = x.run.attempts host s := by
  refine ⟨(runIn_bind host x.run _ s).trans ?_, (attempts_bind host x.run _ s).trans ?_⟩
  · rw [h]
    rfl
  · rw [h]
    exact List.append_nil _

/-! ## Choices -/

/-- a task without its choices: it goes the first way at each of them -/
def prompt : Task α → Task α
  | .done result => .done result
  | .ask request next => .ask request fun answer => (next answer).prompt
  | .pick next => (next true).prompt

theorem prompt_runIn (t : Task α) (s : σ) : (t.prompt.runIn host).run s = (t.runIn host).run s := by
  induction t generalizing s with
  | done result => rfl
  | ask request next ih => exact ih _ _
  | pick next ih => exact ih true s

theorem prompt_attempts (t : Task α) (s : σ) : t.prompt.attempts host s = t.attempts host s := by
  induction t generalizing s with
  | done result => rfl
  | ask request next ih => exact congrArg _ (ih _ _)
  | pick next ih => exact ih true s

theorem prompt_bind (t : Task α) (f : α → Task β) : (t.bind f).prompt = t.prompt.bind fun a => (f a).prompt := by
  induction t with
  | done result => rfl
  | ask request next ih => exact congrArg (Task.ask request) (funext ih)
  | pick next ih => exact ih true

theorem Straight.prompt {t : Task α} (h : t.Straight) : t.prompt = t := by
  induction t with
  | done result => rfl
  | ask request next ih => exact congrArg (Task.ask request) (funext fun answer => ih answer (h answer))
  | pick next ih => exact h.elim

/-- the same of a task that may fail -/
def promptly (x : ExceptT ε Task α) : ExceptT ε Task α :=
  ExceptT.mk x.run.prompt

theorem Straight.promptly {x : ExceptT ε Task α} (h : x.run.Straight) : promptly x = x :=
  h.prompt

theorem promptly_pure (a : α) : promptly (pure a : ExceptT ε Task α) = pure a :=
  rfl

theorem promptly_bind (x : ExceptT ε Task α) (f : α → ExceptT ε Task β) :
    promptly (x >>= f) = promptly x >>= fun a => promptly (f a) := by
  refine (prompt_bind x.run _).trans (congrArg x.run.prompt.bind (funext fun result => ?_))
  cases result <;> rfl

/-- two tasks at once are done one after the other -/
theorem promptly_tryBoth (x : ExceptT ε Task α) (y : ExceptT ε Task β) :
    promptly (tryBoth x y) = do return (← promptly x, ← promptly y) := by
  refine (prompt_bind x.run _).trans (congrArg x.run.prompt.bind (funext fun result => ?_))
  cases result with
  | error fault => rfl
  | ok a =>
    refine (prompt_bind y.run _).trans (congrArg y.run.prompt.bind (funext fun result => ?_))
    cases result <;> rfl

end Task

namespace Operation

def perform : Operation → ExceptT Output.Fault Task Unit
  | .makeDirs dir => Output.makeDirs dir
  | .writeText path text => Output.writeFile path text

/-- the fault of an operation that failed: it says which one -/
def fault : Operation → Disk.Fault → Output.Fault
  | .makeDirs dir => .makeDirs dir
  | .writeText path _ => .writeText path

end Operation

/-! ## Operations one after the other -/

namespace Output

variable {σ : Type} (host : Host (StateM σ))

/-- one operation is tried once, and if it fails the fault names it -/
theorem perform_runIn (operation : Operation) (s : σ) :
    ∃ (result : Except Disk.Fault Unit) (s' : σ),
      (operation.perform.run.runIn host).run s = (result.mapError operation.fault, s') ∧
        operation.perform.run.attempts host s = [⟨operation, result⟩] := by
  cases operation with
  | makeDirs dir =>
    rcases hask : ((Task.makeDirs dir).runIn host).run s with ⟨result, s'⟩
    have htried : (Task.makeDirs dir).attempts host s = [⟨.makeDirs dir, result⟩] :=
      congrArg (fun answered : Except Disk.Fault Unit × σ => [Attempt.mk (.makeDirs dir) answered.1]) hask
    refine ⟨result, s', (Task.runIn_bind host (Task.makeDirs dir) _ s).trans ?_,
      (Task.attempts_bind host (Task.makeDirs dir) _ s).trans ?_⟩
    · rw [hask]
      cases result <;> rfl
    · rw [hask, htried]
      cases result <;> rfl
  | writeText path text =>
    rcases hask : ((Task.writeText path text).runIn host).run s with ⟨result, s'⟩
    have htried : (Task.writeText path text).attempts host s = [⟨.writeText path text, result⟩] :=
      congrArg (fun answered : Except Disk.Fault Unit × σ => [Attempt.mk (.writeText path text) answered.1]) hask
    refine ⟨result, s', (Task.runIn_bind host (Task.writeText path text) _ s).trans ?_,
      (Task.attempts_bind host (Task.writeText path text) _ s).trans ?_⟩
    · rw [hask]
      cases result <;> rfl
    · rw [hask, htried]
      cases result <;> rfl

/-- how operations are carried out in their order: all succeed and a value comes out, or the first that fails is the
last one that is tried, and its fault comes out -/
inductive Course {α : Type} (value : α) (operations : List Operation) : Except Fault α → List Attempt → Prop
  | whole : Course value operations (.ok value) (operations.map .success)
  | broken (done later : List Operation) (operation : Operation) (reason : Disk.Fault)
      (split : operations = done ++ operation :: later) :
      Course value operations (.error (operation.fault reason)) (done.map .success ++ [⟨operation, .error reason⟩])

theorem Course.cons {α : Type} {value : α} {operations : List Operation} {result : Except Fault α}
    {attempts : List Attempt} (h : Course value operations result attempts) (operation : Operation) :
    Course value (operation :: operations) result (.success operation :: attempts) := by
  cases h with
  | whole => exact .whole
  | broken done later failed reason split =>
    subst split
    exact .broken (operation :: done) later failed reason rfl

theorem performs_cons (operation : Operation) (operations : List Operation) :
    (operation :: operations).forM Operation.perform =
      operation.perform >>= fun _ => operations.forM Operation.perform :=
  rfl

theorem performs_course (operations : List Operation) (s : σ) :
    Course () operations (((operations.forM Operation.perform).run.runIn host).run s).1
      ((operations.forM Operation.perform).run.attempts host s) := by
  induction operations generalizing s with
  | nil => exact .whole
  | cons operation operations ih =>
    obtain ⟨result, s', hrun, hattempts⟩ := perform_runIn host operation s
    rw [performs_cons]
    cases result with
    | error reason =>
      obtain ⟨hwhole, htried⟩ := Task.runIn_bindExcept_error host (f := fun _ => operations.forM Operation.perform) hrun
      rw [hwhole, htried, hattempts]
      exact .broken [] operations operation reason rfl
    | ok _ =>
      obtain ⟨hwhole, htried⟩ := Task.runIn_bindExcept_ok host (f := fun _ => operations.forM Operation.perform) hrun
      rw [hwhole, htried, hattempts]
      exact (ih s').cons operation

/-! ## The plan -/

/-- the files beside the source of an artifact, name and text: its stylesheet and its script, if there are any -/
def sidecars (artifact : Artifact) : List (String × String) :=
  (artifact.styles.map (artifact.files.styles, ·)).toList ++ (artifact.script.map (artifact.files.script, ·)).toList

/-- all files of an artifact -/
def texts (artifact : Artifact) : List (String × String) :=
  (artifact.files.component, artifact.source) :: sidecars artifact

def writeInto (dir : Path) (file : String × String) : Operation :=
  .writeText (dir.join (.ofString file.1)) file.2

/-- what is to be done for an artifact: its directory is made, and then its files are written -/
def plan (artifact : Artifact) (root : Path) : List Operation :=
  let dir := componentDir root artifact.identifier
  .makeDirs dir :: (texts artifact).map (writeInto dir)

/-- what is written for an artifact if all goes well -/
def destination (artifact : Artifact) (root : Path) : Written where
  dir := componentDir root artifact.identifier
  component := (componentDir root artifact.identifier).join (.ofString artifact.files.component)
  styles := artifact.styles.map fun _ => (componentDir root artifact.identifier).join (.ofString artifact.files.styles)
  script := artifact.script.map fun _ => (componentDir root artifact.identifier).join (.ofString artifact.files.script)

theorem note_straight (level : Level) (text : String) :
    (liftM (Task.note level text) : ExceptT Fault Task Unit).run.Straight :=
  fun _ => trivial

theorem makeDirs_straight (dir : Path) : (makeDirs dir).run.Straight := by
  intro answer
  cases answer <;> trivial

theorem writeFile_straight (path : Path) (text : String) : (writeFile path text).run.Straight := by
  intro answer
  cases answer <;> trivial

theorem writeOptional_straight (dir : Path) (name : String) (text : Option String) :
    (writeOptional dir name text).run.Straight := by
  cases text with
  | none => trivial
  | some text => exact (writeFile_straight _ text).bindExcept fun _ => trivial

/-- with a host, writing carries the plan out and then tells where things are -/
theorem write_prompt (artifact : Artifact) (root : Path) :
    (write artifact root).run.prompt = (do
      (plan artifact root).forM Operation.perform
      Task.note .debug ("Wrote " ++ artifact.identifier ++ " to " ++ (componentDir root artifact.identifier).display)
      return destination artifact root : ExceptT Fault Task Written).run := by
  refine congrArg ExceptT.run (?_ : Task.promptly (write artifact root) = _)
  unfold write
  simp only [Task.promptly_bind, Task.promptly_tryBoth, (makeDirs_straight _).promptly,
    (writeFile_straight _ _).promptly, (writeOptional_straight _ _ _).promptly, (note_straight _ _).promptly,
    Task.promptly_pure]
  unfold plan texts sidecars destination
  cases artifact.styles with
  | none => cases artifact.script <;> simp [writeOptional, writeInto, Operation.perform]
  | some styles => cases artifact.script <;> simp [writeOptional, writeInto, Operation.perform]

/-- a directory is made at the beginning only -/
theorem makeDirs_of_plan {artifact : Artifact} {root dir : Path} {done later : List Operation}
    (h : plan artifact root = done ++ .makeDirs dir :: later) :
    done = [] ∧ dir = componentDir root artifact.identifier := by
  cases done with
  | nil => exact ⟨rfl, (Operation.makeDirs.inj (List.cons.inj h).1).symm⟩
  | cons first done =>
    -- what follows the first operation writes
    have hmem : Operation.makeDirs dir ∈ (plan artifact root).tail := by simp [h]
    simp [plan, writeInto] at hmem

theorem write_course (s : σ) (artifact : Artifact) (root : Path) :
    Course (destination artifact root) (plan artifact root) (((write artifact root).run.runIn host).run s).1
      ((write artifact root).run.attempts host s) := by
  have hcourse := performs_course host (plan artifact root) s
  rw [← Task.prompt_runIn, ← Task.prompt_attempts, write_prompt]
  rcases hrun : (((plan artifact root).forM Operation.perform).run.runIn host).run s with ⟨result, s'⟩
  generalize htried : ((plan artifact root).forM Operation.perform).run.attempts host s = tried at hcourse
  rw [hrun] at hcourse
  -- the note at the end is no operation
  cases hcourse with
  | whole =>
    rw [(Task.runIn_bindExcept_ok host hrun).1, (Task.runIn_bindExcept_ok host hrun).2, htried]
    exact (List.append_nil _).symm ▸ .whole
  | broken done later operation reason split =>
    rw [(Task.runIn_bindExcept_error host hrun).1, (Task.runIn_bindExcept_error host hrun).2, htried]
    exact .broken done later operation reason split

/-- **Writing follows its plan on every host.** The operations that succeed are the beginning of the plan. All of them
do exactly when the result is good, and then it tells the directory and the files, and no file for a text that is not
there. Otherwise the one operation that failed is the last that was tried, and the fault names it: the directory, with
nothing written, or the file, with everything before it in the plan written and nothing after it tried. -/
theorem write_follows_plan (s : σ) (artifact : Artifact) (root : Path) :
    let result := (((write artifact root).run.runIn host).run s).1
    let attempts := (write artifact root).run.attempts host s
    Attempt.succeeded attempts <+: plan artifact root ∧
      (result.isOk = true ↔ Attempt.succeeded attempts = plan artifact root) ∧
      (∀ written, result = .ok written →
        written = destination artifact root ∧ attempts = (plan artifact root).map .success) ∧
      ∀ fault, result = .error fault →
        (∃ reason, fault = .makeDirs (componentDir root artifact.identifier) reason ∧
          attempts = [⟨.makeDirs (componentDir root artifact.identifier), .error reason⟩]) ∨
        ∃ done path text later reason, plan artifact root = done ++ .writeText path text :: later ∧
          fault = .writeText path reason ∧ attempts = done.map .success ++ [⟨.writeText path text, .error reason⟩] := by
  have hcourse := write_course host s artifact root
  dsimp only
  generalize (((write artifact root).run.runIn host).run s).1 = result at hcourse ⊢
  generalize (write artifact root).run.attempts host s = attempts at hcourse ⊢
  cases hcourse with
  | whole =>
    rw [Attempt.succeeded_map_success]
    refine ⟨List.prefix_rfl, iff_of_true rfl rfl, fun written hwritten => ?_, fun fault hfault => ?_⟩
    · exact ⟨(Except.ok.inj hwritten).symm, rfl⟩
    · cases hfault
  | broken done later operation reason split =>
    rw [Attempt.succeeded_append, Attempt.succeeded_map_success, Attempt.succeeded_failure, List.append_nil]
    refine ⟨?_, iff_of_false (by simp [Except.isOk, Except.toBool]) ?_, fun written hwritten => ?_,
      fun fault hfault => ?_⟩
    · rw [split]
      exact List.prefix_append _ _
    · simp [split]
    · cases hwritten
    · obtain rfl := Except.error.inj hfault
      cases operation with
      | makeDirs dir =>
        obtain ⟨rfl, rfl⟩ := makeDirs_of_plan split
        exact Or.inl ⟨reason, rfl, rfl⟩
      | writeText path text => exact Or.inr ⟨done, path, text, later, reason, split, rfl, rfl⟩

/-- a host that refuses stylesheets and knows nothing else that could be asked for -/
def refusesStyles : Host (StateM Unit)
  | .writeText path _ =>
    return if path.extension? = some (Text.Utf8.encode "css") then .error (.refused "denied") else .ok ()
  | .makeDirs _ => return .ok ()
  | .readText _ => return .error .notFound
  | .isPresent _ => return false
  | .isDirectory _ => return false
  | .sourcesBelow _ => return []
  | .note _ => return ()
  | .print _ => return ()
  | .complain _ => return ()

/-- after the stylesheet was refused the script is not tried, and the source stays -/
theorem refused_stylesheet_ends_writing :
    let artifact : Artifact := ⟨"x", some "p \x7b\x7d", some "go();", "Card",
      ⟨"index.tsx", "index.css", "web-component.js"⟩⟩
    let result := (((write artifact (.ofString "o")).run.runIn refusesStyles).run ()).1
    let attempts := (write artifact (.ofString "o")).run.attempts refusesStyles ()
    result.isOk = false ∧
      attempts.map (·.operation) =
        [.makeDirs (.ofString "o/components/Card"), .writeText (.ofString "o/components/Card/index.tsx") "x",
          .writeText (.ofString "o/components/Card/index.css") "p \x7b\x7d"] ∧
      Attempt.succeeded attempts <+: plan artifact (.ofString "o") ∧
      Attempt.succeeded attempts ≠ plan artifact (.ofString "o") := by
  intro artifact result attempts
  have hresult : result.isOk = false := by decide +kernel
  obtain ⟨hbegins, hall, -, -⟩ := write_follows_plan refusesStyles () artifact (.ofString "o")
  refine ⟨hresult, by decide +kernel, hbegins, fun heq => ?_⟩
  have hok : result.isOk = true := hall.2 heq
  rw [hresult] at hok
  cases hok

end Output

end ComponentCompiler
