import Mathlib.Data.List.Nodup
import Mathlib.Data.List.Forall2
import ComponentCompiler.Proofs.Command.Together
import ComponentCompiler.Proofs.Interleaving

/-!
Sources that are compiled in turns.

Each source of a batch has a lane: its task in the pool, and the same task with the disk for itself. `LaneOk` says that
the two are in step. A turn of one lane moves both sides on, and where the task has a choice both go the same way
(`exists_laneStep`). The other lanes stay in step, so all of them do for any sequence of turns (`InStep.turns`). When
all tasks are done, the disk and the results fit to what the sources have come to in their lanes
(`finished_of_interleaves`).
-/

namespace ComponentCompiler.Command

open Text ComponentCompiler.Path Disk

/-- what only reads, makes the directory and writes files still does so when its result is put into a pair -/
theorem Orderly.map {α β : Type} {source : Path} {props : Option Path} {dir : Path} {files : List Name}
    {failed : Disk.Fault → α} {t : Task α} (h : Orderly source props dir files failed t) (g : α → β) :
    Orderly source props dir files (fun fault => g (failed fault)) (t.bind fun a => .done (g a)) := by
  induction t with
  | done result => trivial
  | ask request next ih =>
    cases request with
    | makeDirs p =>
      obtain ⟨hdir, hok, herror⟩ := h
      refine ⟨hdir, Task.Meets.bind hok fun _ _ => trivial, fun fault => ?_⟩
      exact congrArg (fun t => t.bind fun a => .done (g a)) (herror fault)
    | _ => exact ⟨h.1, fun answer => ih answer (h.2 answer)⟩
  | pick next ih => exact fun way => ih way (h way)

namespace Batch

variable {b : Batch} {source : Path} {d e : Disk}

def task (b : Batch) (source : Path) : Task Result :=
  attempt b.target none b.output source

/-- the result for a source when the directory of its component cannot be made -/
def failed (b : Batch) (source : Path) (fault : Disk.Fault) : Result :=
  (source, unmade b.output (Component.identifierFor source) fault)

/-- two results of one source: the same, or both that the base is not made -/
def SameResult (b : Batch) (source : Path) (r r' : Result) : Prop :=
  r = r' ∨ ∃ fault fault', b.Refused fault ∧ b.Refused fault' ∧ r = b.failed source fault ∧ r' = b.failed source fault'

theorem SameResult.symm {r r' : Result} (h : b.SameResult source r r') : b.SameResult source r' r := by
  rcases h with rfl | ⟨fault, fault', hfault, hfault', hr, hr'⟩
  · exact Or.inl rfl
  · exact Or.inr ⟨fault', fault, hfault', hfault, hr', hr⟩

theorem SameResult.trans {r r' r'' : Result} (h : b.SameResult source r r') (h' : b.SameResult source r' r'') :
    b.SameResult source r r'' := by
  rcases h with rfl | ⟨fault, fault', hfault, hfault', hr, hr'⟩
  · exact h'
  · rcases h' with rfl | ⟨-, fault'', -, hfault'', -, hr''⟩
    · exact Or.inr ⟨fault, fault', hfault, hfault', hr, hr'⟩
    · exact Or.inr ⟨fault, fault'', hfault, hfault'', hr, hr''⟩

theorem sameResult_failed {fault fault' : Disk.Fault} (h : b.SameFault fault fault') :
    b.SameResult source (b.failed source fault) (b.failed source fault') := by
  rcases h with rfl | ⟨hfault, hfault'⟩
  · exact Or.inl rfl
  · exact Or.inr ⟨fault, fault', hfault, hfault', rfl, rfl⟩

/-! ## Lanes -/

/-- a source, its task in the pool, and the disk and the rest of the task when it is compiled alone -/
structure Lane where
  source : Path
  task : Task Result
  alone : Disk
  rest : Task Result

/-- a task and what is left of it in the run alone: the same, or both done -/
inductive Agree (b : Batch) (source : Path) (alone : Disk) : Task Result → Task Result → Prop
  | reading {t : Task Result} (h : Orderly source none (b.dir source) b.target.files.entries (b.failed source) t) :
      Agree b source alone t t
  | writing {t : Task Result} (h : t.Meets (Writing (b.dir source) b.target.files.entries) fun _ => True)
      (hmade : b.Made alone source) : Agree b source alone t t
  | done {r r' : Result} (h : b.SameResult source r r') : Agree b source alone (.done r) (.done r')

/-- a lane whose two sides are in step -/
structure LaneOk (b : Batch) (d : Disk) (lane : Lane) : Prop where
  mem : lane.source ∈ b.sources
  runs : ∀ r e, lane.alone.Ends lane.rest r e → b.disk.Ends (b.task lane.source) r e
  sound : b.Sound [lane.source] lane.alone
  follows : b.Follows d lane.alone lane.source
  agree : b.Agree lane.source lane.alone lane.task lane.rest

structure LaneStep (b : Batch) (d e : Disk) (lane lane' : Lane) : Prop where
  source : lane'.source = lane.source
  ok : b.LaneOk e lane'
  shared : b.Effect lane.source d e
  ready : b.Ready lane.alone → b.Ready lane'.alone
  touched : e = d ∨ b.Ready lane'.alone

theorem LaneOk.step {lane : Lane} {single : Disk} {task rest : Task Result} (h : b.LaneOk d lane)
    (htogether : b.Together lane.source d lane.alone e single)
    (hruns : ∀ r e, single.Ends rest r e → lane.alone.Ends lane.rest r e)
    (hagree : b.Agree lane.source single task rest) : b.LaneStep d e lane ⟨lane.source, task, single, rest⟩ where
  source := rfl
  ok := ⟨h.mem, fun r e hends => h.runs r e (hruns r e hends), htogether.own.sound _ List.mem_cons_self h.sound,
    htogether.follows, hagree⟩
  shared := htogether.shared
  ready := htogether.own.ready
  touched := htogether.touched

theorem serve_write_ok {p : Path} {text : String} (h : d.writeText p text = .ok e) :
    d.serve (.writeText p text) = (.ok (), e) := by
  simp only [serve, Session.answer, h, Session.update]

theorem serve_write_error {p : Path} {text : String} {fault : Disk.Fault} (h : d.writeText p text = .error fault) :
    d.serve (.writeText p text) = (.error fault, d) := by
  simp only [serve, Session.answer, h, Session.update]

section Turns

variable {alone single : Disk} {request : Request} {next : request.Answer → Task Result}

/-- a request is served on both sides, with answers after which the task and its rest agree -/
theorem LaneOk.serve {answer answer' : request.Answer}
    (h : b.LaneOk d ⟨source, .ask request next, alone, .ask request next⟩) (hd : d.serve request = (answer, e))
    (halone : alone.serve request = (answer', single))
    (htogether : b.Together source d alone e single) (hagree : b.Agree source single (next answer) (next answer')) :
    ∃ lane', b.LaneStep d (d.serve request).2 ⟨source, .ask request next, alone, .ask request next⟩ lane' ∧
      lane'.task = next (d.serve request).1 := by
  have hruns : ∀ r e, single.Ends (next answer') r e → alone.Ends (.ask request next) r e := by
    intro r e hends
    rw [Disk.Ends, halone]
    exact hends
  rw [hd]
  exact ⟨_, h.step htogether hruns hagree, rfl⟩

/-- a turn of a task that reads or makes its directory -/
theorem LaneOk.turn_reading (h : b.LaneOk d ⟨source, .ask request next, alone, .ask request next⟩)
    (hd : b.Sound b.sources d)
    (horderly : Orderly source none (b.dir source) b.target.files.entries (b.failed source) (.ask request next)) :
    ∃ lane', b.LaneStep d (d.serve request).2 ⟨source, .ask request next, alone, .ask request next⟩ lane' ∧
      lane'.task = next (d.serve request).1 := by
  have hsound : b.Sound [source] alone := h.sound
  have hfollows : b.Follows d alone source := h.follows
  cases request with
  | readText p =>
    obtain ⟨hp, hnext⟩ := horderly
    obtain rfl : p = source := hp.resolve_right (by simp)
    have hsource := b.found p h.mem
    have hread := Discovery.readText_of_source b.noLinks hd.noLinks hd.keeps hd.intact hsource
    have hread' := Discovery.readText_of_source b.noLinks hsound.noLinks hsound.keeps hsound.intact hsource
    have hanswer : alone.serve (.readText p) = (d.readText p, alone) := by
      rw [hread, ← hread']
      rfl
    exact h.serve rfl hanswer (Together.refl hfollows) (Agree.reading (hnext _))
  | note entry => exact h.serve rfl rfl (Together.refl hfollows) (Agree.reading (horderly.2 ()))
  | makeDirs p =>
    obtain ⟨hp, hok, herror⟩ := horderly
    have hmake := makeDirs_together (b.ordinary source h.mem) hd hsound hfollows
    rw [← hp] at hmake
    rcases hmake with
      ⟨fault, fault', e, single, he, hsingle, hsame, htogether⟩ | ⟨e, single, he, hsingle, hmade, htogether⟩
    · refine h.serve he hsingle htogether ?_
      rw [herror, herror]
      exact Agree.done (sameResult_failed hsame)
    · exact h.serve he hsingle htogether (Agree.writing hok hmade)
  | _ => exact horderly.1.elim

/-- a turn of a task that writes its files -/
theorem LaneOk.turn_writing (h : b.LaneOk d ⟨source, .ask request next, alone, .ask request next⟩) (hd : d.NoLinks)
    (hmade : b.Made alone source)
    (hmeets : Task.Meets (Writing (b.dir source) b.target.files.entries) (fun _ => True) (.ask request next)) :
    ∃ lane', b.LaneStep d (d.serve request).2 ⟨source, .ask request next, alone, .ask request next⟩ lane' ∧
      lane'.task = next (d.serve request).1 := by
  have hsound : b.Sound [source] alone := h.sound
  have hfollows : b.Follows d alone source := h.follows
  obtain ⟨hrequest, hnext⟩ := hmeets
  cases request with
  | writeText p text =>
    obtain ⟨file, hfile, rfl⟩ := hrequest
    rcases write_together (b.ordinary source h.mem) hd hsound.noLinks hfollows hmade hfile text with
      ⟨fault, he, hsingle⟩ | ⟨e, single, he, hsingle, hmade', htogether⟩
    · exact h.serve (serve_write_error he) (serve_write_error hsingle) (Together.refl hfollows)
        (Agree.writing (hnext _) hmade)
    · exact h.serve (serve_write_ok he) (serve_write_ok hsingle) htogether (Agree.writing (hnext _) hmade')
  | note entry => exact h.serve rfl rfl (Together.refl hfollows) (Agree.writing (hnext ()) hmade)
  | _ => exact hrequest.elim

/-- where the task has a choice, the run alone goes the same way -/
theorem LaneOk.choose {next : Bool → Task Result} (h : b.LaneOk d ⟨source, .pick next, alone, .pick next⟩) (way : Bool)
    (hagree : b.Agree source alone (next way) (next way)) :
    b.LaneStep d d ⟨source, .pick next, alone, .pick next⟩ ⟨source, next way, alone, next way⟩ :=
  h.step (Together.refl h.follows) (fun _ _ hends => ⟨way, hends⟩) hagree

/-- the run alone goes along with every turn of a task -/
theorem exists_laneStep {lane : Lane} {s s' : Session} {t : Task Result} (h : b.LaneOk s.disk lane)
    (hd : b.Sound b.sources s.disk) (hstep : s.Step lane.task t s') :
    ∃ lane', b.LaneStep s.disk s'.disk lane lane' ∧ lane'.task = t := by
  obtain ⟨source, task, alone, rest⟩ := lane
  have hagree : b.Agree source alone task rest := h.agree
  cases hstep with
  | answer request next =>
    obtain ⟨hanswer, hdisk⟩ := s.answer_eq_serve request
    rw [hanswer, hdisk]
    cases hagree with
    | reading horderly => exact h.turn_reading hd horderly
    | writing hmeets hmade => exact h.turn_writing hd.noLinks hmade hmeets
  | choice next way =>
    cases hagree with
    | reading horderly => exact ⟨_, h.choose way (Agree.reading (horderly way)), rfl⟩
    | writing hmeets hmade => exact ⟨_, h.choose way (Agree.writing (hmeets way) hmade), rfl⟩

end Turns

/-! ## The pool -/

/-- the lanes of a pool are in step -/
structure InStep (b : Batch) (lanes : List Lane) (p : Pool Result) : Prop where
  sources : lanes.map Lane.source = b.sources
  tasks : lanes.map Lane.task = p.tasks
  ok : ∀ lane ∈ lanes, b.LaneOk p.session.disk lane
  sound : b.Sound b.sources p.session.disk
  touched : p.session.disk = b.disk ∨ ∃ lane ∈ lanes, b.Ready lane.alone

def start (b : Batch) (source : Path) : Lane :=
  ⟨source, b.task source, b.disk, b.task source⟩

theorem LaneOk.other {lane : Lane} (h : b.LaneOk d lane) (heffect : b.Effect source d e)
    (hne : nameOf lane.source ≠ nameOf source) : b.LaneOk e lane :=
  ⟨h.mem, h.runs, h.sound, heffect.others _ _ hne h.follows, h.agree⟩

theorem InStep.nameOf_ne {left right : List Lane} {lane other : Lane} {p : Pool Result}
    (h : b.InStep (left ++ lane :: right) p) (hmem : other ∈ left ∨ other ∈ right) :
    nameOf other.source ≠ nameOf lane.source := by
  have hdistinct := b.distinct
  rw [← h.sources, List.map_append, List.map_append, List.map_cons, List.map_cons, List.nodup_middle, List.nodup_cons,
    ← List.map_append, ← List.map_append] at hdistinct
  intro heq
  refine hdistinct.1 ?_
  rw [← heq]
  exact List.mem_map_of_mem (List.mem_map_of_mem (List.mem_append.2 hmem))

theorem InStep.touched_step {left right : List Lane} {lane lane' : Lane} {p : Pool Result}
    (h : b.InStep (left ++ lane :: right) p) (hstep : b.LaneStep p.session.disk e lane lane') :
    e = b.disk ∨ ∃ other ∈ left ++ lane' :: right, b.Ready other.alone := by
  rcases hstep.touched with rfl | hready
  · refine h.touched.imp_right fun ⟨other, hmem, hready⟩ => ?_
    rcases List.mem_append.1 hmem with hleft | hright
    · exact ⟨other, by simp [hleft], hready⟩
    · rcases List.mem_cons.1 hright with rfl | hright
      · exact ⟨lane', by simp, hstep.ready hready⟩
      · exact ⟨other, by simp [hright], hready⟩
  · exact Or.inr ⟨lane', by simp, hready⟩

/-- a turn keeps all lanes in step -/
theorem InStep.turn {lanes : List Lane} {p q : Pool Result} (h : b.InStep lanes p) (hturn : Turn p q) :
    ∃ lanes', b.InStep lanes' q := by
  obtain ⟨before, after, hstep⟩ := hturn
  -- the lane that has the turn stands between those that do not notice it
  obtain ⟨left, others, rfl, hbefore, hothers⟩ := List.map_eq_append_iff.1 h.tasks
  obtain ⟨lane, right, rfl, htask, hafter⟩ := List.map_eq_cons_iff.1 hothers
  have hlane := h.ok lane (by simp)
  rw [← htask] at hstep
  obtain ⟨lane', hstep, htask'⟩ := exists_laneStep hlane h.sound hstep
  refine ⟨left ++ lane' :: right, ?_, ?_, fun other hmem => ?_, hstep.shared.sound b.sources hlane.mem h.sound,
    h.touched_step hstep⟩
  · have hsources := h.sources
    rw [List.map_append, List.map_cons] at hsources ⊢
    rw [hstep.source, hsources]
  · rw [List.map_append, List.map_cons, hbefore, hafter, htask']
  · rcases List.mem_append.1 hmem with hleft | hright
    · exact (h.ok other (by simp [hleft])).other hstep.shared (h.nameOf_ne (Or.inl hleft))
    · rcases List.mem_cons.1 hright with rfl | hright
      · exact hstep.ok
      · exact (h.ok other (by simp [hright])).other hstep.shared (h.nameOf_ne (Or.inr hright))

/-- an end that a source can come to alone -/
structure Alone (b : Batch) (source : Path) (r : Result) (e : Disk) : Prop where
  ends : b.disk.Ends (b.task source) r e
  sound : b.Sound [source] e

/-- a result and a disk that fit to an end of a source alone -/
def Fits (b : Batch) (d : Disk) (source : Path) (r : Result) : Prop :=
  ∃ r' e, b.Alone source r' e ∧ b.SameResult source r r' ∧ b.Follows d e source

/-- results and a disk that fit to what each source does alone -/
structure Finished (b : Batch) (results : List Result) (d : Disk) : Prop where
  sound : b.Sound b.sources d
  fits : List.Forall₂ (b.Fits d) b.sources results
  touched : d = b.disk ∨ ∃ source ∈ b.sources, ∃ r e, b.Alone source r e ∧ b.Ready e

end Batch

end ComponentCompiler.Command
