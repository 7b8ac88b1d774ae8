import ComponentCompiler.Proofs.Disk.Reach

/-!
Making directories.

- `makeDir_cases`: one directory is made at a vacant place that the path then leads to, or the attempt fails as a walk
along the path fails. There is one exception: where something stands in the way, the attempt says that it exists and the
walk says that it is no directory. - `makeChain_grows`: whatever list of paths directories are made for, nothing but new
directories appears, and each of them is where one of the paths leads. - `makeDirs_settled`: a path and its ancestors
are made until the path leads to a directory, or until it is blocked for good. - `makeChain_exact`: without a step back
on the way, the fault of the attempt is the fault of the path from then on.
-/

namespace ComponentCompiler.Disk

open ComponentCompiler.Path

/-! ## One directory -/

theorem trimSlashes_eq_rdropWhile (names : List Name) : trimSlashes names = names.rdropWhile (·.isEmpty) :=
  rfl

/-- a path is slashes only, or a way, a name and slashes -/
theorem trimSlashes_cases (names : List Name) :
    (trimSlashes names = [] ∧ leading names = []) ∨
      ∃ front last, trimSlashes names = front ++ [last] ∧ last ≠ [] ∧ leading names = leading (front ++ [last]) := by
  induction names using List.reverseRecOn with
  | nil => exact Or.inl ⟨rfl, rfl⟩
  | append_singleton names last ih =>
    rw [trimSlashes_eq_rdropWhile, List.rdropWhile_concat]
    split_ifs with hlast
    · obtain rfl := List.isEmpty_iff.1 hlast
      have hdrop : leading (names ++ [[]]) = leading names := by
        rw [leading_append]
        exact List.append_nil _
      rw [hdrop, ← trimSlashes_eq_rdropWhile]
      exact ih
    · exact Or.inr ⟨names, last, rfl, by simpa using hlast, rfl⟩

/-- the place that a name would get in a directory, if it is free -/
def claim (d : Disk) (name : Name) (here : Place) : Except Fault Place :=
  if name = dot ∨ name = dotDot then .error .alreadyExists
  else nameIn here name >>= fun place => if (d.entry? place).isSome then .error .alreadyExists else .ok place

theorem vacancy_of_slashes {d : Disk} {p : Path} (hp : trimSlashes (pieces p.octets) = []) :
    d.vacancy p = checkPath p >>= fun _ => .error .alreadyExists := by
  unfold vacancy
  rw [hp]
  rfl

theorem vacancy_of_name {d : Disk} (h : d.NoLinks) {p : Path} {front : List Name} {last : Name}
    (hp : trimSlashes (pieces p.octets) = front ++ [last]) :
    d.vacancy p = checkPath p >>= fun _ => d.reach (d.startOf p) front >>= d.claim last := by
  obtain ⟨onLink, hfollow⟩ := exists_follow_eq_walk d .find maxLinks
  unfold vacancy
  rw [hp, List.reverse_append, List.reverse_singleton, List.singleton_append]
  have hslash : isIdle [] = true := rfl
  simp only [List.reverse_reverse, hfollow, ← seek_front h onLink _ _ hslash]
  congr 1
  funext _
  rcases d.walk .find onLink (d.startOf p) (front ++ [[]]) with fault | ⟨here⟩ | ⟨here, slashed⟩
  · rfl
  · simp only [except_ok_bind, found, claim, Bool.or_eq_true, beq_iff_eq, nameIn]
    split_ifs <;> first | rfl | simp_all
  · rfl

theorem enter_name {d : Disk} {here : Place} {name : Name} (hidle : isIdle name = false) (hup : name ≠ dotDot) :
    d.enter here name = nameIn here name >>= fun place =>
      if (d.entry? place).isSome then .ok place else .error .notFound := by
  simp only [enter, hidle, Bool.false_eq_true, if_false, hup, nameIn]
  split_ifs <;> simp_all [except_error_bind]

theorem reach_name {d : Disk} {here : Place} {name : Name} (hidle : isIdle name = false) (hup : name ≠ dotDot)
    (hlength : name.length ≤ maxName) (hhere : d.entry? here = some .directory)
    (hname : d.entry? (here ++ [name]) = some .directory) : d.reach here [name] = .ok (here ++ [name]) := by
  simp only [reach_singleton, stand_of_directory hhere, enter_name hidle hup, nameIn,
    if_neg (Nat.not_lt.2 hlength), hname,
    except_ok_bind, Option.isSome_some, if_true, stand_of_directory hname]

/-- claiming a name and entering by it: exactly one of the two succeeds, or the name is too long -/
theorem claim_cases (d : Disk) (here : Place) {name : Name} (hne : name ≠ []) :
    (isIdle name = false ∧ name ≠ dotDot ∧ name.length ≤ maxName ∧ d.entry? (here ++ [name]) = none ∧
        d.claim name here = .ok (here ++ [name])) ∨
      (d.claim name here = .error .nameTooLong ∧ d.enter here name = .error .nameTooLong) ∨
      (d.claim name here = .error .alreadyExists ∧ ∃ next, d.enter here name = .ok next) := by
  by_cases hdot : name = dot
  · exact Or.inr (Or.inr ⟨if_pos (Or.inl hdot), here, enter_idle (isIdle_iff.2 (Or.inr hdot))⟩)
  have hidle := not_isIdle_iff.2 ⟨hne, hdot⟩
  by_cases hup : name = dotDot
  · exact Or.inr (Or.inr ⟨if_pos (Or.inr hup), here.dropLast, by rw [enter, if_neg (by simp [hidle]), if_pos hup]⟩)
  rw [claim, if_neg (by simp [hdot, hup]), enter_name hidle hup, nameIn]
  split_ifs with hlong
  · exact Or.inr (Or.inl ⟨rfl, rfl⟩)
  · simp only [except_ok_bind]
    split_ifs with hsome
    · exact Or.inr (Or.inr ⟨rfl, here ++ [name], rfl⟩)
    · exact Or.inl ⟨hidle, hup, by omega, by simpa using hsome, rfl⟩

theorem directoryAt_of_front (d : Disk) {p : Path} {front : List Name} {last : Name}
    (hp : leading (pieces p.octets) = leading (front ++ [last])) :
    d.directoryAt p = d.reach (d.startOf p) front >>= fun here => d.reach here [last] := by
  rw [directoryAt, ← reach_leading, hp, reach_leading, reach_append]

/-- making one directory fails as a walk along the path fails, but for what stands in the way -/
theorem makeDir_cases {d : Disk} (h : d.NoLinks) {p : Path} (hcheck : checkPath p = .ok ()) :
    (∃ place, d.makeDir p = .ok (d.put place .directory) ∧ place ≠ [] ∧ d.entry? place = none ∧
        (d.put place .directory).directoryAt p = .ok place) ∨
      (∃ fault, d.makeDir p = .error fault ∧ d.directoryAt p = .error fault) ∨
      (d.makeDir p = .error .alreadyExists ∧
        ((∃ q, d.directoryAt p = .ok q) ∨ d.directoryAt p = .error .notADirectory)) := by
  unfold makeDir
  rcases trimSlashes_cases (pieces p.octets) with ⟨htrim, hlead⟩ | ⟨front, last, htrim, hne, hlead⟩
  · refine Or.inr (Or.inr ⟨by rw [vacancy_of_slashes htrim, hcheck]; rfl, ?_⟩)
    rw [directoryAt, ← reach_leading, hlead, reach]
    exact (d.stand_cases (d.startOf p)).imp (fun hstand => ⟨_, hstand⟩) id
  · rw [vacancy_of_name h htrim, hcheck, except_ok_bind, d.directoryAt_of_front hlead]
    cases hfront : d.reach (d.startOf p) front with
    | error fault => exact Or.inr (Or.inl ⟨fault, rfl, rfl⟩)
    | ok here =>
      have hhere : d.stand here = .ok here := stand_of_directory (entry?_of_reach hfront)
      simp only [except_ok_bind, reach_singleton, hhere]
      rcases d.claim_cases here hne with
        ⟨hidle, hup, hlength, hnone, hclaim⟩ | ⟨hclaim, henter⟩ | ⟨hclaim, next, henter⟩
      · have hplace : here ++ [last] ≠ [] := by simp
        have hkeeps := keeps_put_vacant hplace hnone .directory
        refine Or.inl ⟨here ++ [last], by rw [hclaim]; rfl, hplace, hnone, ?_⟩
        rw [directoryAt_of_front _ hlead, startOf_put, hkeeps.reach h hfront, except_ok_bind]
        exact reach_name hidle hup hlength (hkeeps.directory here (entry?_of_reach hfront))
          (by rw [entry?_put hplace, if_pos rfl])
      · exact Or.inr (Or.inl ⟨.nameTooLong, by rw [hclaim]; rfl, by rw [henter]; rfl⟩)
      · refine Or.inr (Or.inr ⟨by rw [hclaim]; rfl, ?_⟩)
        rw [henter, except_ok_bind]
        exact (d.stand_cases next).imp (fun hstand => ⟨_, hstand⟩) id

theorem checkPath_of_makeDir {d e : Disk} {p : Path} (h : d.makeDir p = .ok e) : checkPath p = .ok () := by
  cases hcheck : checkPath p with
  | ok _ => rfl
  | error fault => simp [makeDir, vacancy, hcheck, except_error_bind, Except.map] at h

/-- a directory that is there cannot be made -/
theorem makeDir_of_isDirectory {d : Disk} (h : d.NoLinks) {p : Path} (hp : d.isDirectory p = true) :
    d.makeDir p = .error .alreadyExists := by
  obtain ⟨hcheck, q, hq⟩ := (isDirectory_iff h p).1 hp
  rcases makeDir_cases h hcheck with ⟨place, -, hne, hvacant, hat⟩ | ⟨fault, -, hfault⟩ | ⟨hmake, -⟩
  · -- the directory would have been vacant before
    have hkept := (keeps_put_vacant hne hvacant .directory).directoryAt h hq
    obtain rfl : q = place := Except.ok.inj (hkept.symm.trans hat)
    cases hvacant.symm.trans (entry?_of_reach hq)
  · cases hfault.symm.trans hq
  · exact hmake

/-! ## Directories after directories -/

/-- make a directory; a directory that is there is fine -/
def settle (d : Disk) (p : Path) : Except Fault Unit × Disk :=
  match d.makeDir p with
  | .ok made => (.ok (), made)
  | .error fault => if d.isDirectory p then (.ok (), d) else (.error fault, d)

theorem makeChain_cons (d : Disk) {p : Path} (hp : p.octets ≠ []) (above : List Path) :
    d.makeChain (p :: above) =
      if d.makeDir p = .error .notFound then
        match d.makeChain above with
        | (.ok (), e) => e.settle p
        | (.error fault, e) => (.error fault, e)
      else d.settle p := by
  rw [makeChain, if_neg (by simpa using hp)]
  unfold settle
  cases hmake : d.makeDir p with
  | ok made => simp
  | error fault =>
    cases fault with
    | notFound =>
      simp only [if_true]
      rcases d.makeChain above with ⟨fault | ⟨⟩, e⟩ <;> rfl
    | _ => simp

/-- only directories are new, and each is where one of the paths leads -/
structure Grows (paths : List Path) (d e : Disk) : Prop where
  keeps : Keeps d e
  noLinks : e.NoLinks
  fresh : ∀ place, e.entry? place ≠ d.entry? place →
    d.entry? place = none ∧ e.entry? place = some .directory ∧ ∃ p ∈ paths, e.placeOf p = .ok place

theorem Grows.refl {d : Disk} (h : d.NoLinks) (paths : List Path) : Grows paths d d :=
  ⟨Keeps.refl d, h, fun _ hne => absurd rfl hne⟩

theorem Grows.mono {paths paths' : List Path} {d e : Disk} (h : Grows paths d e) (hsub : paths ⊆ paths') :
    Grows paths' d e where
  keeps := h.keeps
  noLinks := h.noLinks
  fresh := fun place hne =>
    let ⟨hnone, hdir, p, hp, hat⟩ := h.fresh place hne
    ⟨hnone, hdir, p, hsub hp, hat⟩

theorem Grows.trans {paths : List Path} {d e f : Disk} (h : Grows paths d e) (h' : Grows paths e f) :
    Grows paths d f where
  keeps := h.keeps.trans h'.keeps
  noLinks := h'.noLinks
  fresh := fun place hne => by
    by_cases hfirst : e.entry? place = d.entry? place
    · rw [← hfirst] at hne ⊢
      exact h'.fresh place hne
    · obtain ⟨hnone, hdir, p, hp, hat⟩ := h.fresh place hfirst
      exact ⟨hnone, h'.keeps.directory place hdir, p, hp, h'.keeps.placeOf h.noLinks h'.noLinks hdir hat⟩

theorem Grows.entry?_of_some {paths : List Path} {d e : Disk} (h : Grows paths d e) {place : Place} {entry : Entry}
    (hentry : d.entry? place = some entry) : e.entry? place = some entry := by
  by_contra hne
  obtain ⟨hnone, -⟩ := h.fresh place fun hsame => hne (hsame.trans hentry)
  cases hnone.symm.trans hentry

theorem put_grows {d : Disk} (h : d.NoLinks) {place : Place} (hne : place ≠ []) (hnone : d.entry? place = none)
    {p : Path} (hat : (d.put place .directory).placeOf p = .ok place) : Grows [p] d (d.put place .directory) where
  keeps := keeps_put_vacant hne hnone _
  noLinks := noLinks_put h hne (by simp)
  fresh := fun other hother => by
    rw [entry?_put hne] at hother ⊢
    split_ifs at hother ⊢ with heq
    · subst heq
      exact ⟨hnone, rfl, p, List.mem_singleton_self p, hat⟩
    · exact absurd rfl hother

theorem settle_grows {d : Disk} (h : d.NoLinks) (p : Path) : Grows [p] d (d.settle p).2 := by
  unfold settle
  cases hmake : d.makeDir p with
  | error fault =>
    split_ifs
    · exact Grows.refl h _
    · exact Grows.refl h _
  | ok made =>
    have hcheck := checkPath_of_makeDir hmake
    rcases makeDir_cases h hcheck with ⟨place, hok, hne, hnone, hat⟩ | ⟨fault, herror, -⟩ | ⟨herror, -⟩
    · obtain rfl := Except.ok.inj (hmake.symm.trans hok)
      exact put_grows h hne hnone (placeOf_of_directoryAt (noLinks_put h hne (by simp)) hcheck hat)
    · cases hmake.symm.trans herror
    · cases hmake.symm.trans herror

theorem makeChain_grows {d : Disk} (h : d.NoLinks) (paths : List Path) : Grows paths d (d.makeChain paths).2 := by
  induction paths with
  | nil => exact Grows.refl h _
  | cons p above ih =>
    by_cases hp : p.octets = []
    · rw [makeChain, if_pos (by simp [hp])]
      exact Grows.refl h _
    · rw [makeChain_cons d hp]
      split_ifs
      · have habove := ih.mono (List.subset_cons_self p above)
        rcases hchain : d.makeChain above with ⟨fault | ⟨⟩, e⟩
        · rw [hchain] at habove
          exact habove
        · rw [hchain] at habove
          exact habove.trans ((settle_grows habove.noLinks p).mono (by simp))
      · exact (settle_grows h p).mono (by simp)

/-! ## How it ends -/

theorem isDirectory_of_settle {d e : Disk} (h : d.NoLinks) {p : Path} (hsettle : d.settle p = (.ok (), e)) :
    e.isDirectory p = true := by
  unfold settle at hsettle
  cases hmake : d.makeDir p with
  | ok made =>
    rw [hmake] at hsettle
    obtain rfl : made = e := congrArg Prod.snd hsettle
    have hcheck := checkPath_of_makeDir hmake
    rcases makeDir_cases h hcheck with ⟨place, hok, hne, -, hat⟩ | ⟨fault, herror, -⟩ | ⟨herror, -⟩
    · obtain rfl := Except.ok.inj (hmake.symm.trans hok)
      exact (isDirectory_iff (noLinks_put h hne (by simp)) p).2 ⟨hcheck, place, hat⟩
    · cases hmake.symm.trans herror
    · cases hmake.symm.trans herror
  | error fault =>
    simp only [hmake] at hsettle
    split_ifs at hsettle with hdir
    · obtain rfl : d = e := congrArg Prod.snd hsettle
      exact hdir
    · cases hsettle

/-- a path that was made leads to a directory -/
theorem isDirectory_of_makeChain {d e : Disk} (h : d.NoLinks) {p : Path} (hp : p.octets ≠ []) {above : List Path}
    (hmake : d.makeChain (p :: above) = (.ok (), e)) : e.isDirectory p = true := by
  rw [makeChain_cons d hp] at hmake
  split_ifs at hmake with hmissing
  · have hgrows := makeChain_grows h above
    rcases hchain : d.makeChain above with ⟨fault | ⟨⟩, f⟩ <;> rw [hchain] at hmake hgrows
    · cases hmake
    · exact isDirectory_of_settle hgrows.noLinks hmake
  · exact isDirectory_of_settle h hmake

theorem isDirectory_of_makeDirs {d e : Disk} (h : d.NoLinks) {p : Path} (hp : p.octets ≠ [])
    (hmake : d.makeDirs p = (.ok (), e)) : e.isDirectory p = true :=
  isDirectory_of_makeChain h hp hmake

/-- where a directory is there is nothing to be made -/
theorem makeDirs_of_isDirectory {d : Disk} (h : d.NoLinks) {p : Path} (hp : d.isDirectory p = true) :
    d.makeDirs p = (.ok (), d) := by
  have hmake := makeDir_of_isDirectory h hp
  have hne : p.octets ≠ [] := by
    intro hnil
    obtain ⟨hcheck, -⟩ := (isDirectory_iff h p).1 hp
    simp [checkPath, hnil] at hcheck
  rw [makeDirs, ancestors, chain, makeChain_cons d hne, hmake, if_neg (by simp)]
  simp only [settle, hmake, if_pos hp]

/-- the fault of an attempt to make a directory, and the fault of the path from then on: what stands in the way exists,
and later is no directory -/
def Blocks (fault later : Fault) : Prop :=
  later ≠ .notFound ∧ (fault = later ∨ fault = .alreadyExists ∧ later = .notADirectory)

/-- the path leads to a directory, or is blocked -/
def Settled (p : Path) (result : Except Fault Unit × Disk) : Prop :=
  match result.1 with
  | .ok () => ∃ q, result.2.directoryAt p = .ok q
  | .error fault => ∃ later, result.2.directoryAt p = .error later ∧ Blocks fault later

theorem settle_settled {d : Disk} (h : d.NoLinks) {p : Path} (hcheck : checkPath p = .ok ())
    (hfound : d.makeDir p ≠ .error .notFound) : Settled p (d.settle p) := by
  have hdirectory := isDirectory_iff h p
  unfold settle
  rcases makeDir_cases h hcheck with ⟨place, hmake, -, -, hat⟩ | ⟨fault, hmake, hat⟩ | ⟨hmake, ⟨q, hat⟩ | hat⟩
  · rw [hmake]
    exact ⟨place, hat⟩
  · have hnot : ¬ d.isDirectory p = true := by simp [hdirectory, hat]
    simp only [hmake, if_neg hnot]
    exact ⟨fault, hat, fun heq => hfound (heq ▸ hmake), Or.inl rfl⟩
  · simp only [hmake, if_pos (hdirectory.2 ⟨hcheck, q, hat⟩)]
    exact ⟨q, hat⟩
  · have hnot : ¬ d.isDirectory p = true := by simp [hdirectory, hat]
    simp only [hmake, if_neg hnot]
    exact ⟨.notADirectory, hat, by simp, Or.inr ⟨rfl, rfl⟩⟩

theorem directoryAt_eq_reach_trail (d : Disk) (p : Path) : d.directoryAt p = d.reach (d.startOf p) p.trail :=
  (reach_leading d _ _).symm

theorem directoryAt_of_trail_nil {d : Disk} {p : Path} (h : p.trail = []) :
    d.directoryAt p = d.stand (d.startOf p) := by
  rw [directoryAt_eq_reach_trail, h, reach]

/-- with the path above in place, the last directory of a tidy path is not missed -/
theorem makeDir_ne_notFound {d : Disk} (h : d.NoLinks) {p : Path} {names : List Name} {last : Name} {here : Place}
    (hcheck : checkPath p = .ok ()) (htidy : Tidy p) (htrail : p.trail = names ++ [last])
    (habove : d.reach (d.startOf p) names = .ok here) : d.makeDir p ≠ .error .notFound := by
  obtain ⟨front, hp, rfl, hidle⟩ := htidy.exists_front htrail
  have hne := (not_isIdle_iff.1 hidle).1
  have htrim : trimSlashes (pieces p.octets) = front ++ [last] := by
    rw [hp, trimSlashes_eq_rdropWhile, List.rdropWhile_concat, if_neg (by simpa using hne)]
  rw [reach_leading] at habove
  rw [makeDir, vacancy_of_name h htrim, hcheck, habove]
  simp only [except_ok_bind]
  rcases d.claim_cases here hne with ⟨-, -, -, -, hclaim⟩ | ⟨hclaim, -⟩ | ⟨hclaim, -⟩ <;> simp [hclaim, Except.map]

/-- what is known of the path above when an attempt misses a directory on the way -/
structure Missed (p q : Path) (names : List Name) (last : Name) : Prop where
  above : IsAbove q p
  trail : p.trail = names ++ [last]
  check : q.octets = [] ∨ checkPath q = .ok ()

theorem Missed.directoryAt_above {p q : Path} {names : List Name} {last : Name} (h : Missed p q names last) (d : Disk) :
    d.directoryAt q = d.reach (d.startOf p) names := by
  rw [directoryAt_eq_reach_trail, h.above.trail, h.trail, List.dropLast_concat, startOf, startOf, h.above.absolute]

theorem Missed.directoryAt {p q : Path} {names : List Name} {last : Name} (h : Missed p q names last) (d : Disk) :
    d.directoryAt p = d.directoryAt q >>= fun here => d.reach here [last] := by
  rw [h.directoryAt_above, directoryAt_eq_reach_trail, h.trail, reach_append]

/-- an attempt that misses a directory on the way can be made for the path above first -/
theorem exists_missed {d : Disk} (h : d.NoLinks) {p : Path} (hcheck : checkPath p = .ok ())
    (hstart : d.entry? (d.startOf p) = some .directory) (hmake : d.makeDir p = .error .notFound) :
    ∃ q names last, p.parent? = some q ∧ Missed p q names last := by
  have hat : d.directoryAt p = .error .notFound := by
    rcases makeDir_cases h hcheck with ⟨place, hok, -⟩ | ⟨fault, herror, hat⟩ | ⟨herror, -⟩
    · cases hmake.symm.trans hok
    · rwa [← Except.error.inj (hmake.symm.trans herror)] at hat
    · cases hmake.symm.trans herror
  rcases List.eq_nil_or_concat p.trail with htrail | ⟨names, last, htrail⟩
  · rw [directoryAt_of_trail_nil htrail, stand_of_directory hstart] at hat
    cases hat
  · rw [List.concat_eq_append] at htrail
    cases hparent : p.parent? with
    | none => simp [trail_eq_nil_of_parent? hparent] at htrail
    | some q =>
      have habove := isAbove_of_parent? hparent
      exact ⟨q, names, last, rfl, habove, htrail, checkPath_above hcheck habove.octets⟩

/-- a path and its ancestors are made until the path leads to a directory, or is blocked for good -/
theorem makeChain_settled {d : Disk} (h : d.NoLinks) {count : Nat} {p : Path} (hcount : p.octets.length < count)
    (hcheck : p.octets = [] ∨ checkPath p = .ok ()) (htidy : Tidy p)
    (hstart : d.entry? (d.startOf p) = some .directory) : Settled p (d.makeChain (chain count p)) := by
  induction count generalizing p with
  | zero => omega
  | succ count ih =>
    by_cases hnil : p.octets = []
    · rw [chain, makeChain, if_pos (by simp [hnil])]
      have htrail : p.trail = [] := by rw [trail, hnil]; rfl
      exact ⟨_, by rw [directoryAt_of_trail_nil htrail, stand_of_directory hstart]⟩
    · have hcheck := hcheck.resolve_left hnil
      rw [chain, makeChain_cons d hnil]
      split_ifs with hmake
      · obtain ⟨q, names, last, hparent, hmissed⟩ := exists_missed h hcheck hstart hmake
        have hshorter := hmissed.above.shorter
        have hqstart : d.startOf q = d.startOf p := by rw [startOf, startOf, hmissed.above.absolute]
        have hq := ih (by omega) hmissed.check hmissed.above.tidy (by rwa [hqstart])
        have hgrows := makeChain_grows h (chain count q)
        simp only [hparent]
        rcases hchain : d.makeChain (chain count q) with ⟨fault | ⟨⟩, e⟩ <;> rw [hchain] at hq hgrows
        · obtain ⟨later, hlater, hblocks⟩ := hq
          refine ⟨later, ?_, hblocks⟩
          rw [hmissed.directoryAt, hlater]
          rfl
        · obtain ⟨here, hhere⟩ := hq
          rw [hmissed.directoryAt_above] at hhere
          exact settle_settled hgrows.noLinks hcheck
            (makeDir_ne_notFound hgrows.noLinks hcheck htidy hmissed.trail hhere)
      · exact settle_settled h hcheck hmake

theorem makeDirs_settled {d : Disk} (h : d.NoLinks) {p : Path} (hcheck : checkPath p = .ok ()) (htidy : Tidy p)
    (hstart : d.entry? (d.startOf p) = some .directory) : Settled p (d.makeDirs p) :=
  makeChain_settled h (Nat.lt_succ_self _) (Or.inr hcheck) htidy hstart

/-! ## Ways without steps back -/

theorem start_of_directoryAt {d : Disk} {p : Path} (h : d.directoryAt p = .error .notFound) :
    d.entry? (d.startOf p) = some .directory := by
  by_contra hstart
  have hreach : d.directoryAt p = .error .notADirectory := by
    rw [directoryAt, ← stand_bind_reach, stand, if_neg hstart]
    rfl
  cases h.symm.trans hreach

/-- every entry is in a directory -/
def IsTree (d : Disk) : Prop :=
  ∀ place name, (d.entry? (place ++ [name])).isSome → d.entry? place = some .directory

theorem IsTree.entry?_below {d : Disk} (h : d.IsTree) {place : Place} (hnone : d.entry? place = none)
    (rest : List Name) :
    d.entry? (place ++ rest) = none := by
  induction rest using List.reverseRecOn with
  | nil => rwa [List.append_nil]
  | append_singleton rest name ih =>
    by_contra hsome
    rw [← List.append_assoc, ← Ne, ← Option.isSome_iff_ne_none] at hsome
    cases ih.symm.trans (h _ _ hsome)

/-- a directory with nothing below it at the end of a path -/
def EmptyAt (d : Disk) (p : Path) : Prop :=
  ∃ here, d.directoryAt p = .ok here ∧ ∀ rest, rest ≠ [] → d.entry? (here ++ rest) = none

theorem emptyAt_put {d : Disk} {p : Path} {place : Place} (hnil : place ≠ [])
    (hbelow : ∀ rest, d.entry? (place ++ rest) = none)
    (hat : (d.put place .directory).directoryAt p = .ok place) : EmptyAt (d.put place .directory) p := by
  refine ⟨place, hat, fun rest hrest => ?_⟩
  rw [entry?_put hnil, if_neg (by simpa using hrest)]
  exact hbelow rest

/-- the path leads to an empty directory, or is blocked by the fault of the attempt -/
def SettledExactly (p : Path) (result : Except Fault Unit × Disk) : Prop :=
  match result.1 with
  | .ok () => EmptyAt result.2 p
  | .error fault => result.2.directoryAt p = .error fault

section Missed

variable {d : Disk} {p q : Path} {names : List Name} {last : Name}

/-- below an empty directory nothing is found, or the name is too long -/
theorem Missed.directoryAt_of_empty (hmissed : Missed p q names last) (hlast : isIdle last = false)
    (hup : last ≠ dotDot) {here : Place} (hhere : d.directoryAt q = .ok here)
    (hnone : d.entry? (here ++ [last]) = none) :
    d.directoryAt p = nameIn here last >>= fun _ => .error .notFound := by
  rw [hmissed.directoryAt, hhere, except_ok_bind, reach_singleton, stand_of_directory (entry?_of_reach hhere),
    except_ok_bind, enter_name hlast hup, nameIn]
  split_ifs
  · rfl
  · simp [hnone, except_error_bind]

theorem Missed.place_eq (hmissed : Missed p q names last) (hlast : isIdle last = false) (hup : last ≠ dotDot)
    {here place : Place} (hhere : d.directoryAt q = .ok here) (hplace : d.directoryAt p = .ok place) :
    place = here ++ [last] := by
  rw [hmissed.directoryAt, hhere, except_ok_bind, reach_singleton, stand_of_directory (entry?_of_reach hhere),
    except_ok_bind] at hplace
  obtain ⟨next, henter, hstand⟩ := except_bind_eq_ok.1 hplace
  rw [(stand_eq_ok_iff.1 hstand).2]
  rcases enter_eq_ok henter with ⟨hidle, -⟩ | ⟨hdots, -⟩ | ⟨-, -, hnext⟩
  · simp [hlast] at hidle
  · exact absurd hdots hup
  · exact hnext

/-- the path above an attempt that misses a directory is missing too -/
theorem Missed.above_missing (hmissed : Missed p q names last) (h : d.NoLinks) (hcheck : checkPath p = .ok ())
    (htidy : Tidy p) (hmake : d.makeDir p = .error .notFound) (hat : d.directoryAt p = .error .notFound) :
    d.directoryAt q = .error .notFound := by
  cases hq : d.directoryAt q with
  | ok here =>
    rw [hmissed.directoryAt_above] at hq
    exact absurd hmake (makeDir_ne_notFound h hcheck htidy hmissed.trail hq)
  | error fault =>
    rw [hmissed.directoryAt, hq] at hat
    exact hat

/-- where nothing is below the path above, making the directory succeeds or the name is too long -/
theorem settle_below_empty (h : d.NoLinks) (hmissed : Missed p q names last) (hcheck : checkPath p = .ok ())
    (hlast : isIdle last = false) (hup : last ≠ dotDot) (hempty : EmptyAt d q) : SettledExactly p (d.settle p) := by
  obtain ⟨here, hhere, hbelow⟩ := hempty
  have hat := hmissed.directoryAt_of_empty hlast hup hhere (hbelow [last] (by simp))
  have hdirectory := isDirectory_iff h p
  unfold settle
  rcases makeDir_cases h hcheck with
    ⟨place, hmake, hnil, hvacant, hmade⟩ | ⟨fault, hmake, hfault⟩ | ⟨hmake, ⟨q, hq⟩ | hq⟩
  · have hkeeps := keeps_put_vacant hnil hvacant .directory
    have hplace := hmissed.place_eq hlast hup (hkeeps.directoryAt h hhere) hmade
    rw [hmake]
    refine emptyAt_put hnil (fun rest => ?_) hmade
    rw [hplace, List.append_assoc]
    exact hbelow _ (by simp)
  · have hnot : ¬ d.isDirectory p = true := by simp [hdirectory, hfault]
    simp only [hmake, if_neg hnot]
    exact hfault
  · rw [hat] at hq
    obtain ⟨place, -, hq⟩ := except_bind_eq_ok.1 hq
    cases hq
  · rw [hat, nameIn] at hq
    split_ifs at hq <;> cases hq

/-- where only the path itself is missing, the directory is made -/
theorem settle_missing (h : d.NoLinks) (htree : d.IsTree) (hcheck : checkPath p = .ok ())
    (hmake : d.makeDir p ≠ .error .notFound) (hat : d.directoryAt p = .error .notFound) :
    SettledExactly p (d.settle p) := by
  rcases makeDir_cases h hcheck with ⟨place, hok, hne, hvacant, hmade⟩ | ⟨fault, herror, hfault⟩ | ⟨-, ⟨q, hq⟩ | hq⟩
  · simp only [settle, hok]
    exact emptyAt_put hne (htree.entry?_below hvacant) hmade
  · cases hat.symm.trans hfault
    exact absurd herror hmake
  · cases hat.symm.trans hq
  · cases hat.symm.trans hq

end Missed

/-- without a step back on the way, what is missing is made in empty directories, so nothing can stand in the way and
the fault of the attempt is the fault of the path -/
theorem makeChain_exact {d : Disk} (h : d.NoLinks) (htree : d.IsTree) {count : Nat} {p : Path}
    (hcount : p.octets.length < count) (hcheck : p.octets = [] ∨ checkPath p = .ok ()) (htidy : Tidy p)
    (hup : dotDot ∉ p.trail) (hat : d.directoryAt p = .error .notFound) :
    SettledExactly p (d.makeChain (chain count p)) := by
  induction count generalizing p with
  | zero => omega
  | succ count ih =>
    have hstart := start_of_directoryAt hat
    have hnil : p.octets ≠ [] := by
      intro hnil
      have htrail : p.trail = [] := by rw [trail, hnil]; rfl
      rw [directoryAt_of_trail_nil htrail, stand_of_directory hstart] at hat
      cases hat
    have hcheck := hcheck.resolve_left hnil
    rw [chain, makeChain_cons d hnil]
    split_ifs with hmake
    · obtain ⟨q, names, last, hparent, hmissed⟩ := exists_missed h hcheck hstart hmake
      have hshorter := hmissed.above.shorter
      have hlast : isIdle last = false := (htidy.exists_front hmissed.trail).choose_spec.2.2
      have hqup : dotDot ∉ q.trail := by
        rw [hmissed.above.trail]
        exact fun hmem => hup (List.mem_of_mem_dropLast hmem)
      have hq := hmissed.above_missing h hcheck htidy hmake hat
      have hchain := ih (by omega) hmissed.check hmissed.above.tidy hqup hq
      have hgrows := makeChain_grows h (chain count q)
      simp only [hparent]
      rcases hresult : d.makeChain (chain count q) with ⟨fault | ⟨⟩, e⟩ <;> rw [hresult] at hchain hgrows
      · have habove : e.directoryAt q = .error fault := hchain
        have hblocked : e.directoryAt p = .error fault := by
          rw [hmissed.directoryAt, habove]
          rfl
        exact hblocked
      · exact settle_below_empty hgrows.noLinks hmissed hcheck hlast
          (fun hdots => hup (by simp [hmissed.trail, hdots])) hchain
    · exact settle_missing h htree hcheck hmake hat

end ComponentCompiler.Disk
