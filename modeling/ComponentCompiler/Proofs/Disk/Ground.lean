import ComponentCompiler.Proofs.Disk.MakeDirs

/-!
Directories side by side.

Making a directory in a common one has two parts: the common directory and those above it are made if they are missing
(`prepare`), and then the name gets its place in it (`own`). `makeDirs_join` says so. The first part is shared by all
names: once it is done it does nothing, or fails for good (`prepare_settled`).
-/

namespace ComponentCompiler.Disk

open ComponentCompiler.Path

/-- make a directory and those above it, if something is missing -/
def prepare (d : Disk) (c : Path) : Except Fault Unit × Disk :=
  match d.directoryAt c with
  | .ok _ => (.ok (), d)
  | .error .notFound => d.makeDirs c
  | .error fault => (.error fault, d)

theorem prepare_of_ok {d : Disk} {c : Path} {here : Place} (h : d.directoryAt c = .ok here) :
    d.prepare c = (.ok (), d) := by
  rw [prepare, h]

theorem prepare_of_missing {d : Disk} {c : Path} (h : d.directoryAt c = .error .notFound) :
    d.prepare c = d.makeDirs c := by
  rw [prepare, h]

theorem prepare_of_blocked {d : Disk} {c : Path} {fault : Fault} (h : d.directoryAt c = .error fault)
    (hmissing : fault ≠ .notFound) : d.prepare c = (.error fault, d) := by
  rw [prepare, h]
  cases fault <;> first | rfl | exact absurd rfl hmissing

/-- make a directory of a name in a directory; if it is there that is fine -/
def own (d : Disk) (here : Place) (name : Name) : Except Fault Unit × Disk :=
  if name.length > maxName then (.error .nameTooLong, d)
  else
    match d.entry? (here ++ [name]) with
    | none => (.ok (), d.put (here ++ [name]) .directory)
    | some .directory => (.ok (), d)
    | some _ => (.error .alreadyExists, d)

theorem makeDir_join {d : Disk} (h : d.NoLinks) {c : Path} {name : Name} (hend : EndsInName c) (hname : IsName name) :
    d.makeDir (c.join ⟨name⟩) =
      (checkPath (c.join ⟨name⟩) >>= fun _ => d.directoryAt c >>= d.claim name).map fun place =>
        d.put place .directory := by
  have htrim : trimSlashes (pieces (c.join ⟨name⟩).octets) = pieces c.octets ++ [name] := by
    rw [pieces_join hend hname, trimSlashes_eq_rdropWhile, List.rdropWhile_concat,
      if_neg (by simpa using hname.nonempty)]
  rw [makeDir, vacancy_of_name h htrim, startOf_join d hend.1 hname]
  rfl

theorem reach_name_eq_ok {d : Disk} {name : Name} {here q : Place} (hname : IsOrdinary name)
    (hhere : d.entry? here = some .directory) (hq : d.reach here [name] = .ok q) :
    name.length ≤ maxName ∧ q = here ++ [name] ∧ d.entry? (here ++ [name]) = some .directory := by
  have hdir := entry?_of_reach hq
  rw [reach_singleton, stand_of_directory hhere, except_ok_bind, enter_name hname.not_isIdle hname.notUp] at hq
  obtain ⟨next, hnext, hstand⟩ := except_bind_eq_ok.1 hq
  obtain ⟨place, hplace, hsome⟩ := except_bind_eq_ok.1 hnext
  obtain ⟨hlength, rfl⟩ := nameIn_eq_ok_iff.1 hplace
  obtain ⟨-, rfl⟩ := stand_eq_ok_iff.1 hstand
  split_ifs at hsome
  obtain rfl := Except.ok.inj hsome
  exact ⟨hlength, rfl, hdir⟩

theorem isDirectory_join {d : Disk} (h : d.NoLinks) {c : Path} {name : Name} {here : Place} (hend : EndsInName c)
    (hname : IsOrdinary name) (hcheck : checkPath (c.join ⟨name⟩) = .ok ()) (hhere : d.directoryAt c = .ok here) :
    d.isDirectory (c.join ⟨name⟩) = true ↔ name.length ≤ maxName ∧ d.entry? (here ++ [name]) = some .directory := by
  rw [isDirectory_iff h, directoryAt_join d hend hname.toIsName, hhere, except_ok_bind]
  constructor
  · rintro ⟨-, q, hq⟩
    obtain ⟨hlength, -, hdir⟩ := reach_name_eq_ok hname (entry?_of_reach hhere) hq
    exact ⟨hlength, hdir⟩
  · rintro ⟨hlength, hdir⟩
    exact ⟨hcheck, _, reach_name hname.not_isIdle hname.notUp hlength (entry?_of_reach hhere) hdir⟩

theorem settle_join {d : Disk} (h : d.NoLinks) {c : Path} {name : Name} {here : Place} (hend : EndsInName c)
    (hname : IsOrdinary name) (hcheck : checkPath (c.join ⟨name⟩) = .ok ()) (hhere : d.directoryAt c = .ok here) :
    d.settle (c.join ⟨name⟩) = d.own here name := by
  have hdirectory := isDirectory_join h hend hname hcheck hhere
  have hdot : ¬ (name = dot ∨ name = dotDot) := by simp [hname.notDot, hname.notUp]
  unfold settle own
  rw [makeDir_join h hend hname.toIsName, hcheck, except_ok_bind, hhere, except_ok_bind, claim, if_neg hdot, nameIn]
  by_cases hlong : name.length > maxName
  · have hnot : ¬ d.isDirectory (c.join ⟨name⟩) = true := fun hdir => Nat.not_lt.2 (hdirectory.1 hdir).1 hlong
    simp [hlong, hnot, except_error_bind, Except.map]
  · cases hentry : d.entry? (here ++ [name]) with
    | none => simp [hlong, hentry, Except.map]
    | some entry =>
      cases entry with
      | link target => exact absurd hentry (h _ _)
      | directory => simp [hlong, hentry, Except.map, hdirectory.2 ⟨Nat.not_lt.1 hlong, hentry⟩]
      | file content =>
        have hnot : ¬ d.isDirectory (c.join ⟨name⟩) = true := fun hdir => by
          cases hentry.symm.trans (hdirectory.1 hdir).2
        simp [hlong, hentry, Except.map, hnot]

/-- a path that ends in a name, after which a name can be joined -/
structure IsBase (c : Path) : Prop where
  ends : EndsInName c
  last : ∃ front last, pieces c.octets = front ++ [last] ∧ isIdle last = false

theorem IsBase.tidy {c : Path} (h : IsBase c) : Tidy c :=
  Or.inr h.last

theorem isBase_join (p : Path) {name : Name} (h : IsName name) (hidle : isIdle name = false) :
    IsBase (p.join ⟨name⟩) where
  ends := endsInName_join p h
  last := (exists_pieces_join p h).imp fun _ hfront => ⟨name, hfront.2, hidle⟩

/-- making a directory in a common one: the common one first, then the name -/
theorem makeDirs_join {d : Disk} (h : d.NoLinks) {c : Path} {name : Name} (hc : IsBase c) (hname : IsOrdinary name)
    (hcheck : checkPath (c.join ⟨name⟩) = .ok ()) :
    d.makeDirs (c.join ⟨name⟩) =
      match d.prepare c with
      | (.ok (), e) => e.settle (c.join ⟨name⟩)
      | (.error fault, e) => (.error fault, e) := by
  obtain ⟨front, last, hp, hlast⟩ := hc.last
  have hparent := parent?_join hc.ends hp hlast hname.toIsName hname.not_isIdle
  have hnil : (c.join ⟨name⟩).octets ≠ [] := (endsInName_join c hname.toIsName).1
  have hmake := makeDir_join h hc.ends hname.toIsName
  rw [hcheck, except_ok_bind] at hmake
  rw [makeDirs, ancestors_of_parent? hparent, makeChain_cons d hnil]
  cases hat : d.directoryAt c with
  | ok here =>
    have hfound : d.makeDir (c.join ⟨name⟩) ≠ .error .notFound := by
      rw [hmake, hat, except_ok_bind]
      rcases d.claim_cases here hname.nonempty with ⟨-, -, -, -, hclaim⟩ | ⟨hclaim, -⟩ | ⟨hclaim, -⟩ <;>
        simp [hclaim, Except.map]
    rw [if_neg hfound, prepare_of_ok hat]
  | error fault =>
    have herror : d.makeDir (c.join ⟨name⟩) = .error fault := by
      rw [hmake, hat]
      rfl
    by_cases hmissing : fault = .notFound
    · subst hmissing
      rw [if_pos herror, prepare_of_missing hat]
      rfl
    · have hnot : ¬ d.isDirectory (c.join ⟨name⟩) = true := by
        rw [isDirectory_iff h, directoryAt_join d hc.ends hname.toIsName, hat, except_error_bind]
        simp
      rw [herror, if_neg (by simpa using hmissing), prepare_of_blocked hat hmissing]
      simp only [settle, herror, if_neg hnot]

/-- a path that is not accepted changes nothing -/
theorem makeDirs_unchecked {d : Disk} (h : d.NoLinks) {c : Path} {name : Name} (hc : IsBase c) (hname : IsOrdinary name)
    {fault : Fault} (hcheck : checkPath (c.join ⟨name⟩) = .error fault) :
    d.makeDirs (c.join ⟨name⟩) = (.error fault, d) := by
  obtain ⟨front, last, hp, hlast⟩ := hc.last
  have hparent := parent?_join hc.ends hp hlast hname.toIsName hname.not_isIdle
  have hnil : (c.join ⟨name⟩).octets ≠ [] := (endsInName_join c hname.toIsName).1
  have herror : d.makeDir (c.join ⟨name⟩) = .error fault := by
    rw [makeDir_join h hc.ends hname.toIsName, hcheck]
    rfl
  have hfound : fault ≠ .notFound := by
    rintro rfl
    unfold checkPath at hcheck
    split_ifs at hcheck with hzero hlong hempty
    · cases hcheck
    · cases hcheck
    · exact hnil (List.isEmpty_iff.1 hempty)
  have hnot : ¬ d.isDirectory (c.join ⟨name⟩) = true := by
    rw [isDirectory_iff h, hcheck]
    simp
  rw [makeDirs, ancestors_of_parent? hparent, makeChain_cons d hnil, herror, if_neg (by simpa using hfound)]
  simp only [settle, herror, if_neg hnot]

/-- the common directory is there, or blocked for good -/
theorem prepare_settled {d : Disk} (h : d.NoLinks) {c : Path} (hc : IsBase c) (hcheck : checkPath c = .ok ()) :
    Settled c (d.prepare c) := by
  cases hat : d.directoryAt c with
  | ok here =>
    rw [prepare_of_ok hat]
    exact ⟨here, hat⟩
  | error fault =>
    by_cases hmissing : fault = .notFound
    · subst hmissing
      rw [prepare_of_missing hat]
      exact makeDirs_settled h hcheck hc.tidy (start_of_directoryAt hat)
    · rw [prepare_of_blocked hat hmissing]
      exact ⟨fault, hat, hmissing, Or.inl rfl⟩

/-- without a step back on the way, it is blocked by the fault that making it gives -/
theorem prepare_exact {d : Disk} (h : d.NoLinks) (htree : d.IsTree) {c : Path} (hc : IsBase c)
    (hcheck : checkPath c = .ok ()) (hup : dotDot ∉ c.trail) {fault : Fault} {e : Disk}
    (hprepare : d.prepare c = (.error fault, e)) :
    e.directoryAt c = .error fault := by
  cases hat : d.directoryAt c with
  | ok here =>
    rw [prepare_of_ok hat] at hprepare
    cases hprepare
  | error first =>
    by_cases hmissing : first = .notFound
    · subst hmissing
      have hexact := makeChain_exact h htree (Nat.lt_succ_self _) (Or.inr hcheck) hc.tidy hup hat
      rw [prepare_of_missing hat, makeDirs, ancestors] at hprepare
      rw [hprepare] at hexact
      exact hexact
    · rw [prepare_of_blocked hat hmissing] at hprepare
      cases hprepare
      exact hat

theorem prepare_grows {d : Disk} (h : d.NoLinks) (c : Path) : Grows c.ancestors d (d.prepare c).2 := by
  unfold prepare
  split
  · exact Grows.refl h _
  · exact makeChain_grows h _
  · exact Grows.refl h _

end ComponentCompiler.Disk
