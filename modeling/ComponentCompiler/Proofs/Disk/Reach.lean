import Mathlib.Tactic.Common
import ComponentCompiler.Disk.Access
import ComponentCompiler.Proofs.Path

/-!
Where paths lead on a disk without links.

On such a disk a lookup is a walk through directories. `reach` is this walk for a path that has to end in a directory;
the lookups are stated through it: `seek_and_stand` for a path as a whole, `seek_front` for the way to the last name of
a path, `walk_concat` for a way and a name at its end. `reach_leading` says that only the pieces that lead somewhere
matter, and `Keeps.reach` that a walk that succeeds still succeeds when entries are added.
-/

namespace ComponentCompiler.Disk

open ComponentCompiler.Path

@[simp]
theorem except_ok_bind {ε α β : Type} (a : α) (f : α → Except ε β) : (Except.ok a >>= f) = f a :=
  rfl

theorem except_error_bind {ε α β : Type} (e : ε) (f : α → Except ε β) :
    ((Except.error e : Except ε α) >>= f) = Except.error e :=
  rfl

theorem except_bind_eq_ok {ε α β : Type} {x : Except ε α} {f : α → Except ε β} {b : β} :
    (x >>= f) = Except.ok b ↔ ∃ a, x = Except.ok a ∧ f a = Except.ok b := by
  cases x <;> simp [except_error_bind]

theorem except_eq_ok {ε α : Type} {x : Except ε α} {a : α} (h : x.toOption = some a) : x = .ok a := by
  cases x with
  | error fault => cases h
  | ok b => exact congrArg Except.ok (Option.some.inj h)

/-! ## Entries -/

theorem entry?_put {d : Disk} {place : Place} (h : place ≠ []) (entry : Entry) (other : Place) :
    entry? (d.put place entry) other = if other = place then some entry else d.entry? other := by
  unfold entry? put
  by_cases hnil : other = []
  · simp [hnil, Ne.symm h]
  · by_cases heq : other = place
    · simp [heq, h]
    · have hplace : (place == other) = false := beq_eq_false_iff_ne.2 (Ne.symm heq)
      have hfilter : (d.entries.filter (·.1 != place)).find? (·.1 == other) = d.entries.find? (·.1 == other) := by
        rw [List.find?_filter]
        congr 1
        funext pair
        by_cases hpair : pair.1 = other <;> simp [hpair, heq]
      simp [hnil, heq, hplace, hfilter]

@[simp]
theorem startOf_put (d : Disk) (place : Place) (entry : Entry) (p : Path) :
    (d.put place entry).startOf p = d.startOf p :=
  rfl

def NoLinks (d : Disk) : Prop :=
  ∀ place target, d.entry? place ≠ some (.link target)

theorem noLinks_of_entries {d : Disk} (h : ∀ pair ∈ d.entries, ∀ target, pair.2 ≠ .link target) : d.NoLinks := by
  intro place target hentry
  unfold entry? at hentry
  split_ifs at hentry
  · cases hentry
  · obtain ⟨pair, hfind, hpair⟩ := Option.map_eq_some_iff.1 hentry
    exact h pair (List.mem_of_find?_eq_some hfind) target hpair

/-! ## Walking through directories -/

/-- stand in a directory -/
def stand (d : Disk) (place : Place) : Except Fault Place :=
  if d.entry? place = some .directory then .ok place else .error .notADirectory

/-- follow one piece from a directory -/
def enter (d : Disk) (place : Place) (piece : Name) : Except Fault Place :=
  if isIdle piece then .ok place
  else if piece = dotDot then .ok place.dropLast
  else if piece.length > maxName then .error .nameTooLong
  else if (d.entry? (place ++ [piece])).isSome then .ok (place ++ [piece])
  else .error .notFound

/-- follow pieces from a place to a directory -/
def reach (d : Disk) (place : Place) : List Name → Except Fault Place
  | [] => d.stand place
  | piece :: rest => do
    let here ← d.stand place
    let next ← d.enter here piece
    d.reach next rest

theorem stand_eq_ok_iff {d : Disk} {place q : Place} :
    d.stand place = .ok q ↔ d.entry? place = some .directory ∧ q = place := by
  unfold stand
  split_ifs with h <;> simp [h, eq_comm]

theorem stand_of_directory {d : Disk} {place : Place} (h : d.entry? place = some .directory) :
    d.stand place = .ok place :=
  if_pos h

theorem stand_cases (d : Disk) (place : Place) : d.stand place = .ok place ∨ d.stand place = .error .notADirectory := by
  unfold stand
  split_ifs <;> simp

theorem enter_idle {d : Disk} {place : Place} {piece : Name} (h : isIdle piece = true) :
    d.enter place piece = .ok place :=
  if_pos h

theorem enter_eq_ok {d : Disk} {place next : Place} {piece : Name} (h : d.enter place piece = .ok next) :
    isIdle piece = true ∧ next = place ∨ piece = dotDot ∧ next = place.dropLast ∨
      (isIdle piece = false ∧ piece ≠ dotDot ∧ next = place ++ [piece]) := by
  unfold enter at h
  split_ifs at h with hidle hup hlong hsome
  · exact Or.inl ⟨hidle, (Except.ok.inj h).symm⟩
  · exact Or.inr (Or.inl ⟨hup, (Except.ok.inj h).symm⟩)
  · exact Or.inr (Or.inr ⟨by simpa using hidle, hup, (Except.ok.inj h).symm⟩)

theorem stand_bind_reach (d : Disk) (place : Place) (names : List Name) :
    (d.stand place >>= fun here => d.reach here names) = d.reach place names := by
  rcases d.stand_cases place with hstand | hstand
  · rw [hstand, except_ok_bind]
  · cases names <;> simp [reach, hstand, except_error_bind]

theorem reach_append (d : Disk) (place : Place) (a b : List Name) :
    d.reach place (a ++ b) = d.reach place a >>= fun here => d.reach here b := by
  induction a generalizing place with
  | nil => exact (stand_bind_reach d place b).symm
  | cons piece a ih => simp only [List.cons_append, reach, ih, bind_assoc]

theorem reach_singleton (d : Disk) (place : Place) (piece : Name) :
    d.reach place [piece] = d.stand place >>= fun here => d.enter here piece >>= d.stand :=
  rfl

/-- where a walk ends there is a directory -/
theorem entry?_of_reach {d : Disk} {place q : Place} {names : List Name} (h : d.reach place names = .ok q) :
    d.entry? q = some .directory := by
  induction names generalizing place with
  | nil =>
    obtain ⟨hdir, rfl⟩ := stand_eq_ok_iff.1 h
    exact hdir
  | cons piece rest ih =>
    obtain ⟨here, -, hrest⟩ := except_bind_eq_ok.1 h
    obtain ⟨next, -, hnext⟩ := except_bind_eq_ok.1 hrest
    exact ih hnext

/-- only the pieces that lead somewhere matter -/
theorem reach_leading (d : Disk) (place : Place) (names : List Name) :
    d.reach place (leading names) = d.reach place names := by
  induction names generalizing place with
  | nil => rfl
  | cons piece rest ih =>
    cases hidle : isIdle piece with
    | true =>
      have hdrop : leading (piece :: rest) = leading rest := by simp [leading, hidle]
      rw [hdrop, ih, reach]
      simp only [enter_idle hidle, except_ok_bind]
      exact (stand_bind_reach d place rest).symm
    | false =>
      have hkeep : leading (piece :: rest) = piece :: leading rest := by simp [leading, hidle]
      simp only [hkeep, reach, ih]

/-! ## Lookups -/

/-- one step of a lookup -/
theorem walk_cons {d : Disk} (h : d.NoLinks) (purpose : Purpose) (onLink : Place → List Name → Except Fault Spot)
    (place : Place) (piece : Name) (rest : List Name) :
    d.walk purpose onLink place (piece :: rest) = d.stand place >>= fun here =>
      if isIdle piece then d.walk purpose onLink here rest
      else if piece = dotDot then d.walk purpose onLink here.dropLast rest
      else if purpose = .create ∧ rest ≠ [] ∧ onlySlashes rest then .error .isADirectory
      else if piece.length > maxName then .error .nameTooLong
      else if (d.entry? (here ++ [piece])).isSome then d.walk purpose onLink (here ++ [piece]) rest
      else if onlySlashes rest then .ok (.vacant (here ++ [piece]) (!rest.isEmpty))
      else .error .notFound := by
  have hidle : (piece == [] || piece == dot) = isIdle piece := by
    rw [Bool.eq_iff_iff, isIdle_iff]
    simp
  have hslashes : (purpose == .create && !rest.isEmpty && onlySlashes rest) = true ↔
      purpose = .create ∧ rest ≠ [] ∧ onlySlashes rest := by
    simp [and_assoc]
  rw [walk]
  by_cases hdir : d.entry? place = some .directory
  · simp only [hdir, bne_self_eq_false, Bool.false_eq_true, if_false, hidle, beq_iff_eq, hslashes,
      stand_of_directory hdir, except_ok_bind]
    cases hentry : d.entry? (place ++ [piece]) with
    | none => rfl
    | some entry =>
      cases entry with
      | link target => exact absurd hentry (h _ _)
      | file content => rfl
      | directory => rfl
  · simp [stand, hdir, except_error_bind]

/-- what a lookup finds; a vacant place is nothing found -/
def found : Spot → Except Fault Place
  | .taken place => .ok place
  | .vacant _ _ => .error .notFound

/-- one step of a lookup for something that is there -/
theorem walk_find_cons {d : Disk} (h : d.NoLinks) (onLink : Place → List Name → Except Fault Spot) (place : Place)
    (piece : Name) (rest : List Name) :
    (d.walk .find onLink place (piece :: rest) >>= found) =
      d.stand place >>= fun here => d.enter here piece >>= fun next => d.walk .find onLink next rest >>= found := by
  rw [walk_cons h, bind_assoc]
  congr 1
  funext here
  unfold enter
  split_ifs <;> simp_all [found, except_error_bind]

/-- a lookup that has to end in a directory is a walk through directories -/
theorem seek_and_stand {d : Disk} (h : d.NoLinks) (onLink : Place → List Name → Except Fault Spot) (place : Place)
    (names : List Name) :
    (d.walk .find onLink place names >>= found >>= d.stand) = d.reach place names := by
  induction names generalizing place with
  | nil => rfl
  | cons piece rest ih => simp only [walk_find_cons h, reach, bind_assoc, ← ih]

/-- so is a lookup of a path with a slash or a dot at its end -/
theorem seek_front {d : Disk} (h : d.NoLinks) (onLink : Place → List Name → Except Fault Spot) (place : Place)
    (names : List Name) {last : Name} (hidle : isIdle last = true) :
    (d.walk .find onLink place (names ++ [last]) >>= found) = d.reach place names := by
  induction names generalizing place with
  | nil =>
    rw [List.nil_append, walk_find_cons h, reach]
    simp only [enter_idle hidle, walk, found, except_ok_bind]
    exact bind_pure (m := Except Fault) (d.stand place)
  | cons piece rest ih => simp only [List.cons_append, walk_find_cons h, reach, ih]

/-- a lookup of a name after a way -/
theorem walk_concat {d : Disk} (h : d.NoLinks) (purpose : Purpose) (onLink : Place → List Name → Except Fault Spot)
    (place : Place) (names : List Name) {name : Name} (hidle : isIdle name = false) (hup : name ≠ dotDot) :
    d.walk purpose onLink place (names ++ [name]) = d.reach place names >>= fun here =>
      if name.length > maxName then .error .nameTooLong
      else if (d.entry? (here ++ [name])).isSome then .ok (.taken (here ++ [name]))
      else .ok (.vacant (here ++ [name]) false) := by
  induction names generalizing place with
  | nil =>
    rw [List.nil_append, walk_cons h, reach]
    simp [hidle, hup, walk, onlySlashes]
  | cons piece rest ih =>
    have hslashes : onlySlashes (rest ++ [name]) = false := by
      simp [onlySlashes, (not_isIdle_iff.1 hidle).1]
    rw [List.cons_append, walk_cons h, reach, bind_assoc]
    congr 1
    funext here
    unfold enter
    split_ifs <;> simp_all [except_error_bind]

/-! ## Paths -/

theorem exists_follow_eq_walk (d : Disk) (purpose : Purpose) (links : Nat) :
    ∃ onLink, d.follow purpose links = d.walk purpose onLink := by
  cases links with
  | zero => exact ⟨_, rfl⟩
  | succ links => exact ⟨_, rfl⟩

/-- the directory that a path leads to -/
def directoryAt (d : Disk) (p : Path) : Except Fault Place :=
  d.reach (d.startOf p) (pieces p.octets)

theorem placeOf_eq (d : Disk) (p : Path) : d.placeOf p = d.locate .find p >>= found := by
  unfold placeOf
  rcases d.locate .find p with fault | ⟨place⟩ | ⟨place, slashed⟩ <;> rfl

theorem placeOf_bind_stand {d : Disk} (h : d.NoLinks) (p : Path) :
    (d.placeOf p >>= d.stand) = checkPath p >>= fun _ => d.directoryAt p := by
  obtain ⟨onLink, hfollow⟩ := exists_follow_eq_walk d .find maxLinks
  rw [placeOf_eq, locate, hfollow, bind_assoc, bind_assoc]
  simp only [← bind_assoc (m := Except Fault), seek_and_stand h, directoryAt]

theorem placeOf_of_idle {d : Disk} (h : d.NoLinks) {p : Path} {front : List Name} {last : Name}
    (hp : pieces p.octets = front ++ [last]) (hidle : isIdle last = true) :
    d.placeOf p = checkPath p >>= fun _ => d.reach (d.startOf p) front := by
  obtain ⟨onLink, hfollow⟩ := exists_follow_eq_walk d .find maxLinks
  rw [placeOf_eq, locate, hfollow, hp, bind_assoc]
  simp only [seek_front h onLink _ front hidle]

theorem lookup_eq_ok {d : Disk} {p : Path} {entry : Entry} (h : d.lookup p = .ok entry) :
    ∃ place, d.placeOf p = .ok place ∧ d.entry? place = some entry := by
  unfold lookup at h
  cases hplace : d.placeOf p with
  | error fault =>
    rw [hplace] at h
    cases h
  | ok place =>
    rw [hplace] at h
    cases hentry : d.entry? place with
    | none => simp [hentry] at h
    | some found => exact ⟨place, rfl, by simpa [hentry] using h⟩

theorem placeOf_of_directoryAt {d : Disk} (h : d.NoLinks) {p : Path} {q : Place} (hcheck : checkPath p = .ok ())
    (hq : d.directoryAt p = .ok q) : d.placeOf p = .ok q := by
  have hstand := placeOf_bind_stand h p
  rw [hcheck, except_ok_bind, hq, except_bind_eq_ok] at hstand
  obtain ⟨place, hplace, hstand⟩ := hstand
  rw [hplace, (stand_eq_ok_iff.1 hstand).2]

theorem directoryAt_of_placeOf {d : Disk} (h : d.NoLinks) {p : Path} {q : Place} (hp : d.placeOf p = .ok q)
    (hq : d.entry? q = some .directory) : checkPath p = .ok () ∧ d.directoryAt p = .ok q := by
  have hstand := placeOf_bind_stand h p
  rw [hp, except_ok_bind, stand_of_directory hq] at hstand
  obtain ⟨_, hcheck, hat⟩ := except_bind_eq_ok.1 hstand.symm
  exact ⟨hcheck, hat⟩

theorem isDirectory_iff {d : Disk} (h : d.NoLinks) (p : Path) :
    d.isDirectory p = true ↔ checkPath p = .ok () ∧ ∃ q, d.directoryAt p = .ok q := by
  have hlookup : d.isDirectory p = true ↔ ∃ q, (d.placeOf p >>= d.stand) = .ok q := by
    unfold isDirectory lookup
    cases d.placeOf p with
    | error fault => simp [except_error_bind]
    | ok place =>
      simp only [except_ok_bind, stand_eq_ok_iff]
      rcases d.entry? place with - | - | - | - <;> simp
  simp only [hlookup, placeOf_bind_stand h, except_bind_eq_ok]
  exact ⟨fun ⟨q, _, hcheck, hq⟩ => ⟨hcheck, q, hq⟩, fun ⟨hcheck, q, hq⟩ => ⟨q, (), hcheck, hq⟩⟩

theorem checkPath_above {p q : Path} (hcheck : checkPath p = .ok ()) (hq : q.octets <+: p.octets) :
    q.octets = [] ∨ checkPath q = .ok () := by
  by_cases hnil : q.octets = []
  · exact Or.inl hnil
  · have hlength := hq.length_le
    unfold checkPath at hcheck ⊢
    split_ifs at hcheck with hzero hlong hempty
    have hzero' : ¬ (q.octets.contains 0 = true) := by
      simp only [List.contains_iff_mem] at hzero ⊢
      exact fun hmem => hzero (hq.subset hmem)
    exact Or.inr (by rw [if_neg hzero', if_neg (by omega), if_neg (by simpa using hnil)])

theorem checkPath_of_join {dir : Path} {name : Name} (hend : EndsInName dir) (h : IsName name)
    (hcheck : checkPath (dir.join ⟨name⟩) = .ok ()) : checkPath dir = .ok () := by
  refine (checkPath_above hcheck ?_).resolve_left hend.1
  rw [octets_join hend h]
  exact List.prefix_append _ _

/-- what a path leads to, or could lead to, by the way to its last name -/
theorem locate_of_concat {d : Disk} (h : d.NoLinks) (purpose : Purpose) {p : Path} {front : List Name} {name : Name}
    (hp : pieces p.octets = front ++ [name]) (hidle : isIdle name = false) (hup : name ≠ dotDot) :
    d.locate purpose p = checkPath p >>= fun _ => d.reach (d.startOf p) front >>= fun here =>
      if name.length > maxName then .error .nameTooLong
      else if (d.entry? (here ++ [name])).isSome then .ok (.taken (here ++ [name]))
      else .ok (.vacant (here ++ [name]) false) := by
  obtain ⟨onLink, hfollow⟩ := exists_follow_eq_walk d purpose maxLinks
  rw [locate, hfollow, hp]
  simp only [walk_concat h purpose onLink _ front hidle hup]

/-- what stands at a place, for someone who looks -/
def look (d : Disk) (place : Place) : Except Fault Entry :=
  match d.entry? place with
  | some entry => .ok entry
  | none => .error .notFound

def nameIn (here : Place) (name : Name) : Except Fault Place :=
  if name.length > maxName then .error .nameTooLong else .ok (here ++ [name])

theorem lookup_of_concat {d : Disk} (h : d.NoLinks) {p : Path} {front : List Name} {name : Name}
    (hp : pieces p.octets = front ++ [name]) (hidle : isIdle name = false) (hup : name ≠ dotDot) :
    d.lookup p = checkPath p >>= fun _ => d.reach (d.startOf p) front >>= fun here => nameIn here name >>= d.look := by
  rw [lookup, placeOf_eq, locate_of_concat h .find hp hidle hup]
  cases checkPath p with
  | error fault => rfl
  | ok _ =>
    cases d.reach (d.startOf p) front with
    | error fault => rfl
    | ok here =>
      by_cases hlong : name.length > maxName
      · simp [nameIn, hlong, except_error_bind]
      · cases hentry : d.entry? (here ++ [name]) with
        | none => simp [nameIn, hlong, look, found, hentry]
        | some entry => simp [nameIn, hlong, look, found, hentry]

/-- put a file at a place, unless a directory is there -/
def fill (d : Disk) (content : List UInt8) (place : Place) : Except Fault Disk :=
  if d.entry? place = some .directory then .error .isADirectory else .ok (d.put place (.file content))

theorem write_of_concat {d : Disk} (h : d.NoLinks) {p : Path} {front : List Name} {name : Name}
    (hp : pieces p.octets = front ++ [name]) (hidle : isIdle name = false) (hup : name ≠ dotDot)
    (content : List UInt8) :
    d.write p content = checkPath p >>= fun _ => d.reach (d.startOf p) front >>= fun here =>
      nameIn here name >>= d.fill content := by
  rw [write, locate_of_concat h .create hp hidle hup]
  cases checkPath p with
  | error fault => rfl
  | ok _ =>
    cases d.reach (d.startOf p) front with
    | error fault => rfl
    | ok here =>
      by_cases hlong : name.length > maxName
      · simp [nameIn, hlong, except_error_bind]
      · cases hentry : d.entry? (here ++ [name]) with
        | none => simp [nameIn, hlong, fill, hentry]
        | some entry =>
          cases entry with
          | link target => exact absurd hentry (h _ _)
          | file old => simp [nameIn, hlong, fill, hentry]
          | directory => simp [nameIn, hlong, fill, hentry]

theorem startOf_join (d : Disk) {dir : Path} {name : Name} (hdir : dir.octets ≠ []) (h : IsName name) :
    d.startOf (dir.join ⟨name⟩) = d.startOf dir := by
  rw [startOf, startOf, isAbsolute_join hdir h]

theorem directoryAt_join (d : Disk) {dir : Path} {name : Name} (hend : EndsInName dir) (h : IsName name) :
    d.directoryAt (dir.join ⟨name⟩) = d.directoryAt dir >>= fun here => d.reach here [name] := by
  rw [directoryAt, pieces_join hend h, startOf_join d hend.1 h, reach_append]
  rfl

/-- the way to a name that is joined to a path -/
theorem exists_way_join (d : Disk) {dir : Path} {name : Name} (hdir : dir.octets ≠ []) (h : IsName name) :
    ∃ front, pieces (dir.join ⟨name⟩).octets = front ++ [name] ∧
      d.reach (d.startOf (dir.join ⟨name⟩)) front = d.directoryAt dir := by
  obtain ⟨front, hpieces, hlead⟩ := exists_front_join hdir h
  refine ⟨front, hpieces, ?_⟩
  rw [startOf_join d hdir h, ← reach_leading, hlead, reach_leading]
  rfl

theorem lookup_join {d : Disk} (h : d.NoLinks) {dir : Path} {name : Name} (hdir : dir.octets ≠ [])
    (hname : IsOrdinary name) :
    d.lookup (dir.join ⟨name⟩) = checkPath (dir.join ⟨name⟩) >>= fun _ => d.directoryAt dir >>= fun here =>
      nameIn here name >>= d.look := by
  obtain ⟨front, hpieces, hway⟩ := exists_way_join d hdir hname.toIsName
  rw [lookup_of_concat h hpieces hname.not_isIdle hname.notUp, hway]

theorem write_join {d : Disk} (h : d.NoLinks) {dir : Path} {name : Name} (hdir : dir.octets ≠ [])
    (hname : IsOrdinary name) (content : List UInt8) :
    d.write (dir.join ⟨name⟩) content = checkPath (dir.join ⟨name⟩) >>= fun _ => d.directoryAt dir >>= fun here =>
      nameIn here name >>= d.fill content := by
  obtain ⟨front, hpieces, hway⟩ := exists_way_join d hdir hname.toIsName
  rw [write_of_concat h hpieces hname.not_isIdle hname.notUp, hway]

theorem nameIn_eq_ok_iff {here place : Place} {name : Name} :
    nameIn here name = .ok place ↔ name.length ≤ maxName ∧ place = here ++ [name] := by
  unfold nameIn
  split_ifs with hlong
  · simp [Nat.not_le.2 hlong]
  · simp [Nat.not_lt.1 hlong, eq_comm]

theorem fill_eq_ok_iff {d e : Disk} {content : List UInt8} {place : Place} :
    d.fill content place = .ok e ↔ d.entry? place ≠ some .directory ∧ e = d.put place (.file content) := by
  unfold fill
  split_ifs with hdir <;> simp [hdir, eq_comm]

/-! ## Disks that grow -/

structure SameTree (d e : Disk) : Prop where
  workingDir : d.workingDir = e.workingDir
  entry : ∀ place, d.entry? place = e.entry? place

/-- directories stay, and files stay files -/
structure Keeps (d e : Disk) : Prop where
  workingDir : e.workingDir = d.workingDir
  directory : ∀ place, d.entry? place = some .directory → e.entry? place = some .directory
  file : ∀ place content, d.entry? place = some (.file content) → ∃ content', e.entry? place = some (.file content')

theorem Keeps.refl (d : Disk) : Keeps d d :=
  ⟨rfl, fun _ h => h, fun _ content h => ⟨content, h⟩⟩

theorem Keeps.trans {d e f : Disk} (h : Keeps d e) (h' : Keeps e f) : Keeps d f where
  workingDir := h'.workingDir.trans h.workingDir
  directory := fun place hplace => h'.directory place (h.directory place hplace)
  file := fun place content hplace =>
    let ⟨content', hplace'⟩ := h.file place content hplace
    h'.file place content' hplace'

theorem Keeps.startOf {d e : Disk} (h : Keeps d e) (p : Path) : e.startOf p = d.startOf p := by
  rw [Disk.startOf, Disk.startOf, h.workingDir]

theorem Keeps.isSome {d e : Disk} (h : Keeps d e) (hd : d.NoLinks) {place : Place} (hplace : (d.entry? place).isSome) :
    (e.entry? place).isSome := by
  obtain ⟨entry, hentry⟩ := Option.isSome_iff_exists.1 hplace
  cases entry with
  | link target => exact absurd hentry (hd _ _)
  | directory => rw [h.directory place hentry]; rfl
  | file content =>
    obtain ⟨content', hentry'⟩ := h.file place content hentry
    rw [hentry']
    rfl

theorem Keeps.enter {d e : Disk} (h : Keeps d e) (hd : d.NoLinks) {place next : Place} {piece : Name}
    (henter : d.enter place piece = .ok next) : e.enter place piece = .ok next := by
  unfold Disk.enter at henter ⊢
  split_ifs at henter with hidle hup hlong hsome
  · rw [if_pos hidle, henter]
  · rw [if_neg hidle, if_pos hup, henter]
  · rw [if_neg hidle, if_neg hup, if_neg hlong, if_pos (h.isSome hd hsome), henter]

/-- a walk that succeeds still does when entries are added -/
theorem Keeps.reach {d e : Disk} (h : Keeps d e) (hd : d.NoLinks) {place q : Place} {names : List Name}
    (hreach : d.reach place names = .ok q) : e.reach place names = .ok q := by
  induction names generalizing place with
  | nil =>
    obtain ⟨hdir, rfl⟩ := stand_eq_ok_iff.1 hreach
    exact stand_of_directory (h.directory q hdir)
  | cons piece rest ih =>
    obtain ⟨here, hstand, hrest⟩ := except_bind_eq_ok.1 hreach
    obtain ⟨next, henter, hnext⟩ := except_bind_eq_ok.1 hrest
    obtain ⟨hdir, rfl⟩ := stand_eq_ok_iff.1 hstand
    simp only [Disk.reach, stand_of_directory (h.directory here hdir), h.enter hd henter, ih hnext, except_ok_bind]

theorem Keeps.directoryAt {d e : Disk} (h : Keeps d e) (hd : d.NoLinks) {p : Path} {q : Place}
    (hq : d.directoryAt p = .ok q) : e.directoryAt p = .ok q := by
  rw [Disk.directoryAt, h.startOf]
  exact h.reach hd hq

theorem Keeps.placeOf {d e : Disk} (h : Keeps d e) (hd : d.NoLinks) (hd' : e.NoLinks) {p : Path} {q : Place}
    (hq : d.entry? q = some .directory) (hp : d.placeOf p = .ok q) : e.placeOf p = .ok q := by
  obtain ⟨hcheck, hat⟩ := directoryAt_of_placeOf hd hp hq
  exact placeOf_of_directoryAt hd' hcheck (h.directoryAt hd hat)

theorem keeps_put_vacant {d : Disk} {place : Place} (hnil : place ≠ []) (h : d.entry? place = none) (entry : Entry) :
    Keeps d (d.put place entry) where
  workingDir := rfl
  directory := fun other hother => by
    rw [entry?_put hnil, if_neg fun heq => by simp [← heq, hother] at h]
    exact hother
  file := fun other content hother => ⟨content, by
    rw [entry?_put hnil, if_neg fun heq => by simp [← heq, hother] at h]
    exact hother⟩

/-- putting a file in a place that is no directory -/
theorem keeps_put_file {d : Disk} (h : d.NoLinks) {place : Place} (hnil : place ≠ [])
    (hplace : d.entry? place ≠ some .directory) (content : List UInt8) : Keeps d (d.put place (.file content)) := by
  cases hentry : d.entry? place with
  | none => exact keeps_put_vacant hnil hentry _
  | some entry =>
    cases entry with
    | directory => exact absurd hentry hplace
    | link target => exact absurd hentry (h _ _)
    | file old =>
      refine ⟨rfl, fun other hother => ?_, fun other content' hother => ?_⟩
      · rw [entry?_put hnil, if_neg fun heq => hplace (by rwa [← heq])]
        exact hother
      · rw [entry?_put hnil]
        split_ifs
        · exact ⟨content, rfl⟩
        · exact ⟨content', hother⟩

theorem noLinks_put {d : Disk} (h : d.NoLinks) {place : Place} (hnil : place ≠ []) {entry : Entry}
    (hentry : ∀ target, entry ≠ .link target) : (d.put place entry).NoLinks := by
  intro other target
  rw [entry?_put hnil]
  split_ifs
  · simpa using hentry target
  · exact h other target

end ComponentCompiler.Disk
