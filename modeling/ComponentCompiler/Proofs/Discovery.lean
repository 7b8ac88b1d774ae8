import ComponentCompiler.Discovery
import ComponentCompiler.Proofs.Disk.Entries

/-!
Sources that were discovered.

`below_of_opens` and `mem_behind_iff` say what one step of the search does, and `below_induction` what follows for all
of it. Every discovered path leads to a file whose name has the extension of sources (`isSource_of_mem_sources`). On a
disk without links such a path is a way through directories and this name (`exists_sourceAt`), so reading it gives the
same text on every disk that keeps the directories and the sources (`readText_of_source`).
-/

namespace ComponentCompiler.Discovery

open ComponentCompiler.Path Disk

/-! ## One step of the search -/

/-- what the search finds behind an entry of a directory, `p` being the path to it -/
def behind (d : Disk) (depth : Nat) (above : List Place) (p : Path) (entry : Entry) : List Path :=
  match d.placeOf p with
  | .error _ => []
  | .ok place =>
    if d.entry? place == some .directory then
      match entry with
      | .link _ => if above.contains place then [] else below d depth (place :: above) p
      | _ => below d depth (place :: above) p
    else if isSource d p then [p] else []

theorem below_of_opens {d : Disk} {dir : Path} {here : Place} (h : d.Opens dir here) (depth : Nat)
    (above : List Place) :
    below d (depth + 1) above dir =
      (d.children here).flatMap fun child => behind d depth above (dir.join ⟨child.1⟩) child.2 := by
  have hlist : d.list dir = .ok (d.children here) := by simp [list, h.1, h.2]
  rw [below, hlist]
  rfl

theorem mem_behind_iff {d : Disk} {depth : Nat} {above : List Place} {p q : Path} {entry : Entry} :
    q ∈ behind d depth above p entry ↔ ∃ place, d.placeOf p = .ok place ∧
      (d.entry? place = some .directory ∧ (∀ target, entry = .link target → place ∉ above) ∧
          q ∈ below d depth (place :: above) p ∨
        d.entry? place ≠ some .directory ∧ isSource d p = true ∧ q = p) := by
  unfold behind
  cases hplace : d.placeOf p with
  | error fault => simp
  | ok place =>
    by_cases hdirectory : d.entry? place = some .directory
    · cases entry with
      | link target => by_cases habove : place ∈ above <;> simp [hdirectory, habove]
      | file content => simp [hdirectory]
      | directory => simp [hdirectory]
    · by_cases hsource : isSource d p = true <;> simp [hdirectory, hsource]

theorem exists_opens_of_mem_below {d : Disk} {depth : Nat} {above : List Place} {dir p : Path}
    (h : p ∈ below d depth above dir) : ∃ here, d.Opens dir here := by
  cases depth with
  | zero => simp [below] at h
  | succ depth =>
    cases hlist : d.list dir with
    | error fault => simp [below, hlist] at h
    | ok children =>
      unfold list at hlist
      split at hlist
      · next place hplace =>
        split_ifs at hlist with hdirectory
        exact ⟨place, hplace, beq_iff_eq.1 hdirectory⟩
      · cases hlist

/-- what holds of the sources in a directory, and of what is found below one of its entries if it holds there, holds of
all that is found below the directory -/
theorem below_induction {d : Disk} {P : Path → Path → Prop}
    (hsource : ∀ dir here name entry, d.Opens dir here → (name, entry) ∈ d.children here →
      isSource d (dir.join ⟨name⟩) = true → P dir (dir.join ⟨name⟩))
    (hbelow : ∀ dir here name entry p, d.Opens dir here → (name, entry) ∈ d.children here →
      P (dir.join ⟨name⟩) p → P dir p)
    {depth : Nat} {above : List Place} {dir p : Path} (h : p ∈ below d depth above dir) : P dir p := by
  induction depth generalizing dir above with
  | zero => simp [below] at h
  | succ depth ih =>
    obtain ⟨here, hopens⟩ := exists_opens_of_mem_below h
    rw [below_of_opens hopens] at h
    obtain ⟨⟨name, entry⟩, hchild, h⟩ := List.mem_flatMap.1 h
    obtain ⟨place, -, ⟨-, -, h⟩ | ⟨-, hfile, rfl⟩⟩ := mem_behind_iff.1 h
    · exact hbelow dir here name entry p hopens hchild (ih h)
    · exact hsource dir here name entry hopens hchild hfile

/-! ## Sources -/

theorem isSource_of_mem_below {d : Disk} {depth : Nat} {above : List Place} {dir p : Path}
    (h : p ∈ below d depth above dir) :
    isSource d p = true :=
  below_induction (P := fun _ p => isSource d p = true) (fun _ _ _ _ _ _ h => h) (fun _ _ _ _ _ _ _ h => h) h

theorem isSource_of_mem_sources {d : Disk} {dir p : Path} (h : p ∈ sources d dir) : isSource d p = true := by
  unfold sources at h
  split at h
  · simp at h
  · exact isSource_of_mem_below ((List.mem_mergeSort).1 h)

/-- the last part of a path whose last piece leads somewhere -/
theorem getLast?_parts {p : Path} {front : List Name} {last : Name} (hp : pieces p.octets = front ++ [last])
    (hlast : isIdle last = false) : p.parts.getLast? = partOf? last := by
  obtain ⟨hne, hdot⟩ := not_isIdle_iff.1 hlast
  obtain ⟨part, hpart⟩ : ∃ part, partOf? last = some part := by
    rw [← Option.isSome_iff_exists]
    simpa [isIdle] using hlast
  unfold parts
  rw [hp]
  cases front with
  | nil => simp [hne, hdot, hpart]
  | cons first rest => simp [List.filterMap_append, hpart]

/-- the place of a source: the way to it, and its name -/
structure SourceAt (d : Disk) (p : Path) (front : List Name) (name : Name) (here : Place) (content : List UInt8) :
    Prop where
  pieces : pieces p.octets = front ++ [name]
  leads : isIdle name = false
  notUp : name ≠ dotDot
  extension : extensionOf? name = some sourceExtension
  check : checkPath p = .ok ()
  way : d.reach (d.startOf p) front = .ok here
  fits : name.length ≤ maxName
  entry : d.entry? (here ++ [name]) = some (.file content)

/-- a path to a source ends in the name of the source -/
theorem exists_sourceAt {d : Disk} (h : d.NoLinks) {p : Path} (hp : isSource d p = true) :
    ∃ front name here content, SourceAt d p front name here content := by
  simp only [isSource, Bool.and_eq_true, beq_iff_eq] at hp
  obtain ⟨hfile, hextension⟩ := hp
  obtain ⟨content, hlookup⟩ : ∃ content, d.lookup p = .ok (.file content) := by
    unfold isFile at hfile
    split at hfile
    · next content hlookup => exact ⟨content, hlookup⟩
    · cases hfile
  rcases List.eq_nil_or_concat (Path.pieces p.octets) with hnil | ⟨front, last, hlast⟩
  · exact absurd hnil (pieces_ne_nil _)
  rw [List.concat_eq_append] at hlast
  cases hidle : isIdle last with
  | true =>
    -- a slash or a dot at the end asks for a directory
    obtain ⟨place, hplace, hentry⟩ := lookup_eq_ok hlookup
    rw [placeOf_of_idle h hlast hidle] at hplace
    obtain ⟨_, -, hreach⟩ := except_bind_eq_ok.1 hplace
    cases hentry.symm.trans (entry?_of_reach hreach)
  | false =>
    have hpart := getLast?_parts hlast hidle
    obtain ⟨name, hname, hext⟩ : ∃ name, p.fileName? = some name ∧ extensionOf? name = some sourceExtension := by
      simpa [extension?, Option.bind_eq_some_iff] using hextension
    obtain ⟨hup, rfl⟩ : last ≠ dotDot ∧ last = name := by
      simp only [fileName?, hpart] at hname
      simp only [partOf?, isIdle] at hname hidle
      split_ifs at hname hidle with hup
      simp_all
    rw [lookup_of_concat h hlast hidle hup] at hlookup
    obtain ⟨_, hcheck, hlookup⟩ := except_bind_eq_ok.1 hlookup
    obtain ⟨here, hway, hlookup⟩ := except_bind_eq_ok.1 hlookup
    obtain ⟨place, hplace, hlook⟩ := except_bind_eq_ok.1 hlookup
    obtain ⟨hfits, rfl⟩ := nameIn_eq_ok_iff.1 hplace
    refine ⟨front, last, here, content, hlast, hidle, hup, hext, hcheck, hway, hfits, ?_⟩
    unfold look at hlook
    split at hlook
    · next entry hentry => rw [hentry, Except.ok.inj hlook]
    · cases hlook

/-- reading a source gives the same text on every disk that keeps the directories and the source -/
theorem readText_of_source {d e : Disk} (hd : d.NoLinks) (he : e.NoLinks) (hkeeps : Keeps d e)
    (hintact : ∀ place name content, extensionOf? name = some sourceExtension →
      d.entry? (place ++ [name]) = some (.file content) → e.entry? (place ++ [name]) = some (.file content))
    {p : Path} (hp : isSource d p = true) : e.readText p = d.readText p := by
  obtain ⟨front, name, here, content, hat⟩ := exists_sourceAt hd hp
  have hentry := hintact here name content hat.extension hat.entry
  have hway := hkeeps.reach hd hat.way
  have hlookup : e.lookup p = d.lookup p := by
    rw [lookup_of_concat he hat.pieces hat.leads hat.notUp, lookup_of_concat hd hat.pieces hat.leads hat.notUp,
      hkeeps.startOf, hway, hat.way]
    simp only [nameIn, if_neg (Nat.not_lt.2 hat.fits), except_ok_bind, look, hentry, hat.entry]
  rw [readText, readText, hlookup]

/-- sources that are found in order -/
theorem sources_of_below {d : Disk} {dir : Path} {place : Place} {found : List Path}
    (hplace : d.placeOf dir = .ok place) (hfound : below d (maxPath + 1) [place] dir = found)
    (hsorted : found.Pairwise (Path.le · ·)) :
    sources d dir = found := by
  rw [sources, hplace]
  simp only [hfound]
  exact List.mergeSort_of_pairwise hsorted

end ComponentCompiler.Discovery
