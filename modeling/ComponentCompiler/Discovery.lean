import ComponentCompiler.Disk.Access

/-!
Finding sources below a directory. Links are followed, except one that leads to a directory on the way to it; what
cannot be looked at is passed over. The sources come in the order of their paths, part by part.
-/

namespace ComponentCompiler.Discovery

open Disk

def sourceExtension : Name := "webc".toList.flatMap String.utf8EncodeChar

def isSource (d : Disk) (p : Path) : Bool :=
  d.isFile p && p.extension? == some sourceExtension

/-- the sources below a directory, at most `depth` directories down; `above` holds the places of the directories on the
way, the directory itself included -/
def below (d : Disk) : (depth : Nat) → (above : List Place) → Path → List Path
  | 0, _, _ => []
  | depth + 1, above, dir =>
    match d.list dir with
    | .error _ => []
    | .ok children =>
      children.flatMap fun (name, entry) =>
        let p := dir.join ⟨name⟩
        match d.placeOf p with
        | .error _ => []
        | .ok place =>
          if d.entry? place == some .directory then
            match entry with
            | .link _ => if above.contains place then [] else below d depth (place :: above) p
            | _ => below d depth (place :: above) p
          else if isSource d p then [p] else []

/-- the sources below a directory, in order. No path is longer than `maxPath` octets, so that many directories down
there is nothing. -/
def sources (d : Disk) (dir : Path) : List Path :=
  match d.placeOf dir with
  | .error _ => []
  | .ok place => (below d (maxPath + 1) [place] dir).mergeSort Path.le

end ComponentCompiler.Discovery
