import ComponentCompiler.Disk.Tree

/-!
Finding the place that a path leads to. The pieces of the path are followed one by one: every piece, also an empty one
or a dot, asks for a directory to stand in. Links are followed, up to a fixed number of them in one lookup. The last
piece may lead to a vacant place of a directory, where something can be created.
-/

namespace ComponentCompiler.Disk

/-- the longest name of an entry, in octets -/
def maxName : Nat := 255

/-- the longest path, in octets -/
def maxPath : Nat := 4095

/-- how many links one lookup follows -/
def maxLinks : Nat := 40

/-- where a lookup ends -/
inductive Spot where
  | taken (place : Place)
  | vacant (place : Place) (slashed : Bool)
  deriving DecidableEq, Repr

/-- what a lookup is for: something that is there, or something that is created if it is not -/
inductive Purpose where
  | find
  | create
  deriving DecidableEq, Repr

def onlySlashes (pieces : List Name) : Bool :=
  pieces.all (·.isEmpty)

/-- follow pieces from a place; `onLink` goes on at a link, from the place where its target starts -/
def walk (d : Disk) (purpose : Purpose) (onLink : Place → List Name → Except Fault Spot) (place : Place) :
    List Name → Except Fault Spot
  | [] => .ok (.taken place)
  | piece :: rest =>
    if d.entry? place != some .directory then .error .notADirectory
    else if piece == [] || piece == Path.dot then walk d purpose onLink place rest
    else if piece == Path.dotDot then walk d purpose onLink place.dropLast rest
    else if purpose == .create && !rest.isEmpty && onlySlashes rest then .error .isADirectory
    else if piece.length > maxName then .error .nameTooLong
    else
      match d.entry? (place ++ [piece]) with
      | some (.link target) =>
        onLink (if target.isAbsolute then [] else place) (Path.pieces target.octets ++ rest)
      | some _ => walk d purpose onLink (place ++ [piece]) rest
      | none => if onlySlashes rest then .ok (.vacant (place ++ [piece]) (!rest.isEmpty)) else .error .notFound

/-- follow pieces from a place through at most `links` links -/
def follow (d : Disk) (purpose : Purpose) : (links : Nat) → Place → List Name → Except Fault Spot
  | 0 => d.walk purpose fun _ _ => .error .tooManyLinks
  | links + 1 => d.walk purpose (d.follow purpose links)

/-- the octets of a path are fit for a lookup -/
def checkPath (p : Path) : Except Fault Unit :=
  if p.octets.contains 0 then .error .nulOctet
  else if p.octets.length > maxPath then .error .nameTooLong
  else if p.octets.isEmpty then .error .notFound
  else .ok ()

def startOf (d : Disk) (p : Path) : Place :=
  if p.isAbsolute then [] else d.workingDir

def locate (d : Disk) (purpose : Purpose) (p : Path) : Except Fault Spot := do
  checkPath p
  d.follow purpose maxLinks (d.startOf p) (Path.pieces p.octets)

/-- the place of what a path leads to -/
def placeOf (d : Disk) (p : Path) : Except Fault Place :=
  match d.locate .find p with
  | .ok (.taken place) => .ok place
  | .ok (.vacant _ _) => .error .notFound
  | .error fault => .error fault

/-- what a path leads to -/
def lookup (d : Disk) (p : Path) : Except Fault Entry :=
  match d.placeOf p with
  | .ok place =>
    match d.entry? place with
    | some entry => .ok entry
    | none => .error .notFound
  | .error fault => .error fault

def trimSlashes (pieces : List Name) : List Name :=
  (pieces.reverse.dropWhile (·.isEmpty)).reverse

/-- the place at which a path would create an entry: a link at the end is not followed, and the place has to be
vacant -/
def vacancy (d : Disk) (p : Path) : Except Fault Place := do
  checkPath p
  match (trimSlashes (Path.pieces p.octets)).reverse with
  | [] => .error .alreadyExists
  | last :: before =>
    match ← d.follow .find maxLinks (d.startOf p) (before.reverse ++ [[]]) with
    | .vacant _ _ => .error .notFound
    | .taken place =>
      if last == Path.dot || last == Path.dotDot then .error .alreadyExists
      else if last.length > maxName then .error .nameTooLong
      else if (d.entry? (place ++ [last])).isSome then .error .alreadyExists
      else .ok (place ++ [last])

end ComponentCompiler.Disk
