import ComponentCompiler.Text.Utf8

/-!
Paths as octets. A path is kept exactly as it was given; repeated slashes, slashes at the end and single dots play no
part when it is taken apart into parts, and show when it is printed or joined.
-/

namespace ComponentCompiler

open Text

/-- the name of one entry of a directory -/
abbrev Name := List UInt8

/-- a path, octet for octet -/
structure Path where
  octets : List UInt8
  deriving DecidableEq, Repr, Inhabited

namespace Path

/-- the octet between two names -/
def slash : UInt8 := 0x2F

/-- the name that stands for the directory itself -/
def dot : Name := [0x2E]

/-- the name that stands for the directory above -/
def dotDot : Name := [0x2E, 0x2E]

def ofString (s : String) : Path :=
  ⟨Utf8.encode s⟩

/-- the path as text, with U+FFFD where the octets are no text -/
def display (p : Path) : String :=
  Utf8.decodeLossy p.octets

instance : ToString Path := ⟨display⟩

/-- what stands between the slashes, empty pieces included -/
def pieces : List UInt8 → List Name
  | [] => [[]]
  | octet :: rest =>
    if octet == slash then [] :: pieces rest
    else
      match pieces rest with
      | piece :: more => (octet :: piece) :: more
      | [] => [[octet]]

/-- a part of a path that has a meaning -/
inductive Part where
  | root
  | here
  | up
  | entry (name : Name)
  deriving DecidableEq, Repr

/-- the part that a piece after the first one stands for -/
def partOf? (piece : Name) : Option Part :=
  if piece == [] || piece == dot then none
  else if piece == dotDot then some .up
  else some (.entry piece)

/-- the parts of a path: a single dot counts only at its beginning -/
def parts (p : Path) : List Part :=
  match pieces p.octets with
  | [] => []
  | first :: rest =>
    let head :=
      if first == [] then (if rest.isEmpty then [] else [Part.root])
      else if first == dot then [Part.here]
      else (partOf? first).toList
    head ++ rest.filterMap partOf?

def isAbsolute (p : Path) : Bool :=
  p.octets.head? == some slash

/-- `q` seen from `p`: an absolute `q` stands alone, and nothing is simplified -/
def join (p q : Path) : Path :=
  if q.isAbsolute then q
  else if p.octets.isEmpty || p.octets.getLast? == some slash then ⟨p.octets ++ q.octets⟩
  else ⟨p.octets ++ slash :: q.octets⟩

/-- the pieces up to the last one that stands for a part -/
def dropIdle (pieces : List Name) : List Name :=
  (pieces.reverse.dropWhile fun piece => (partOf? piece).isNone).reverse

/-- the path without its last part; the root and the empty path have none above them -/
def parent? (p : Path) : Option Path :=
  match pieces p.octets with
  | [] => none
  | first :: rest =>
    match dropIdle rest with
    | [] => if first == [] then none else some ⟨[]⟩
    | meant =>
      let above := dropIdle meant.dropLast
      if first == [] && above.isEmpty then some ⟨[slash]⟩
      else some ⟨first ++ above.flatMap (slash :: ·)⟩

/-- at most `count` of the path, the path above it, and so on -/
def chain : Nat → Path → List Path
  | 0, _ => []
  | count + 1, p =>
    p :: match p.parent? with
      | some above => chain count above
      | none => []

/-- the path, the path above it, and so on to the top -/
def ancestors (p : Path) : List Path :=
  chain (p.octets.length + 1) p

/-- the last part, if it names an entry -/
def fileName? (p : Path) : Option Name :=
  match p.parts.getLast? with
  | some (.entry name) => some name
  | _ => none

/-- what follows the last dot of a name, unless that dot is its first character -/
def extensionOf? (name : Name) : Option Name :=
  let dotOctet : UInt8 := 0x2E
  let ending := (name.reverse.takeWhile (· != dotOctet)).reverse
  let stem := name.take (name.length - ending.length - 1)
  if name.contains dotOctet && !stem.isEmpty then some ending else none

def extension? (p : Path) : Option Name :=
  p.fileName?.bind extensionOf?

/-- order of octet lists, as in a dictionary -/
def octetsLe : List UInt8 → List UInt8 → Bool
  | [], _ => true
  | _ :: _, [] => false
  | a :: as, b :: bs => a < b || (a == b && octetsLe as bs)

/-- where the kind of a part stands among the kinds -/
def Part.rank : Part → Nat
  | .root => 0
  | .here => 1
  | .up => 2
  | .entry _ => 3

/-- the name of a part that names an entry -/
def Part.nameOctets : Part → Name
  | .entry name => name
  | _ => []

/-- order of parts: by kind, then by the octets of the name -/
def Part.le (a b : Part) : Bool :=
  a.rank < b.rank || (a.rank == b.rank && octetsLe a.nameOctets b.nameOctets)

def partsLe : List Part → List Part → Bool
  | [], _ => true
  | _ :: _, [] => false
  | a :: as, b :: bs => if a = b then partsLe as bs else a.le b

/-- order of paths, part by part and not octet by octet -/
def le (p q : Path) : Bool :=
  partsLe p.parts q.parts

end Path

end ComponentCompiler
