import ComponentCompiler.Disk.Lookup

/-!
Reading from and writing to a disk. Files are written whole; a directory is made together with the directories above it
that are missing.
-/

namespace ComponentCompiler.Disk

open Text

def isPresent (d : Disk) (p : Path) : Bool :=
  (d.lookup p).isOk

def isDirectory (d : Disk) (p : Path) : Bool :=
  match d.lookup p with
  | .ok .directory => true
  | _ => false

def isFile (d : Disk) (p : Path) : Bool :=
  match d.lookup p with
  | .ok (.file _) => true
  | _ => false

def readText (d : Disk) (p : Path) : Except Fault String :=
  match d.lookup p with
  | .ok (.file content) =>
    match Utf8.decode? content with
    | some text => .ok text
    | none => .error .notText
  | .ok _ => .error .isADirectory
  | .error fault => .error fault

/-- write a file, in the stead of one that is there -/
def write (d : Disk) (p : Path) (content : List UInt8) : Except Fault Disk :=
  match d.locate .create p with
  | .ok (.vacant place slashed) => if slashed then .error .isADirectory else .ok (d.put place (.file content))
  | .ok (.taken place) =>
    match d.entry? place with
    | some (.file _) => .ok (d.put place (.file content))
    | _ => .error .isADirectory
  | .error fault => .error fault

def writeText (d : Disk) (p : Path) (text : String) : Except Fault Disk :=
  d.write p (Utf8.encode text)

def makeDir (d : Disk) (p : Path) : Except Fault Disk :=
  (d.vacancy p).map fun place => d.put place .directory

def makeLink (d : Disk) (p target : Path) : Except Fault Disk :=
  (d.vacancy p).map fun place => d.put place (.link target)

/-- make the first directory of a list, and before it those behind it as far as they are missing; what was made stays
even if something fails later -/
def makeChain (d : Disk) : List Path → Except Fault Unit × Disk
  | [] => (.error (.refused "failed to create whole tree"), d)
  | p :: above =>
    if p.octets.isEmpty then (.ok (), d)
    else
      let accept (d : Disk) (fault : Fault) : Except Fault Unit × Disk :=
        if d.isDirectory p then (.ok (), d) else (.error fault, d)
      match d.makeDir p with
      | .ok made => (.ok (), made)
      | .error .notFound =>
        match makeChain d above with
        | (.ok (), d) =>
          match d.makeDir p with
          | .ok made => (.ok (), made)
          | .error fault => accept d fault
        | failed => failed
      | .error fault => accept d fault

/-- make a directory and the missing ones above it; a directory that is there is fine -/
def makeDirs (d : Disk) (p : Path) : Except Fault Unit × Disk :=
  d.makeChain p.ancestors

/-- the entries of a directory by name -/
def list (d : Disk) (p : Path) : Except Fault (List (Name × Entry)) :=
  match d.placeOf p with
  | .ok place => if d.entry? place == some .directory then .ok (d.children place) else .error .notADirectory
  | .error fault => .error fault

end ComponentCompiler.Disk
