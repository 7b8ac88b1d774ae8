import ComponentCompiler.Toml.Statement

/-!
What the statements of a TOML document make together. A table may be headed once; a table that only a longer header
implied may still get a header of its own, one made by dotted keys may not, and what was written in one piece never
grows.
-/

namespace ComponentCompiler.Toml

/-- change the entries of the table that a path leads to. Tables on the way are made if they are missing; of an array of
tables the last one is taken. -/
def change (f : Entries → Option Entries) : List String → Entries → Option Entries
  | [], entries => f entries
  | key :: rest, entries =>
    match find? entries key with
    | none => (change f rest []).map fun inner => put entries key (.table .implied inner)
    | some (.table .closed _) => none
    | some (.table kind inner) => (change f rest inner).map fun inner => put entries key (.table kind inner)
    | some (.tables items) =>
      match items.getLast? with
      | some last => (change f rest last).map fun last => put entries key (.tables (items.dropLast ++ [last]))
      | none => none
    | some _ => none

/-- the table being filled: where it belongs, whether it goes into an array, and what it holds -/
structure Open where
  path : List String
  inArray : Bool
  entries : Entries
  deriving Repr

/-- a document in progress: the finished part and the table being filled -/
structure Document where
  root : Entries
  current : Open
  deriving Repr

def Document.start : Document := ⟨[], ⟨[], false, []⟩⟩

/-- put a finished table where it belongs -/
def Document.close (d : Document) : Option Entries :=
  match d.current.path.reverse with
  | [] => some d.current.entries
  | key :: above =>
    change (fun entries =>
      if d.current.inArray then
        match find? entries key with
        | none => some (put entries key (.tables [d.current.entries]))
        | some (.tables items) => some (put entries key (.tables (items ++ [d.current.entries])))
        | some _ => none
      else some (put entries key (.table .header d.current.entries))) above.reverse d.root

/-- what a new table starts with: nothing, or what a longer header put there -/
def headed (entries : Entries) (key : String) : Option Entries :=
  match find? entries key with
  | none => some []
  | some (.table .implied inner) => some inner
  | some _ => none

/-- the entries of the table that a path leads to, without any change -/
def view : List String → Entries → Option Entries
  | [], entries => some entries
  | key :: rest, entries =>
    match find? entries key with
    | none => some []
    | some (.table .closed _) => none
    | some (.table _ inner) => view rest inner
    | some (.tables items) => items.getLast?.bind (view rest)
    | some _ => none

/-- open a table by its header -/
def openTable (root : Entries) (path : List String) : Option Document :=
  match path.reverse with
  | [] => none
  | key :: above => do
    let parent ← view above.reverse root
    let entries ← headed parent key
    return ⟨root, ⟨path, false, entries⟩⟩

/-- open a table in an array by its header -/
def openArrayTable (root : Entries) (path : List String) : Option Document :=
  match path.reverse with
  | [] => none
  | key :: above => do
    let parent ← view above.reverse root
    match find? parent key with
    | none => return ⟨root, ⟨path, true, []⟩⟩
    | some (.tables _) => return ⟨root, ⟨path, true, []⟩⟩
    | some _ => none

def Document.step (d : Document) : Statement → Option Document
  | .assign key value =>
    (putDotted value true key d.current.entries).map fun entries => { d with current := { d.current with entries } }
  | .header path => d.close.bind (openTable · path)
  | .arrayHeader path => d.close.bind (openArrayTable · path)

def read (text : String) : Option Entries := do
  let statements ← statements text.toList
  let document ← statements.foldlM Document.step Document.start
  document.close

end ComponentCompiler.Toml
