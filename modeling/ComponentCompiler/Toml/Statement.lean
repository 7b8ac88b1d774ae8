import ComponentCompiler.Toml.Text
import ComponentCompiler.Toml.Value

/-!
The statements of a TOML document, one a line: keys with values, headers of tables, and headers of tables in arrays.
Here a document is read line by line; what the lines mean together is the business of the document.
-/

namespace ComponentCompiler.Toml

/-! ## Dotted keys -/

/-- the entries with a value for a dotted key. Tables on the way are made if they are missing. `grows` says whether the
table at hand takes values: the one that the key is written in does, and so do tables made by dotted keys. Tables that
only a longer header implied are passed through, and of an array of tables the last one. -/
def putDotted (value : Value) (grows : Bool) : List String → Entries → Option Entries
  | [], _ => none
  | [key], entries => if grows && (find? entries key).isNone then some (put entries key value) else none
  | key :: rest, entries =>
    match find? entries key with
    | none => (putDotted value true rest []).map fun inner => put entries key (.table .dotted inner)
    | some (.table .dotted inner) =>
      (putDotted value true rest inner).map fun inner => put entries key (.table .dotted inner)
    | some (.table .implied inner) =>
      (putDotted value false rest inner).map fun inner => put entries key (.table .implied inner)
    | some (.tables items) =>
      match items.getLast? with
      | some last =>
        (putDotted value false rest last).map fun last => put entries key (.tables (items.dropLast ++ [last]))
      | none => none
    | some _ => none

/-- the entries that pairs of dotted keys and values make -/
def entriesOf (pairs : List (List String × Value)) : Option Entries :=
  pairs.foldlM (fun entries (key, value) => putDotted value true key entries) []

/-! ## Values -/

def skipComment (text : List Char) : List Char :=
  match text with
  | '#' :: rest => rest.dropWhile isPrintable
  | other => other

/-- the text behind blanks, comments and line breaks; `inComment` says whether the text begins inside a comment -/
def skipLines (inComment : Bool) : List Char → List Char
  | [] => []
  | c :: rest =>
    if c == '\n' || (c == '\r' && rest.head? == some '\n') then skipLines false rest
    else if inComment then if isPrintable c then skipLines true rest else c :: rest
    else if isLineBlank c then skipLines false rest
    else if c == '#' then skipLines true rest
    else c :: rest

def skipToItem (text : List Char) : List Char :=
  skipLines false text

/-- the items of an array up to its closing bracket; at most `bound` of them -/
def arrayItems (item : Reader Value) : (bound : Nat) → Reader (List Value)
  | 0, _ => none
  | bound + 1, text =>
    match skipToItem text with
    | ']' :: rest => some ([], rest)
    | other => do
      let (value, after) ← item other
      match skipToItem after with
      | ',' :: rest =>
        let (more, after) ← arrayItems item bound rest
        return (value :: more, after)
      | ']' :: rest => return ([value], rest)
      | _ => none

/-- a key, an equals sign and a value -/
def pair (item : Reader Value) (text : List Char) : Option ((List String × Value) × List Char) := do
  let (key, after) ← key text
  match after with
  | '=' :: rest =>
    let (value, after) ← item (skipBlanks rest)
    return ((key, value), skipBlanks after)
  | _ => none

/-- the pairs of a table written in one piece, up to its closing brace; at most `bound` of them -/
def tablePairs (item : Reader Value) : (bound : Nat) → Reader (List (List String × Value))
  | 0, _ => none
  | bound + 1, text => do
    let (one, after) ← pair item text
    match after with
    | ',' :: rest =>
      let (more, after) ← tablePairs item bound rest
      return (one :: more, after)
    | '}' :: rest => return ([one], rest)
    | _ => none

/-- a table written in one piece, behind its opening brace -/
def closedTable (item : Reader Value) (text : List Char) : Option (Value × List Char) :=
  match skipBlanks text with
  | '}' :: rest => some (.table .closed [], rest)
  | other => do
    let (pairs, after) ← tablePairs item (other.length + 1) other
    let entries ← entriesOf pairs
    return (.table .closed entries, after)

/-- a scalar without quotes. A date may be followed by a blank and a time. -/
def bareScalar (text : List Char) : Option (Value × List Char) :=
  let token := text.takeWhile isScalarChar
  let after := text.dropWhile isScalarChar
  match after with
  | ' ' :: rest =>
    let time := rest.takeWhile isScalarChar
    if isDate token && isZonedTime time then
      some (.moment (String.ofList (token ++ ' ' :: time)), rest.dropWhile isScalarChar)
    else (scalar? token).map fun value => (value, after)
  | _ => (scalar? token).map fun value => (value, after)

/-- a value inside which `depth` more brackets may be open at once -/
def value (depth : Nat) (text : List Char) : Option (Value × List Char) :=
  match text with
  | '[' :: rest =>
    match depth with
    | 0 => none
    | depth + 1 => (arrayItems (value depth) (rest.length + 1) rest).map fun (items, after) => (.array items, after)
  | '{' :: rest =>
    match depth with
    | 0 => none
    | depth + 1 => closedTable (value depth) rest
  | c :: rest =>
    if c == '"' || c == apostrophe then (quotedText (c :: rest)).map fun (s, after) => (.string s, after)
    else bareScalar (c :: rest)
  | [] => none

/-- how many brackets may be open at once -/
def maxDepth : Nat := 79

/-! ## Lines -/

inductive Statement where
  | assign (key : List String) (value : Value)
  | header (path : List String)
  | arrayHeader (path : List String)
  deriving Repr

/-- the end of a line: blanks, a comment, and a line break or the end of the text -/
def endOfLine (text : List Char) : Option (List Char) :=
  match skipComment (skipBlanks text) with
  | [] => some []
  | other => lineBreak? other

/-- a header of a table in an array, behind its opening brackets -/
def arrayHeaderLine (text : List Char) : Option (Statement × List Char) := do
  let (path, after) ← key text
  match after with
  | ']' :: ']' :: rest => return (.arrayHeader path, ← endOfLine rest)
  | _ => none

/-- a header of a table, behind its opening bracket -/
def headerLine (text : List Char) : Option (Statement × List Char) := do
  let (path, after) ← key text
  match after with
  | ']' :: rest => return (.header path, ← endOfLine rest)
  | _ => none

/-- a key with a value -/
def assignLine (text : List Char) : Option (Statement × List Char) := do
  let ((key, value), after) ← pair (value maxDepth) text
  return (.assign key value, ← endOfLine after)

/-- one line, and the statement on it if there is one -/
def line (text : List Char) : Option (Option Statement × List Char) :=
  match skipBlanks text with
  | [] => some (none, [])
  | '[' :: '[' :: rest => (arrayHeaderLine rest).map fun (statement, after) => (some statement, after)
  | '[' :: rest => (headerLine rest).map fun (statement, after) => (some statement, after)
  | c :: rest =>
    if c == '#' || c == '\n' || c == '\r' then (endOfLine (c :: rest)).map fun after => (none, after)
    else (assignLine (c :: rest)).map fun (statement, after) => (some statement, after)

/-- the statements of a text of at most `bound` lines -/
def lines : (bound : Nat) → List Char → Option (List Statement)
  | _, [] => some []
  | 0, _ => none
  | bound + 1, text => do
    let (statement, after) ← line text
    let more ← lines bound after
    return statement.toList ++ more

/-- the statements of a document; a byte order mark at its beginning is passed over -/
def statements (text : List Char) : Option (List Statement) :=
  let text := if text.head? == some (Char.ofNat 0xFEFF) then text.drop 1 else text
  lines (text.length + 1) text

end ComponentCompiler.Toml
