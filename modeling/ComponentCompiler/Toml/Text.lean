/-!
Quoted texts and keys of TOML. A reader takes the text that is left and answers what it read with the text left after
it, or nothing if the text is malformed.
-/

namespace ComponentCompiler.Toml

abbrev Reader (α : Type) := List Char → Option (α × List Char)

/-- whether a character is a blank within a line -/
def isLineBlank (c : Char) : Bool :=
  c == ' ' || c == '\t'

def skipBlanks (text : List Char) : List Char :=
  text.dropWhile isLineBlank

/-- whether a character may stand in comments and literal texts -/
def isPrintable (c : Char) : Bool :=
  c == '\t' || (0x20 ≤ c.toNat && c.toNat != 0x7F)

/-- what follows a line break at the beginning of the text -/
def lineBreak? (text : List Char) : Option (List Char) :=
  match text with
  | '\n' :: rest => some rest
  | '\r' :: '\n' :: rest => some rest
  | _ => none

def hexNumber? (digits : List Char) : Option Nat :=
  digits.foldlM (fun n c =>
    if c.isDigit then some (n * 16 + (c.toNat - '0'.toNat))
    else if 'a' ≤ c && c ≤ 'f' then some (n * 16 + (c.toNat - 'a'.toNat + 10))
    else if 'A' ≤ c && c ≤ 'F' then some (n * 16 + (c.toNat - 'A'.toNat + 10))
    else none) 0

/-- the character with a number of `count` hexadecimal digits -/
def numbered? (count : Nat) (text : List Char) : Option Char :=
  let digits := text.take count
  if digits.length == count then
    match hexNumber? digits with
    | some n => if n < 0xD800 || (0xE000 ≤ n && n < 0x110000) then some (Char.ofNat n) else none
    | none => none
  else none

/-- what stands behind a backslash: the character meant, and how many characters it takes -/
def escape? (text : List Char) : Option (Char × Nat) :=
  match text with
  | 'b' :: _ => some (Char.ofNat 0x08, 1)
  | 't' :: _ => some ('\t', 1)
  | 'n' :: _ => some ('\n', 1)
  | 'f' :: _ => some (Char.ofNat 0x0C, 1)
  | 'r' :: _ => some ('\r', 1)
  | '"' :: _ => some ('"', 1)
  | '\\' :: _ => some ('\\', 1)
  | 'u' :: rest => (numbered? 4 rest).map fun c => (c, 5)
  | 'U' :: rest => (numbered? 8 rest).map fun c => (c, 9)
  | _ => none

/-- a text of one line with escapes, behind its opening quote; `skip` and `taken` as in a scan that passes over what an
escape took and gathers the characters in reverse -/
def basicFrom (skip : Nat) (taken : List Char) : Reader String
  | [] => none
  | c :: rest =>
    match skip with
    | skip + 1 => basicFrom skip taken rest
    | 0 =>
      if c == '"' then some (String.ofList taken.reverse, rest)
      else if c == '\\' then
        match escape? rest with
        | some (meant, count) => basicFrom count (meant :: taken) rest
        | none => none
      else if isPrintable c then basicFrom 0 (c :: taken) rest
      else none

/-- a text of one line without escapes, behind its opening quote -/
def literal (text : List Char) : Option (String × List Char) :=
  match text.dropWhile fun c => isPrintable c && c.toNat != 0x27 with
  | c :: rest =>
    if c.toNat == 0x27 then some (String.ofList (text.takeWhile fun c => isPrintable c && c.toNat != 0x27), rest)
    else none
  | [] => none

/-- how many blanks and line breaks follow a backslash at the end of a line; none if there is more on the line -/
def continuation? (text : List Char) : Option Nat :=
  match lineBreak? (skipBlanks text) with
  | none => none
  | some _ => some (text.takeWhile fun c => isLineBlank c || c == '\n' || c == '\r').length

/-- whether every carriage return of a text comes before a line feed -/
def returnsPaired : List Char → Bool
  | [] => true
  | '\r' :: '\n' :: rest => returnsPaired rest
  | c :: rest => c != '\r' && returnsPaired rest

/-- what a quote in a long text means: the closing quotes are the last three of at most five in a row, and what is
before them belongs to the text. Answers the quotes that belong to the text, and whether it ends here. -/
def quoteRun (count : Nat) : Nat × Bool :=
  if count < 3 then (count, false) else (min (count - 3) 2, true)

/-- a long text, behind its opening quotes; `escapes` says whether backslashes have a meaning -/
def longFrom (quote : Char) (escapes : Bool) (skip : Nat) (taken : List Char) : Reader String
  | [] => none
  | c :: rest =>
    match skip with
    | skip + 1 => longFrom quote escapes skip taken rest
    | 0 =>
      if c == quote then
        let (inside, ends) := quoteRun ((c :: rest).takeWhile (· == quote)).length
        let gathered := List.replicate inside quote ++ taken
        if ends then some (String.ofList gathered.reverse, (c :: rest).drop (inside + 3))
        else longFrom quote escapes (inside - 1) gathered rest
      else if c == '\\' && escapes then
        match continuation? rest with
        | some count =>
          if returnsPaired (rest.take count) then longFrom quote escapes count taken rest else none
        | none =>
          match escape? rest with
          | some (meant, count) => longFrom quote escapes count (meant :: taken) rest
          | none => none
      else if c == '\n' then longFrom quote escapes 0 ('\n' :: taken) rest
      else if c == '\r' then
        if rest.head? == some '\n' then longFrom quote escapes 1 ('\n' :: taken) rest else none
      else if isPrintable c then longFrom quote escapes 0 (c :: taken) rest
      else none

/-- a long text behind its opening quotes: a line break right behind them does not belong to it -/
def long (quote : Char) (escapes : Bool) (text : List Char) : Option (String × List Char) :=
  longFrom quote escapes 0 [] ((lineBreak? text).getD text)

/-- the quote of literal texts -/
def apostrophe : Char := Char.ofNat 0x27

/-- a quoted text, none if the text does not begin with a quote or is malformed -/
def quotedText (text : List Char) : Option (String × List Char) :=
  match text with
  | '"' :: '"' :: '"' :: rest => long '"' true rest
  | '"' :: rest => basicFrom 0 [] rest
  | a :: b :: c :: rest =>
    if a == apostrophe then
      if b == apostrophe && c == apostrophe then long apostrophe false rest else literal (b :: c :: rest)
    else none
  | a :: rest => if a == apostrophe then literal rest else none
  | [] => none

def isKeyChar (c : Char) : Bool :=
  c.isAlphanum || c == '-' || c == '_'

def keyPart (text : List Char) : Option (String × List Char) :=
  match text with
  | '"' :: rest => basicFrom 0 [] rest
  | c :: rest =>
    if c == apostrophe then literal rest
    else
      let bare := text.takeWhile isKeyChar
      if bare.isEmpty then none else some (String.ofList bare, text.dropWhile isKeyChar)
  | [] => none

/-- the parts of a key with dots between them; at most `bound` of them -/
def keyParts : (bound : Nat) → Reader (List String)
  | 0, _ => none
  | bound + 1, text => do
    let (part, after) ← keyPart (skipBlanks text)
    match skipBlanks after with
    | '.' :: rest =>
      let (more, after) ← keyParts bound rest
      return (part :: more, after)
    | after => return ([part], after)

def maxKeyParts : Nat := 79

/-- a key, with the blanks around it -/
def key (text : List Char) : Option (List String × List Char) :=
  keyParts maxKeyParts text

end ComponentCompiler.Toml
