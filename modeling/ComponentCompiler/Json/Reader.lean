import ComponentCompiler.Json.Fault

/-!
Reading a JSON object. Every reader takes the text that is left and answers a value with the text left after it, or
stops. A stop is either at the character that is looked at (one octet ahead of it) or behind what was taken.

Numbers are read as they are needed for messages: digits go into a significand of 64 bits as long as they fit. Further
digits before the point only raise the exponent, and further digits behind it are dropped.
-/

namespace ComponentCompiler.Json

open Decimal Text

abbrev Reader (α : Type) := List Char → Except Stop (α × List Char)

/-- stop at the character that is looked at, or at the end of the text -/
def stopAt {α : Type} (cause : Cause) (rest : List Char) : Except Stop α :=
  .error ⟨cause, rest, 1⟩

/-- stop behind what was taken -/
def stopBehind {α : Type} (cause : Cause) (rest : List Char) : Except Stop α :=
  .error ⟨cause, rest, 0⟩

def isSpace (c : Char) : Bool :=
  c == ' ' || c == '\n' || c == '\t' || c == '\r'

/-- the text from the next token on -/
def skipSpace (text : List Char) : List Char :=
  text.dropWhile isSpace

/-- the rest of a word of which the first letter is taken -/
def word : List Char → Reader Unit
  | [], text => .ok ((), text)
  | _ :: _, [] => stopBehind .endInValue []
  | w :: ws, c :: rest => if c == w then word ws rest else stopAt .expectedWord (c :: rest)

/-! ## Numbers -/

def digitValue (c : Char) : Nat :=
  c.toNat - '0'.toNat

/-- the greatest significand -/
def maxSignificand : Nat := Nat.pow 2 64 - 1

/-- put digits into a significand as long as they fit: the significand, and how many were put in -/
def absorb (significand : Nat) : List Char → Nat × Nat
  | [] => (significand, 0)
  | c :: rest =>
    let next := significand * 10 + digitValue c
    if next > maxSignificand then (significand, 0)
    else
      let (significand, count) := absorb next rest
      (significand, count + 1)

/-- the double of a significand and a decimal exponent, once the whole number is taken -/
def double (negative : Bool) (significand : Nat) (exponent : Int) : Reader Number := fun rest =>
  match (Binary64.nearest significand 1).bind (·.scale exponent) with
  | some magnitude => .ok (.double negative magnitude, rest)
  | none => stopBehind .numberOutOfRange rest

/-- the greatest exponent that is read as a number -/
def maxExponent : Nat := Nat.pow 2 31 - 1

/-- exponent digits: the exponent and the text after it, or, when it grows too large, the text after the digit at which
it does -/
def exponentDigits (exponent : Nat) : List Char → Except (List Char) (Nat × List Char)
  | [] => .ok (exponent, [])
  | c :: rest =>
    if c.isDigit then
      let next := exponent * 10 + digitValue c
      if next > maxExponent then .error rest else exponentDigits next rest
    else .ok (exponent, c :: rest)

/-- a number from its exponent digits on -/
def exponentValue (negative : Bool) (significand : Nat) (base : Int) (below : Bool) : Reader Number
  | [] => stopBehind .endInValue []
  | c :: rest =>
    if c.isDigit then
      match exponentDigits (digitValue c) rest with
      | .ok (exponent, after) => double negative significand (if below then base - exponent else base + exponent) after
      | .error after =>
        if significand != 0 && !below then stopBehind .numberOutOfRange after
        else .ok (.double negative .zero, after.dropWhile Char.isDigit)
    else stopAt .badNumber (c :: rest)

/-- a number from behind the letter e on -/
def exponentPart (negative : Bool) (significand : Nat) (base : Int) (text : List Char) :
    Except Stop (Number × List Char) :=
  match text with
  | '+' :: rest => exponentValue negative significand base false rest
  | '-' :: rest => exponentValue negative significand base true rest
  | other => exponentValue negative significand base false other

/-- a number that ends here or goes on with an exponent -/
def scaledNumber (negative : Bool) (significand : Nat) (base : Int) (text : List Char) :
    Except Stop (Number × List Char) :=
  match text with
  | 'e' :: rest | 'E' :: rest => exponentPart negative significand base rest
  | other => double negative significand base other

/-- a number from behind the point on -/
def fractionPart (negative : Bool) (significand : Nat) (base : Int) (text : List Char) :
    Except Stop (Number × List Char) :=
  let digits := text.takeWhile Char.isDigit
  let after := text.dropWhile Char.isDigit
  if digits.isEmpty then
    if after.isEmpty then stopAt .endInValue after else stopAt .badNumber after
  else
    let (significand, count) := absorb significand digits
    scaledNumber negative significand (base - count) after

/-- the number of a significand without fraction and exponent -/
def integerNumber (negative : Bool) (significand : Nat) : Number :=
  if !negative then .integer significand
  else if 0 < significand && significand ≤ Nat.pow 2 63 then .integer (-(significand : Int))
  else .double true ((Binary64.nearest significand 1).getD .zero)

/-- a number from behind its integer digits on; `dropped` of these did not fit into the significand -/
def afterInteger (negative : Bool) (significand dropped : Nat) (text : List Char) :
    Except Stop (Number × List Char) :=
  match text with
  | '.' :: rest => fractionPart negative significand dropped rest
  | 'e' :: rest | 'E' :: rest => exponentPart negative significand dropped rest
  | other =>
    if dropped == 0 then .ok (integerNumber negative significand, other) else double negative significand dropped other

/-- a number from behind its sign on -/
def number (negative : Bool) (text : List Char) : Except Stop (Number × List Char) :=
  match text with
  | [] => stopBehind .endInValue []
  | c :: rest =>
    if c == '0' then
      match rest with
      | d :: _ => if d.isDigit then stopAt .badNumber rest else afterInteger negative 0 0 rest
      | [] => afterInteger negative 0 0 []
    else if c.isDigit then
      let digits := text.takeWhile Char.isDigit
      let (significand, count) := absorb 0 digits
      afterInteger negative significand (digits.length - count) (text.dropWhile Char.isDigit)
    else stopAt .badNumber text

/-! ## Strings -/

def hexValue? (c : Char) : Option Nat :=
  if c.isDigit then some (c.toNat - '0'.toNat)
  else if 'a' ≤ c && c ≤ 'f' then some (c.toNat - 'a'.toNat + 10)
  else if 'A' ≤ c && c ≤ 'F' then some (c.toNat - 'A'.toNat + 10)
  else none

def hexUnit? : List Char → Option Nat
  | a :: b :: c :: d :: _ => do
    let a ← hexValue? a
    let b ← hexValue? b
    let c ← hexValue? c
    let d ← hexValue? d
    return ((a * 16 + b) * 16 + c) * 16 + d
  | _ => none

/-- the four digits of an escape by number -/
def hexUnit (text : List Char) : Except Stop Nat :=
  if Utf8.size text < 4 then stopBehind .endInString []
  else
    match hexUnit? text with
    | some n => .ok n
    | none => .error ⟨.badEscape, text, 4⟩

/-- the second half of a character outside the basic plane, behind the first half -/
def lowHalf (high : Nat) (text : List Char) : Except Stop (Char × Nat) :=
  match text with
  | [] => stopBehind .endInString []
  | '\\' :: [] => stopBehind .endInString []
  | '\\' :: 'u' :: rest => do
    let low ← hexUnit rest
    if 0xDC00 ≤ low && low ≤ 0xDFFF then
      return (Char.ofNat (0x10000 + (high - 0xD800) * 0x400 + (low - 0xDC00)), 11)
    else stopBehind .loneSurrogate (rest.drop 4)
  | '\\' :: other => stopAt .unfinishedSurrogate other
  | other => stopAt .unfinishedSurrogate other

/-- what stands behind a backslash: the character meant, and how many characters it takes -/
def escape (text : List Char) : Except Stop (Char × Nat) :=
  match text with
  | [] => stopBehind .endInString []
  | '"' :: _ => .ok ('"', 1)
  | '\\' :: _ => .ok ('\\', 1)
  | '/' :: _ => .ok ('/', 1)
  | 'b' :: _ => .ok (Char.ofNat 0x08, 1)
  | 'f' :: _ => .ok (Char.ofNat 0x0C, 1)
  | 'n' :: _ => .ok ('\n', 1)
  | 'r' :: _ => .ok ('\r', 1)
  | 't' :: _ => .ok ('\t', 1)
  | 'u' :: rest => do
    let n ← hexUnit rest
    if 0xDC00 ≤ n && n ≤ 0xDFFF then stopBehind .loneSurrogate (rest.drop 4)
    else if 0xD800 ≤ n && n ≤ 0xDBFF then lowHalf n (rest.drop 4)
    else return (Char.ofNat n, 5)
  | other => stopAt .badEscape other

/-- a string from behind its opening quote on: `skip` characters of an escape are still to be passed over, and `taken`
holds the characters read so far in reverse -/
def stringFrom (skip : Nat) (taken : List Char) : Reader String
  | [] => stopBehind .endInString []
  | c :: rest =>
    match skip with
    | skip + 1 => stringFrom skip taken rest
    | 0 =>
      if c == '"' then .ok (String.ofList taken.reverse, rest)
      else if c == '\\' then
        match escape rest with
        | .ok (meant, count) => stringFrom count (meant :: taken) rest
        | .error stop => .error stop
      else if c.toNat < 0x20 then stopBehind .controlCharacter rest
      else stringFrom 0 (c :: taken) rest

/-- a string from behind its opening quote on -/
def string (text : List Char) : Except Stop (String × List Char) :=
  stringFrom 0 [] text

/-! ## Values -/

/-- a value that is neither list nor object, none if the text does not begin like one -/
def scalar? (text : List Char) : Option (Except Stop (Value × List Char)) :=
  match text with
  | 'n' :: rest => some ((word "ull".toList rest).map fun (_, after) => (.null, after))
  | 't' :: rest => some ((word "rue".toList rest).map fun (_, after) => (.bool true, after))
  | 'f' :: rest => some ((word "alse".toList rest).map fun (_, after) => (.bool false, after))
  | '-' :: rest => some ((number true rest).map fun (n, after) => (.number n, after))
  | '"' :: rest => some ((string rest).map fun (s, after) => (.string s, after))
  | c :: _ => if c.isDigit then some ((number false text).map fun (n, after) => (.number n, after)) else none
  | [] => none

/-- the items of a list up to its closing bracket; `bound` is at least the number of items that can follow -/
def items (item : Reader Value) : (bound : Nat) → (first : Bool) → Reader (List Value)
  | 0, _, text => stopAt .endInList text
  | bound + 1, first, text =>
    let next (text : List Char) : Except Stop (List Value × List Char) := do
      let (value, after) ← item text
      let (more, after) ← items item bound false after
      return (value :: more, after)
    match skipSpace text with
    | [] => stopAt .endInList []
    | ']' :: rest => .ok ([], rest)
    | c :: rest =>
      if first then next (c :: rest)
      else if c == ',' then
        match skipSpace rest with
        | [] => stopAt .endInValue []
        | ']' :: after => stopAt .trailingComma (']' :: after)
        | after => next after
      else stopAt .expectedCommaOrBracket (c :: rest)

def member (item : Reader Value) (text : List Char) : Except Stop ((String × Value) × List Char) :=
  match text with
  | '"' :: rest => do
    let (name, after) ← string rest
    match skipSpace after with
    | ':' :: after =>
      let (value, after) ← item after
      return ((name, value), after)
    | [] => stopAt .endInObject []
    | other => stopAt .expectedColon other
  | other => stopAt .keyNotString other

/-- the members of an object up to its closing brace, in the order of the text; `bound` is at least the number of
members that can follow -/
def members (item : Reader Value) : (bound : Nat) → (first : Bool) → Reader (List (String × Value))
  | 0, _, text => stopAt .endInObject text
  | bound + 1, first, text =>
    let next (text : List Char) : Except Stop (List (String × Value) × List Char) := do
      let (one, after) ← member item text
      let (more, after) ← members item bound false after
      return (one :: more, after)
    match skipSpace text with
    | [] => stopAt .endInObject []
    | '}' :: rest => .ok ([], rest)
    | c :: rest =>
      if first then next (c :: rest)
      else if c == ',' then
        match skipSpace rest with
        | [] => stopAt .endInValue []
        | '}' :: after => stopAt .trailingComma ('}' :: after)
        | after => next after
      else stopAt .expectedCommaOrBrace (c :: rest)

/-- members as an object holds them: one for each name, where it first appeared, with the value it last had -/
def collect (members : List (String × Value)) : List (String × Value) :=
  members.foldl (fun kept member => insertMember kept member.1 member.2) []

/-- a value inside which `depth` more brackets may be open at once -/
def value (depth : Nat) (text : List Char) : Except Stop (Value × List Char) :=
  match skipSpace text with
  | [] => stopAt .endInValue []
  | '[' :: rest =>
    match depth with
    | 0 => stopAt .tooDeep ('[' :: rest)
    | depth + 1 => (items (value depth) (rest.length + 1) true rest).map fun (items, after) => (.array items, after)
  | '{' :: rest =>
    match depth with
    | 0 => stopAt .tooDeep ('{' :: rest)
    | depth + 1 =>
      (members (value depth) (rest.length + 1) true rest).map fun (members, after) => (.object (collect members), after)
  | other =>
    match scalar? other with
    | some result => result
    | none => stopAt .expectedValue other

/-- how many brackets may be open at once -/
def maxDepth : Nat := 127

/-- an object that is the whole text -/
def wholeObject (text : List Char) : Except Stop (List (String × Value)) :=
  match skipSpace text with
  | [] => stopAt .endInValue []
  | '{' :: rest => do
    let (members, after) ← members (value (maxDepth - 1)) (rest.length + 1) true rest
    match skipSpace after with
    | [] => return collect members
    | other => stopAt .trailingCharacters other
  | '[' :: rest => stopBehind .listAtTop ('[' :: rest)
  | other =>
    match scalar? other with
    | some (.ok (value, after)) => stopBehind (.scalarAtTop value) after
    | some (.error stop) => .error stop
    | none => stopAt .expectedValue other

def readObject (text : String) : Except Fault (List (String × Value)) :=
  match wholeObject text.toList with
  | .ok members => .ok members
  | .error stop => .error (stop.fault text.toList)

end ComponentCompiler.Json
