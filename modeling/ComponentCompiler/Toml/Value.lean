import ComponentCompiler.Decimal.Binary64

/-!
Values of a TOML document, and the scalars among them that are written without quotes: booleans, integers of 64 bits,
floats, and points in time. Numbers that are no integers and points in time are kept as they were written. A table
remembers how it came to be, because that decides whether it may still grow.
-/

namespace ComponentCompiler.Toml

open Decimal

/-- how a table came to be: by a header of its own, by a longer header, by a dotted key, or written in one piece -/
inductive TableKind where
  | header
  | implied
  | dotted
  | closed
  deriving DecidableEq, Repr

inductive Value where
  | string (s : String)
  | integer (n : Int)
  | float (text : String)
  | boolean (b : Bool)
  | moment (text : String)
  | array (items : List Value)
  | table (kind : TableKind) (entries : List (String × Value))
  | tables (items : List (List (String × Value)))
  deriving Repr

abbrev Entries := List (String × Value)

def find? (entries : Entries) (key : String) : Option Value :=
  (entries.find? (·.1 == key)).map (·.2)

/-- the entries with a value for a key, in the stead of the one it had -/
def put (entries : Entries) (key : String) (value : Value) : Entries :=
  entries.filter (·.1 != key) ++ [(key, value)]

/-! ## Scalars

A scalar is read from the whole run of characters that could belong to it. -/

/-- whether a character can belong to a scalar -/
def isScalarChar (c : Char) : Bool :=
  c.isAlphanum || c == '+' || c == '-' || c == '.' || c == '_' || c == ':'

/-- the value of a digit in any base -/
def digitValue? (c : Char) : Option Nat :=
  if c.isDigit then some (c.toNat - '0'.toNat)
  else if 'a' ≤ c && c ≤ 'f' then some (c.toNat - 'a'.toNat + 10)
  else if 'A' ≤ c && c ≤ 'F' then some (c.toNat - 'A'.toNat + 10)
  else none

def isDigitIn (base : Nat) (c : Char) : Bool :=
  match digitValue? c with
  | some n => n < base
  | none => false

/-- whether a text is digits with single low lines between them -/
def areDigits (base : Nat) : List Char → Bool
  | [] => false
  | [c] => isDigitIn base c
  | c :: '_' :: rest => isDigitIn base c && areDigits base rest
  | c :: rest => isDigitIn base c && areDigits base rest

/-- the natural that digits stand for; low lines do not count -/
def naturalOf (base : Nat) (digits : List Char) : Nat :=
  digits.foldl (fun n c => match digitValue? c with | some d => n * base + d | none => n) 0

/-- whether a text is decimal digits without a needless zero at the beginning -/
def areDecimal (digits : List Char) : Bool :=
  areDigits 10 digits && (digits.head? != some '0' || digits.length == 1)

/-- an optional sign: whether it is a minus, and what follows it -/
def sign (text : List Char) : Bool × List Char :=
  match text with
  | '-' :: rest => (true, rest)
  | '+' :: rest => (false, rest)
  | other => (false, other)

def maxInteger : Nat := Nat.pow 2 63 - 1

/-- an integer in a base other than ten -/
def basedInteger? (base : Nat) (digits : List Char) : Option Value :=
  let n := naturalOf base digits
  if areDigits base digits && n ≤ maxInteger then some (.integer n) else none

def integer? (text : List Char) : Option Value :=
  match text with
  | '0' :: 'x' :: digits => basedInteger? 16 digits
  | '0' :: 'o' :: digits => basedInteger? 8 digits
  | '0' :: 'b' :: digits => basedInteger? 2 digits
  | other =>
    let (negative, digits) := sign other
    let n := naturalOf 10 digits
    if areDecimal digits && n ≤ maxInteger + (if negative then 1 else 0) then
      some (.integer (if negative then -(n : Int) else n))
    else none

/-- whether `digits * 10 ^ exponent` is nearest to a finite double -/
def isFinite (digits : Nat) (exponent : Int) : Bool :=
  let first : Int := exponent + (Nat.toDigits 10 digits).length
  if digits == 0 || first < -400 then true
  else if first > 400 then false
  else if 0 ≤ exponent then (Binary64.nearest (digits * Nat.pow 10 exponent.toNat) 1).isSome
  else (Binary64.nearest digits (Nat.pow 10 exponent.natAbs)).isSome

/-- an optional exponent behind the letter e: none if it is malformed -/
def exponent? (text : List Char) : Option Int :=
  match text with
  | [] => some 0
  | e :: rest =>
    let (negative, digits) := sign rest
    let n := naturalOf 10 digits
    if (e == 'e' || e == 'E') && areDigits 10 digits then some (if negative then -(n : Int) else n) else none

def isDigitChar (c : Char) : Bool :=
  c.isDigit || c == '_'

/-- how many digits there are, low lines aside -/
def digitCount (digits : List Char) : Nat :=
  (digits.filter Char.isDigit).length

/-- a decimal float; one that is too great is refused, unless it is negative -/
def decimalFloat? (text : List Char) : Option Value :=
  let (negative, unsigned) := sign text
  let whole := unsigned.takeWhile isDigitChar
  let afterWhole := unsigned.dropWhile isDigitChar
  let (fraction, afterFraction) :=
    match afterWhole with
    | '.' :: rest => (some (rest.takeWhile isDigitChar), rest.dropWhile isDigitChar)
    | other => (none, other)
  let digits := fraction.getD []
  match exponent? afterFraction with
  | none => none
  | some e =>
    let wellFormed := areDecimal whole && (fraction.isNone || areDigits 10 digits) && !afterWhole.isEmpty
    if wellFormed && (negative || isFinite (naturalOf 10 (whole ++ digits)) (e - digitCount digits)) then
      some (.float (String.ofList text))
    else none

def float? (text : List Char) : Option Value :=
  let (_, unsigned) := sign text
  if unsigned == "inf".toList || unsigned == "nan".toList then some (.float (String.ofList text))
  else decimalFloat? text

/-! ## Points in time -/

/-- a number of two digits within bounds -/
def isTwoDigits (low high : Nat) (text : List Char) : Bool :=
  let n := naturalOf 10 text
  text.length == 2 && text.all Char.isDigit && low ≤ n && n ≤ high

def daysIn (year month : Nat) : Nat :=
  if month == 2 then (if year % 4 == 0 && (year % 100 != 0 || year % 400 == 0) then 29 else 28)
  else if month == 4 || month == 6 || month == 9 || month == 11 then 30
  else 31

/-- a date, of ten characters -/
def isDate (text : List Char) : Bool :=
  let year := text.take 4
  let month := (text.drop 5).take 2
  let day := (text.drop 8).take 2
  text.length == 10 && year.all Char.isDigit && text[4]? == some '-' && text[7]? == some '-' &&
    isTwoDigits 1 12 month && isTwoDigits 1 (daysIn (naturalOf 10 year) (naturalOf 10 month)) day

/-- a fraction of a second, or nothing -/
def isSecondFraction (text : List Char) : Bool :=
  match text with
  | [] => true
  | '.' :: digits => !digits.isEmpty && digits.all Char.isDigit
  | _ => false

def isTime (text : List Char) : Bool :=
  isTwoDigits 0 23 (text.take 2) && text[2]? == some ':' && isTwoDigits 0 59 ((text.drop 3).take 2) &&
    text[5]? == some ':' && isTwoDigits 0 60 ((text.drop 6).take 2) && isSecondFraction (text.drop 8)

/-- a distance from universal time, of six characters -/
def isOffset (text : List Char) : Bool :=
  text.length == 6 && (text[0]? == some '+' || text[0]? == some '-') && isTwoDigits 0 23 ((text.drop 1).take 2) &&
    text[3]? == some ':' && isTwoDigits 0 59 (text.drop 4)

/-- a time of day with or without a distance from universal time -/
def isZonedTime (text : List Char) : Bool :=
  isTime text ||
    ((text.getLast? == some 'Z' || text.getLast? == some 'z') && isTime text.dropLast) ||
    (isOffset (text.drop (text.length - 6)) && isTime (text.take (text.length - 6)))

/-- a date and a time joined by a letter -/
def isDateTime (text : List Char) : Bool :=
  isDate (text.take 10) && (text[10]? == some 'T' || text[10]? == some 't') && isZonedTime (text.drop 11)

/-- a scalar written without quotes -/
def scalar? (text : List Char) : Option Value :=
  if text == "true".toList then some (.boolean true)
  else if text == "false".toList then some (.boolean false)
  else if isDate text || isTime text || isDateTime text then some (.moment (String.ofList text))
  else
    match integer? text with
    | some value => some value
    | none => float? text

end ComponentCompiler.Toml
