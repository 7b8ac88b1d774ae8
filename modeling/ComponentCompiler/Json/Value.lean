import ComponentCompiler.Decimal.Notation

/-!
JSON values and their compact text. Integers of 64 bits stay integers, other numbers are doubles. An object keeps its
members in the order in which their names first appeared.
-/

namespace ComponentCompiler.Json

open Decimal

/-- a number: an integer of 64 bits, or a double by sign and magnitude -/
inductive Number where
  | integer (n : Int)
  | double (negative : Bool) (magnitude : Binary64)
  deriving DecidableEq, Repr

inductive Value where
  | null
  | bool (b : Bool)
  | number (n : Number)
  | string (s : String)
  | array (items : List Value)
  | object (members : List (String × Value))
  deriving Repr

/-- doubles are written out from 0.00001 to below 10000000000000000 -/
def numberFormat : NumberFormat := ⟨-5, 15⟩

def Number.text : Number → String
  | .integer n => if n < 0 then "-" ++ digitsOf n.natAbs else digitsOf n.natAbs
  | .double negative magnitude => (if negative then "-" else "") ++ numberFormat.write magnitude

def hexPair (n : Nat) : List Char :=
  [Nat.digitChar (n / 16), Nat.digitChar (n % 16)]

/-- one character of a string's text; only quotes, backslashes and control characters are escaped -/
def escapeChar (c : Char) : List Char :=
  if c == '"' then ['\\', '"']
  else if c == '\\' then ['\\', '\\']
  else if c == '\n' then ['\\', 'n']
  else if c == '\r' then ['\\', 'r']
  else if c == '\t' then ['\\', 't']
  else if c.toNat == 0x08 then ['\\', 'b']
  else if c.toNat == 0x0C then ['\\', 'f']
  else if c.toNat < 0x20 then ['\\', 'u', '0', '0'] ++ hexPair c.toNat
  else [c]

def stringText (s : String) : String :=
  String.ofList ('"' :: s.toList.flatMap escapeChar ++ ['"'])

mutual

/-- the compact text of a value -/
def Value.text : Value → String
  | .null => "null"
  | .bool b => if b then "true" else "false"
  | .number n => n.text
  | .string s => stringText s
  | .array items => "[" ++ ",".intercalate (itemTexts items) ++ "]"
  | .object members => "\x7b" ++ ",".intercalate (memberTexts members) ++ "\x7d"

def itemTexts : List Value → List String
  | [] => []
  | item :: rest => item.text :: itemTexts rest

def memberTexts : List (String × Value) → List String
  | [] => []
  | (name, value) :: rest => (stringText name ++ ":" ++ value.text) :: memberTexts rest

end

/-- the members with one more: a name that is there already keeps its place and takes the new value -/
def insertMember (members : List (String × Value)) (name : String) (value : Value) : List (String × Value) :=
  if members.any (·.1 == name) then members.map fun member => if member.1 == name then (name, value) else member
  else members ++ [(name, value)]

end ComponentCompiler.Json
