import ComponentCompiler.Json.Value
import ComponentCompiler.Text.Quoted
import ComponentCompiler.Text.Utf8

/-!
Why a text is no JSON object, and where. A reader stops with a cause at some point of the text; the point is told as a
line and a column, both in octets: a column is the number of octets since the last line break.
-/

namespace ComponentCompiler.Json

open Text

/-- why reading stopped -/
inductive Cause where
  | endInValue
  | endInObject
  | endInList
  | endInString
  | expectedValue
  | expectedWord
  | expectedColon
  | expectedCommaOrBrace
  | expectedCommaOrBracket
  | keyNotString
  | trailingComma
  | trailingCharacters
  | tooDeep
  | badNumber
  | numberOutOfRange
  | controlCharacter
  | badEscape
  | loneSurrogate
  | unfinishedSurrogate
  | listAtTop
  | scalarAtTop (value : Value)
  deriving Repr

/-- what a value that is no object is called -/
def Value.describe : Value → String
  | .null => "null"
  | .bool b => "boolean `" ++ (Value.bool b).text ++ "`"
  | .number (.integer n) => "integer `" ++ (Number.integer n).text ++ "`"
  | .number n => "floating point `" ++ n.text ++ "`"
  | .string s => "string " ++ quoted s
  | .array _ => "sequence"
  | .object _ => "map"

def notAnObject (found : String) : String :=
  "invalid type: " ++ found ++ ", expected a map"

def Cause.message : Cause → String
  | .endInValue => "EOF while parsing a value"
  | .endInObject => "EOF while parsing an object"
  | .endInList => "EOF while parsing a list"
  | .endInString => "EOF while parsing a string"
  | .expectedValue => "expected value"
  | .expectedWord => "expected ident"
  | .expectedColon => "expected `:`"
  | .expectedCommaOrBrace => "expected `,` or `\x7d`"
  | .expectedCommaOrBracket => "expected `,` or `]`"
  | .keyNotString => "key must be a string"
  | .trailingComma => "trailing comma"
  | .trailingCharacters => "trailing characters"
  | .tooDeep => "recursion limit exceeded"
  | .badNumber => "invalid number"
  | .numberOutOfRange => "number out of range"
  | .controlCharacter => "control character (\\u0000-\\u001F) found while parsing a string"
  | .badEscape => "invalid escape"
  | .loneSurrogate => "lone leading surrogate in hex escape"
  | .unfinishedSurrogate => "unexpected end of hex escape"
  | .listAtTop => notAnObject "sequence"
  | .scalarAtTop value => notAnObject value.describe

/-- where reading stopped: `ahead` octets into the rest of the text -/
structure Stop where
  cause : Cause
  rest : List Char
  ahead : Nat
  deriving Repr

/-- a cause and its place in the text -/
structure Fault where
  cause : Cause
  line : Nat
  column : Nat
  deriving Repr

def Fault.message (f : Fault) : String :=
  f.cause.message ++ " at line " ++ toString f.line ++ " column " ++ toString f.column

def lineBreak : UInt8 := 0x0A

/-- line and column of the point after some octets -/
def position (before : List UInt8) : Nat × Nat :=
  (before.count lineBreak + 1, (before.reverse.takeWhile (· != lineBreak)).length)

/-- a stop as a fault of the whole text -/
def Stop.fault (text : List Char) (stop : Stop) : Fault :=
  let octets := text.flatMap String.utf8EncodeChar
  let offset := octets.length - Utf8.size stop.rest + stop.ahead
  let (line, column) := position (octets.take offset)
  ⟨stop.cause, line, column⟩

end ComponentCompiler.Json
