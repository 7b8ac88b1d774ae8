/-!
Log entries: what a run reports while it goes on.

Entries are printed on a terminal, so their texts, which hold names that a user chose, are printed in a form that cannot
steer it. The characters with which a text could (the bell, the backspace, the form feed, the escape, the delete, and
the controls from U+0080 to U+009F) are written by their numbers; tabs, line breaks and the other controls stay as they
are.
-/

namespace ComponentCompiler

namespace Text

/-- the ASCII controls that steer a terminal -/
def steersAscii (c : Char) : Bool :=
  [0x07, 0x08, 0x0C, 0x1B, 0x7F].contains c.toNat

/-- the controls above ASCII, all of which steer a terminal -/
def steersAbove (c : Char) : Bool :=
  0x80 ≤ c.toNat && c.toNat ≤ 0x9F

/-- one character of a text that a terminal only shows: two hexadecimal digits for an ASCII control, as many as it takes
between braces for a control above ASCII -/
def safeChar (c : Char) : List Char :=
  if steersAscii c then ['\\', 'x', Nat.digitChar (c.toNat / 16), Nat.digitChar (c.toNat % 16)]
  else if steersAbove c then ['\\', 'u', '{'] ++ Nat.toDigits 16 c.toNat ++ ['}']
  else [c]

/-- the string as a terminal only shows it -/
def terminalSafe (s : String) : String :=
  String.ofList (s.toList.flatMap safeChar)

end Text

/-- how much an entry matters -/
inductive Level where
  | debug
  | info
  | error
  deriving DecidableEq, Repr

structure LogEntry where
  level : Level
  text : String
  deriving DecidableEq, Repr

def Level.label : Level → String
  | .debug => "DEBUG"
  | .info => "INFO"
  | .error => "ERROR"

def LogEntry.line (entry : LogEntry) : String :=
  entry.level.label ++ " " ++ Text.terminalSafe entry.text

end ComponentCompiler
