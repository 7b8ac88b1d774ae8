/-!
Plain operations on texts.

Character classes are tables of code point ranges. The tables of this folder list only what lies above ASCII; each class
decides the ASCII characters itself, so that facts about ASCII text never look into a table. A blank is a character with
the Unicode property White_Space; the zero width blank U+200B and the byte order mark U+FEFF are not blanks. Occurrences
of one text inside another are taken from left to right, they do not overlap, and what is put in is not looked at again.
-/

namespace ComponentCompiler.Text

/-- whether a code point lies in one of the closed ranges -/
def inRanges (ranges : List (Nat × Nat)) (n : Nat) : Bool :=
  ranges.any fun range => range.1 ≤ n && n ≤ range.2

/-! ## White space -/

def isBlank (c : Char) : Bool :=
  let n := c.toNat
  n == 0x20 || (0x09 ≤ n && n ≤ 0x0D) || n == 0x85 || n == 0xA0 || n == 0x1680 || (0x2000 ≤ n && n ≤ 0x200A) ||
    n == 0x2028 || n == 0x2029 || n == 0x202F || n == 0x205F || n == 0x3000

/-- the text without the blanks at its two ends -/
def trim (text : List Char) : List Char :=
  ((text.dropWhile isBlank).reverse.dropWhile isBlank).reverse

def trimmed (s : String) : String :=
  String.ofList (trim s.toList)

/-! ## Occurrences -/

def occursIn (pattern : List Char) : List Char → Bool
  | [] => pattern.isEmpty
  | c :: rest => pattern.isPrefixOf (c :: rest) || occursIn pattern rest

/-- replacement in progress: `skip` more characters of the occurrence just replaced are passed over -/
def replaceFrom (old new : List Char) : Nat → List Char → List Char
  | _, [] => []
  | skip + 1, _ :: rest => replaceFrom old new skip rest
  | 0, c :: rest =>
    if old.isPrefixOf (c :: rest) then new ++ replaceFrom old new (old.length - 1) rest
    else c :: replaceFrom old new 0 rest

/-- the text with `new` for every occurrence of the non-empty text `old` -/
def replaceAll (old new text : List Char) : List Char :=
  replaceFrom old new 0 text

/-- `replaceAll` on strings -/
def replaced (old new s : String) : String :=
  String.ofList (replaceAll old.toList new.toList s.toList)

/-- `occursIn` on strings -/
def mentions (s pattern : String) : Bool :=
  occursIn pattern.toList s.toList

/-! ## Text of a fixed width

The width counts characters, and a text that is already wide enough stays as it is. -/

def padRight (width : Nat) (s : String) : String :=
  s ++ String.ofList (List.replicate (width - s.length) ' ')

/-- the string in the middle of a line of `fill`; the odd one out goes to the right -/
def centre (fill : Char) (width : Nat) (s : String) : String :=
  let room := width - s.length
  String.ofList (List.replicate (room / 2) fill) ++ s ++ String.ofList (List.replicate (room - room / 2) fill)

end ComponentCompiler.Text
