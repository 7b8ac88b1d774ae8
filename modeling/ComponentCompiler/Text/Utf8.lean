/-!
UTF-8. One reader takes octets one at a time and answers, in order, the characters read and a gap for every longest run
of octets that starts like a character and does not end like one. Strict decoding refuses a gap, lenient decoding puts
the replacement character there.
-/

namespace ComponentCompiler.Text.Utf8

/-- a character of which the first octets are read: how many are still due, the value so far, and the octets that may
come next -/
structure Pending where
  due : Nat
  value : Nat
  low : Nat
  high : Nat
  deriving DecidableEq, Repr

/-- what an octet begins -/
inductive Lead where
  | whole (c : Char)
  | part (p : Pending)
  | none
  deriving DecidableEq, Repr

/-- what an octet begins: overlong forms, surrogates and values above 10FFFF are excluded by the second octet -/
def lead (octet : UInt8) : Lead :=
  let n := octet.toNat
  if n < 0x80 then .whole (Char.ofNat n)
  else if 0xC2 ≤ n && n ≤ 0xDF then .part ⟨1, n - 0xC0, 0x80, 0xBF⟩
  else if n == 0xE0 then .part ⟨2, 0, 0xA0, 0xBF⟩
  else if n == 0xED then .part ⟨2, n - 0xE0, 0x80, 0x9F⟩
  else if 0xE1 ≤ n && n ≤ 0xEF then .part ⟨2, n - 0xE0, 0x80, 0xBF⟩
  else if n == 0xF0 then .part ⟨3, 0, 0x90, 0xBF⟩
  else if 0xF1 ≤ n && n ≤ 0xF3 then .part ⟨3, n - 0xF0, 0x80, 0xBF⟩
  else if n == 0xF4 then .part ⟨3, n - 0xF0, 0x80, 0x8F⟩
  else .none

/-- what comes out for an octet with nothing pending, and what is then pending -/
def start (octet : UInt8) : List (Option Char) × Option Pending :=
  match lead octet with
  | .whole c => ([some c], none)
  | .part p => ([], some p)
  | .none => ([none], none)

/-- one octet: what comes out and what is then pending -/
def step (state : Option Pending) (octet : UInt8) : List (Option Char) × Option Pending :=
  match state with
  | none => start octet
  | some p =>
    if p.low ≤ octet.toNat && octet.toNat ≤ p.high then
      let value := p.value * 64 + (octet.toNat - 0x80)
      if p.due ≤ 1 then ([some (Char.ofNat value)], none) else ([], some ⟨p.due - 1, value, 0x80, 0xBF⟩)
    else
      let (out, next) := start octet
      (none :: out, next)

/-- the characters of an octet list, `none` for each gap -/
def readFrom (state : Option Pending) : List UInt8 → List (Option Char)
  | [] => if state.isSome then [none] else []
  | octet :: rest => (step state octet).1 ++ readFrom (step state octet).2 rest

def decode? (octets : List UInt8) : Option String :=
  ((readFrom none octets).mapM id).map String.ofList

/-- lenient decoding: a gap becomes U+FFFD -/
def decodeLossy (octets : List UInt8) : String :=
  String.ofList ((readFrom none octets).map fun c => c.getD (Char.ofNat 0xFFFD))

def encode (s : String) : List UInt8 :=
  s.toList.flatMap String.utf8EncodeChar

/-- how many octets a text takes -/
def size (text : List Char) : Nat :=
  text.foldl (fun octets c => octets + c.utf8Size) 0

end ComponentCompiler.Text.Utf8
