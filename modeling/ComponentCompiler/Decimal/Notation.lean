import ComponentCompiler.Decimal.Shortest

/-!
Decimal notation. A format says up to which powers of ten a number is written out; outside them it is written with one
digit before the point and an exponent.
-/

namespace ComponentCompiler.Decimal

structure NumberFormat where
  /-- the least power of ten at the first digit that is written out -/
  least : Int
  /-- the greatest power of ten at the first digit that is written out -/
  greatest : Int
  deriving DecidableEq, Repr

def digitsOf (n : Nat) : String :=
  String.ofList (Nat.toDigits 10 n)

def zeros (count : Nat) : String :=
  String.ofList (List.replicate count '0')

/-- digits written out, with at least one digit on each side of the point; `first` is the power of ten at the first -/
def plain (digits : String) (first : Int) : String :=
  if first < 0 then "0." ++ zeros (first.natAbs - 1) ++ digits
  else
    let whole := first.toNat + 1
    if digits.length ≤ whole then digits ++ zeros (whole - digits.length) ++ ".0"
    else String.ofList (digits.toList.take whole) ++ "." ++ String.ofList (digits.toList.drop whole)

/-- digits with one digit before the point and an exponent with its sign -/
def scientific (digits : String) (first : Int) : String :=
  let head := String.ofList (digits.toList.take 1)
  let tail := String.ofList (digits.toList.drop 1)
  let point := if tail.isEmpty then "" else "."
  head ++ point ++ tail ++ "e" ++ (if first < 0 then "-" else "+") ++ digitsOf first.natAbs

def NumberFormat.write (format : NumberFormat) (x : Binary64) : String :=
  if x.isZero then "0.0"
  else
    let d := shortest x
    let digits := digitsOf d.digits
    let first : Int := d.exponent + digits.length - 1
    if format.least ≤ first && first ≤ format.greatest then plain digits first else scientific digits first

end ComponentCompiler.Decimal
