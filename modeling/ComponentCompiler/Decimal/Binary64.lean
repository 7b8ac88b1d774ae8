/-!
Double precision numbers in exact arithmetic. A magnitude is a mantissa times a power of two; products and quotients are
computed exactly and then brought to the nearest double, a half going to the even neighbour.
-/

namespace ComponentCompiler.Decimal

/-- the magnitude `mantissa * 2 ^ exponent` of a finite double -/
structure Binary64 where
  mantissa : Nat
  exponent : Int
  deriving DecidableEq, Repr

/-- a quotient of naturals brought to an integer, a half going to the even neighbour -/
def roundDiv (num den : Nat) : Nat :=
  let q := num / den
  let r := num % den
  if 2 * r > den || (2 * r == den && q % 2 == 1) then q + 1 else q

namespace Binary64

/-- the least exponent of a double -/
def minExponent : Int := -1074

/-- the greatest exponent of a finite double -/
def maxExponent : Int := 971

/-- how many bits a mantissa has at most -/
def precision : Nat := 53

def zero : Binary64 := ⟨0, minExponent⟩

def isZero (x : Binary64) : Bool :=
  x.mantissa == 0

/-- `num / den` times `2 ^ -e`, as a fraction -/
def shifted (num den : Nat) (e : Int) : Nat × Nat :=
  if 0 ≤ e then (num, den * Nat.pow 2 e.toNat) else (num * Nat.pow 2 (-e).toNat, den)

/-- the greatest `k` with `2 ^ k ≤ num / den`, for positive `num` and `den` -/
def floorLog2 (num den : Nat) : Int :=
  let guess : Int := (num.log2 : Int) - (den.log2 : Int)
  let (n, d) := shifted num den guess
  if d ≤ n then guess else guess - 1

/-- the double nearest to `num / den`; none if it would be infinite -/
def nearest (num den : Nat) : Option Binary64 :=
  if num == 0 then some zero
  else
    let e := max (floorLog2 num den - 52) minExponent
    let (n, d) := shifted num den e
    let m := roundDiv n d
    let x : Binary64 := if m == Nat.pow 2 precision then ⟨Nat.pow 2 52, e + 1⟩ else ⟨m, e⟩
    if x.exponent > maxExponent then none else some x

/-- the magnitude as a fraction -/
def ratio (x : Binary64) : Nat × Nat :=
  if 0 ≤ x.exponent then (x.mantissa * Nat.pow 2 x.exponent.toNat, 1) else (x.mantissa, Nat.pow 2 (-x.exponent).toNat)

/-- the product; none if it would be infinite -/
def mul (x y : Binary64) : Option Binary64 :=
  nearest (x.ratio.1 * y.ratio.1) (x.ratio.2 * y.ratio.2)

/-- the quotient, for a divisor that is not zero; none if it would be infinite -/
def div (x y : Binary64) : Option Binary64 :=
  nearest (x.ratio.1 * y.ratio.2) (x.ratio.2 * y.ratio.1)

/-- the greatest power of ten that is a double -/
def maxPower : Nat := 308

def powerOfTen (n : Nat) : Binary64 :=
  (nearest (Nat.pow 10 n) 1).getD zero

/-- `x` times a power of ten that may be too low for a double: `rounds` divisions by the greatest power of ten are
allowed before the last one -/
def scaleWithin : Nat → Binary64 → Int → Option Binary64
  | 0, x, _ => some x
  | rounds + 1, x, e =>
    if e.natAbs ≤ maxPower then
      if 0 ≤ e then x.mul (powerOfTen e.toNat) else x.div (powerOfTen e.natAbs)
    else if x.isZero then some x
    else if 0 ≤ e then none
    else
      match x.div (powerOfTen maxPower) with
      | some y => scaleWithin rounds y (e + maxPower)
      | none => none

/-- `x` times a power of ten, by one multiplication or division where that power is a double, and by dividing by the
greatest such power first where the exponent is too low; none if the result is out of range -/
def scale (x : Binary64) (e : Int) : Option Binary64 :=
  scaleWithin (e.natAbs / maxPower + 1) x e

end Binary64

end ComponentCompiler.Decimal
