import ComponentCompiler.Decimal.Binary64

/-!
The fewest decimal digits that read back as a double, and of those the nearest to it. The numbers that read back as a
double form an interval around it, with its ends exactly when the mantissa is even; on each decimal grid only the two
neighbours of the double have to be tried.
-/

namespace ComponentCompiler.Decimal

/-- the decimal number `digits * 10 ^ exponent` -/
structure Digits where
  digits : Nat
  exponent : Int
  deriving DecidableEq, Repr

structure Fraction where
  num : Nat
  den : Nat
  deriving DecidableEq, Repr

/-- a natural times a power of ten -/
def Digits.fraction (d : Digits) : Fraction :=
  if 0 ≤ d.exponent then ⟨d.digits * Nat.pow 10 d.exponent.toNat, 1⟩ else ⟨d.digits, Nat.pow 10 (-d.exponent).toNat⟩

def Fraction.le (a b : Fraction) : Bool :=
  a.num * b.den ≤ b.num * a.den

def Fraction.lt (a b : Fraction) : Bool :=
  a.num * b.den < b.num * a.den

def Fraction.distance (a b : Fraction) : Fraction :=
  ⟨if b.lt a then a.num * b.den - b.num * a.den else b.num * a.den - a.num * b.den, a.den * b.den⟩

def valueOf (x : Binary64) : Fraction :=
  ⟨x.ratio.1, x.ratio.2⟩

/-- the lower end of the interval that reads back: half a step down, a quarter below a power of two -/
def lowerEnd (x : Binary64) : Fraction :=
  let (n, d) := (Binary64.mk 1 x.exponent).ratio
  if x.mantissa == Nat.pow 2 52 && x.exponent > Binary64.minExponent then ⟨(4 * x.mantissa - 1) * n, 4 * d⟩
  else ⟨(2 * x.mantissa - 1) * n, 2 * d⟩

/-- the upper end of the interval that reads back: half a step up -/
def upperEnd (x : Binary64) : Fraction :=
  let (n, d) := (Binary64.mk 1 x.exponent).ratio
  ⟨(2 * x.mantissa + 1) * n, 2 * d⟩

/-- whether a decimal number reads back as the double -/
def readsBack (x : Binary64) (d : Digits) : Bool :=
  let f := d.fraction
  if x.mantissa % 2 == 0 then (lowerEnd x).le f && f.le (upperEnd x) else (lowerEnd x).lt f && f.lt (upperEnd x)

def digitCount (n : Nat) : Nat :=
  (Nat.toDigits 10 n).length

/-- the least `j` from `start` on, within `bound` steps, with `1 ≤ f * 10 ^ j` -/
def firstScale (f : Fraction) : Nat → Nat → Nat
  | 0, start => start
  | bound + 1, start => if f.den ≤ f.num * Nat.pow 10 start then start else firstScale f bound (start + 1)

/-- the power of ten at the first digit of a positive fraction that is a double -/
def leadingExponent (f : Fraction) : Int :=
  if f.den ≤ f.num then (digitCount (f.num / f.den) : Int) - 1 else -(firstScale f 330 1 : Int)

/-- the grid point below a fraction -/
def floorOn (f : Fraction) (exponent : Int) : Digits :=
  let n :=
    if 0 ≤ exponent then f.num / (f.den * Nat.pow 10 exponent.toNat)
    else f.num * Nat.pow 10 (-exponent).toNat / f.den
  ⟨n, exponent⟩

/-- of two decimal numbers the one that is nearer to a fraction, the one with even digits if they are equally near -/
def nearerOf (f : Fraction) (a b : Digits) : Digits :=
  let toA := f.distance a.fraction
  let toB := f.distance b.fraction
  if toA.lt toB then a
  else if toB.lt toA then b
  else if a.digits % 2 == 0 then a else b

/-- the number with `count` digits that reads back and is nearest to the double, if there is one -/
def withDigits (x : Binary64) (count : Nat) : Option Digits :=
  let value := valueOf x
  let below := floorOn value (leadingExponent value - count + 1)
  let above : Digits := ⟨below.digits + 1, below.exponent⟩
  match readsBack x below, readsBack x above with
  | true, true => some (nearerOf value below above)
  | true, false => some below
  | false, true => some above
  | false, false => none

/-- without the zeros at the end, of which at most `bound` are dropped -/
def dropZeros : Nat → Digits → Digits
  | 0, d => d
  | bound + 1, d => if d.digits % 10 == 0 && d.digits != 0 then dropZeros bound ⟨d.digits / 10, d.exponent + 1⟩ else d

/-- the fewest digits that read back as a positive double, and of those the nearest to it -/
def shortest (x : Binary64) : Digits :=
  match (List.range 17).findSome? fun n => withDigits x (n + 1) with
  | some d => dropZeros 17 d
  | none => ⟨0, 0⟩

end ComponentCompiler.Decimal
