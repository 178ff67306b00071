import SurveyCube.Bytes

/-!
# Double precision numbers

A double is kept as its 64 bits.  All arithmetic on it goes through exact
natural numbers and one rounding function, `nearest`, so that it can be
evaluated and reasoned about without a floating point unit.

The *magnitude* of a double is its bit pattern without the sign.  A magnitude
below `infinite` denotes `significand * 2 ^ exponent`.
-/

namespace SurveyCube

structure Binary64 where
  bits : UInt64
  deriving DecidableEq, Repr

namespace Binary64

/-- The magnitude of the infinities; larger ones belong to no number. -/
def infinite : Nat :=
  2047 * 2 ^ 52

/-- The number is below zero, or is the negative zero. -/
def isNegative (x : Binary64) : Bool :=
  2 ^ 63 ≤ x.bits.toNat

def magnitude (x : Binary64) : Nat :=
  x.bits.toNat % 2 ^ 63

def isFinite (x : Binary64) : Bool :=
  x.magnitude < infinite

def ofMagnitude (negative : Bool) (magnitude : Nat) : Binary64 :=
  ⟨UInt64.ofNat (if negative then 2 ^ 63 + magnitude else magnitude)⟩

def significand (magnitude : Nat) : Nat :=
  if magnitude < 2 ^ 52 then magnitude else magnitude % 2 ^ 52 + 2 ^ 52

def exponent (magnitude : Nat) : Int :=
  if magnitude < 2 ^ 52 then -1074 else ((magnitude / 2 ^ 52 : Nat) : Int) - 1075

/-- The numerator and denominator of `m * 2 ^ q`. -/
def ratio (m : Nat) (q : Int) : Nat × Nat :=
  if 0 ≤ q then (m * 2 ^ q.toNat, 1) else (m, 2 ^ (-q).toNat)

/-- The quotient to the nearest integer, a half going to the even neighbour. -/
def roundDiv (num den : Nat) : Nat :=
  let quotient := num / den
  let remainder := num % den
  if den < 2 * remainder ∨ den = 2 * remainder ∧ quotient % 2 = 1 then
    quotient + 1
  else
    quotient

/-- The magnitude nearest to a positive quotient, a half going to the even
significand.  It reaches `infinite` if the quotient is too large. -/
def nearest (num den : Nat) : Nat :=
  if num = 0 then 0 else
    let guess : Int := (Nat.log2 num : Int) - Nat.log2 den
    let (p, q) := ratio den guess
    let floorLog := if p ≤ num * q then guess else guess - 1
    let scale := max (floorLog - 52) (-1074)
    let (below, above) := ratio 1 scale
    (scale + 1074).toNat * 2 ^ 52 + roundDiv (num * above) (den * below)

def ofNat (n : Nat) : Nat :=
  nearest n 1

/-- The product with another magnitude, rounded. -/
def mul (a b : Nat) : Nat :=
  let (num, den) := ratio (significand a * significand b) (exponent a + exponent b)
  nearest num den

/-- The quotient by another magnitude, rounded. -/
def div (a b : Nat) : Nat :=
  let (num, den) := ratio (significand a) (exponent a - exponent b)
  nearest num (den * significand b)

/-- The double equal to a single precision number given by its bits. -/
def ofSingle (bits : Nat) : Binary64 :=
  let negative : Bool := 2 ^ 31 ≤ bits
  let magnitude := bits % 2 ^ 31
  let field : Nat := magnitude / 2 ^ 23
  let fraction : Nat := magnitude % 2 ^ 23
  if field = 255 then
    ofMagnitude negative (infinite + fraction * 2 ^ 29)
  else
    let (num, den) :=
      if field = 0 then ratio fraction (-149) else ratio (fraction + 2 ^ 23) ((field : Int) - 150)
    ofMagnitude negative (nearest num den)

end Binary64

end SurveyCube
