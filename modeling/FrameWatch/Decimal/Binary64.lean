import FrameWatch.Power

/-!
# Double-precision numbers as exact values

A finite double is `(-1)^sign * mantissa * 2^exponent`. Its magnitude and the bounds of the reals
that round to it are fractions of natural numbers, so that decimal digits can be found exactly.
-/

namespace FrameWatch.Decimal

/-- A nonnegative fraction; the denominator is positive wherever one is built here. -/
structure Ratio where
  numerator : Nat
  denominator : Nat
deriving DecidableEq, Repr

/-- The magnitude of a finite double. -/
structure Binary where
  mantissa : Nat
  exponent : Int
deriving DecidableEq, Repr

/-- What a double stands for. -/
inductive Double
  | nan
  | infinite (negative : Bool)
  | finite (negative : Bool) (magnitude : Binary)
deriving DecidableEq, Repr

/-- The value of the bit pattern `bits`: a sign bit, eleven of the exponent, 52 of the fraction. -/
def Double.ofBits (bits : Nat) : Double :=
  let negative := bits / 2 ^ 63 % 2 == 1
  let biased : Nat := bits / 2 ^ 52 % 2 ^ 11
  let fraction := bits % 2 ^ 52
  if biased = 2047 then if fraction = 0 then .infinite negative else .nan
  else if biased = 0 then .finite negative ⟨fraction, -1074⟩
  else .finite negative ⟨2 ^ 52 + fraction, (biased : Int) - 1075⟩

/-- The value of `x`. -/
def Double.ofFloat (x : Float) : Double := .ofBits x.toBits.toNat

namespace Binary

/-- `k * 2^exponent / 4` as a fraction. -/
def quarters (b : Binary) (k : Nat) : Ratio :=
  if 2 ≤ b.exponent then ⟨k * 2 ^ (b.exponent - 2).toNat, 1⟩
  else ⟨k, 2 ^ (2 - b.exponent).toNat⟩

/-- The exact value. -/
def value (b : Binary) : Ratio := b.quarters (4 * b.mantissa)

/-- Halfway to the next smaller double, which is nearer below a power of two. -/
def lower (b : Binary) : Ratio :=
  b.quarters (4 * b.mantissa - if b.mantissa = 2 ^ 52 ∧ -1074 < b.exponent then 1 else 2)

/-- Halfway to the next greater double. -/
def upper (b : Binary) : Ratio := b.quarters (4 * b.mantissa + 2)

end Binary

namespace Ratio

/-- Whether the first fraction is less than the second. -/
def less (a b : Ratio) : Bool := a.numerator * b.denominator < b.numerator * a.denominator

/-- `r * 10^k`. -/
def shift (r : Ratio) (k : Int) : Ratio :=
  if 0 ≤ k then ⟨r.numerator * 10 ^ k.toNat, r.denominator⟩
  else ⟨r.numerator, r.denominator * 10 ^ (-k).toNat⟩

/-- The nearest whole number; halfway between two, the even one. -/
def round (r : Ratio) : Nat :=
  let quotient := r.numerator / r.denominator
  let twice := 2 * (r.numerator % r.denominator)
  if twice < r.denominator then quotient
  else if twice = r.denominator then quotient + quotient % 2
  else quotient + 1

end Ratio

end FrameWatch.Decimal
