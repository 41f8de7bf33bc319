import FrameWatch.Decimal.Written

/-!
# Reading decimal numbers

The double nearest to a decimal number.
-/

namespace FrameWatch.Decimal

/-- The double nearest to `digits * 10^exponent`. No double but zero is below `10^(-400)`, and none
but infinity is above `10^400`. -/
def nearest (negative : Bool) (digits : Nat) (exponent : Int) : Float :=
  let order := ((Nat.toDigits 10 digits).length : Int) + exponent
  let magnitude : Float :=
    if digits = 0 ∨ order < -400 then 0.0
    else if 400 < order then 1.0 / 0.0
    else if 0 ≤ exponent then Float.ofScientific digits false exponent.toNat
    else Float.ofScientific digits true (-exponent).toNat
  if negative then -magnitude else magnitude

/-- Whether `x` is greater than every number. -/
def isPositiveInfinity (x : Float) : Bool := Double.ofFloat x = .infinite false

end FrameWatch.Decimal
