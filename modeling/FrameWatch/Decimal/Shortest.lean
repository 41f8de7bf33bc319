import FrameWatch.Decimal.Binary64

/-!
# Shortest decimal form

The fewest digits that read back as the same double, and of those the nearest to it. For each count
of digits the two neighbours of the value on the grid of that many digits are tested; the first grid
with a hit wins.
-/

namespace FrameWatch.Decimal

/-- The decimal number `digits * 10^exponent`. -/
structure Scientific where
  digits : Nat
  exponent : Int
deriving DecidableEq, Repr

/-- The position of the point behind the first digit of `r`: `10^(p-1) ≤ r < 10^p`. The least
positive double is above `10^(-324)`. -/
def magnitude (r : Ratio) : Int :=
  ((Nat.toDigits 10 (r.numerator * 10 ^ 330 / r.denominator)).length : Int) - 330

namespace Binary

/-- Whether `s` reads back as `b`; a number halfway between two doubles reads as the one with the
even mantissa. -/
def covers (b : Binary) (s : Scientific) : Bool :=
  let r := Ratio.shift ⟨s.digits, 1⟩ s.exponent
  if b.mantissa % 2 = 0 then !r.less b.lower && !b.upper.less r
  else b.lower.less r && r.less b.upper

/-- The neighbour of `b` with digits down to `10^exponent` that reads back as `b`, the nearer one if
both do. -/
def onGrid? (b : Binary) (exponent : Int) : Option Scientific :=
  let scaled := b.value.shift (-exponent)
  let below : Scientific := ⟨scaled.numerator / scaled.denominator, exponent⟩
  let above : Scientific := ⟨below.digits + 1, exponent⟩
  match b.covers below, b.covers above with
  | true, true => some ⟨scaled.round, exponent⟩
  | true, false => some below
  | false, true => some above
  | false, false => none

/-- `s` without zeros at the end of its digits. -/
def dropZeros : Nat → Scientific → Scientific
  | 0, s => s
  | n + 1, s => if s.digits % 10 = 0 then dropZeros n ⟨s.digits / 10, s.exponent + 1⟩ else s

/-- The shortest decimal form of a magnitude other than zero; seventeen digits always suffice. -/
def shortest (b : Binary) : Scientific :=
  let top := magnitude b.value
  let grids := (List.range 17).map fun (n : Nat) => top - ((n : Int) + 1)
  dropZeros 17 ((grids.findSome? b.onGrid?).getD ⟨b.value.round, 0⟩)

end Binary

end FrameWatch.Decimal
