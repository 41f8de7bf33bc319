/-!
# Sensor regions

A rectangle of sensor pixels, with both bounds inclusive, and the factors by which pixels are binned
in each direction.
-/

namespace FrameWatch

/-- A rectangle of pixels with its binning. -/
structure Region where
  /-- The first column. -/
  s1 : Nat
  /-- The last column. -/
  s2 : Nat
  /-- Columns binned into one. -/
  sbin : Nat
  /-- The first row. -/
  p1 : Nat
  /-- The last row. -/
  p2 : Nat
  /-- Rows binned into one. -/
  pbin : Nat
deriving DecidableEq, Repr

namespace Region

/-- The square of `size` unbinned pixels a side at the origin; one pixel if `size` is zero. -/
def square (size : Nat) : Region := ⟨0, size - 1, 1, 0, size - 1, 1⟩

/-- The built-in region. -/
def standard : Region := square 512

/-- Binned pixels from `first` to `last`, the incomplete bin at the end left out. A binning of zero
counts as one. -/
def extent (first last bin : Nat) : Nat := (last + 1 - first) / max bin 1

/-- Binned pixels in a row. -/
def width (r : Region) : Nat := extent r.s1 r.s2 r.sbin

/-- Binned rows. -/
def height (r : Region) : Nat := extent r.p1 r.p2 r.pbin

/-- Whether the bounds are ordered and no binning is zero. -/
def isValid (r : Region) : Bool :=
  r.s1 ≤ r.s2 && r.p1 ≤ r.p2 && 0 < r.sbin && 0 < r.pbin

/-- Bytes of a frame of the region, at two bytes a binned pixel. -/
def frameBytes (r : Region) : Nat := r.width * r.height * 2

/-- The region with all its fields, for messages. -/
def describe (r : Region) : String :=
  "Region \x7b s1: " ++ toString r.s1 ++ ", s2: " ++ toString r.s2
    ++ ", sbin: " ++ toString r.sbin ++ ", p1: " ++ toString r.p1
    ++ ", p2: " ++ toString r.p2 ++ ", pbin: " ++ toString r.pbin ++ " \x7d"

end Region

end FrameWatch
