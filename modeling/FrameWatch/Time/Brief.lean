import FrameWatch.Time.Duration

/-!
# Durations in one unit

The brief form of a duration, for messages: one number in the largest unit of which it holds at
least one, with as many decimals as it needs.
-/

namespace FrameWatch

/-- The decimals of `n` parts of `10 ^ width`, without the zeros at their end. -/
def decimals (width n : Nat) : List Char :=
  let digits := (Nat.toDigits 10 n)
  let padded := List.replicate (width - digits.length) '0' ++ digits
  (padded.reverse.dropWhile (· == '0')).reverse

/-- `whole` units and `part` parts of `10 ^ width` of one, followed by the unit. -/
def withDecimals (whole width part : Nat) (unit : String) : String :=
  if part = 0 then toString whole ++ unit
  else toString whole ++ "." ++ String.ofList (decimals width part) ++ unit

/-- `d` as one number with its unit. -/
def Duration.brief (d : Duration) : String :=
  if 0 < d.secs then withDecimals d.secs 9 d.subsec "s"
  else if 1000000 ≤ d.subsec then withDecimals (d.subsec / 1000000) 6 (d.subsec % 1000000) "ms"
  else if 1000 ≤ d.subsec then withDecimals (d.subsec / 1000) 3 (d.subsec % 1000) "µs"
  else toString d.subsec ++ "ns"

end FrameWatch
