import FrameWatch.Time.Duration

/-!
# Intervals between frames

Count, shortest, longest and mean of the times between frames.
-/

namespace FrameWatch

/-- What is kept of the intervals recorded so far. -/
structure Intervals where
  count : Nat
  shortest : Option Duration
  longest : Option Duration
  /-- Their sum, or the longest duration if that is shorter. -/
  total : Duration
deriving DecidableEq

namespace Intervals

/-- No interval at all. -/
def empty : Intervals := ⟨0, none, none, .zero⟩

/-- One interval more. -/
def record (s : Intervals) (d : Duration) : Intervals where
  count := s.count + 1
  shortest := some (s.shortest.elim d (·.shorter d))
  longest := some (s.longest.elim d (·.longer d))
  total := s.total.add d

/-- The intervals of a list, recorded in their order. -/
def ofList (ds : List Duration) : Intervals := ds.foldl record empty

/-- The mean, rounded down. -/
def mean (s : Intervals) : Option Duration :=
  if 0 < s.count then some (s.total.div s.count) else none

end Intervals

end FrameWatch
