import FrameWatch.Power

/-!
# Durations

A length of time in whole nanoseconds, up to just under 2^64 seconds. Sums stop at the longest
duration and quotients round down.
-/

namespace FrameWatch

/-- Nanoseconds in a second. -/
def nanosPerSecond : Nat := 1000000000

/-- One more than the greatest machine word. -/
def wordBound : Nat := 2 ^ 64

theorem nanosPerSecond_pos : 0 < nanosPerSecond := by decide

/-- `a + b` if it is a machine word. -/
def wordAdd? (a b : Nat) : Option Nat :=
  if a + b < wordBound then some (a + b) else none

/-- `a * b` if it is a machine word. -/
def wordMul? (a b : Nat) : Option Nat :=
  if a * b < wordBound then some (a * b) else none

/-- The longest duration, in nanoseconds. -/
def Duration.maxNanos : Nat := wordBound * nanosPerSecond - 1

/-- A length of time. -/
structure Duration where
  /-- The whole length in nanoseconds. -/
  nanos : Nat
  nanos_le : nanos ≤ Duration.maxNanos
deriving DecidableEq

namespace Duration

@[ext] theorem ext_nanos {a b : Duration} (h : a.nanos = b.nanos) : a = b := by
  cases a; cases b; simp_all

/-- `n` nanoseconds, or the longest duration if that is shorter. -/
def ofNanos (n : Nat) : Duration := ⟨min n maxNanos, Nat.min_le_right ..⟩

/-- `n` milliseconds, or the longest duration if that is shorter. -/
def ofMillis (n : Nat) : Duration := ofNanos (n * 1000000)

/-- `secs` seconds and `subsec` nanoseconds, or the longest duration if that is shorter. -/
def ofParts (secs subsec : Nat) : Duration := ofNanos (secs * nanosPerSecond + subsec)

/-- No time at all. -/
def zero : Duration := ⟨0, Nat.zero_le _⟩

instance : Inhabited Duration := ⟨zero⟩

/-- The whole seconds. -/
def secs (d : Duration) : Nat := d.nanos / nanosPerSecond

/-- The nanoseconds beyond the whole seconds. -/
def subsec (d : Duration) : Nat := d.nanos % nanosPerSecond

/-- Whether `d` lasts no time. -/
def isZero (d : Duration) : Bool := d.nanos == 0

/-- The sum, or the longest duration if that is shorter. -/
def add (a b : Duration) : Duration := ofNanos (a.nanos + b.nanos)

/-- The time from `b` to `a` for two readings of one clock; none if `b` is later. -/
def since (a b : Duration) : Duration := ofNanos (a.nanos - b.nanos)

/-- The `n`-th part of `d`, rounded down. -/
def div (d : Duration) (n : Nat) : Duration :=
  ⟨d.nanos / n, Nat.le_trans (Nat.div_le_self ..) d.nanos_le⟩

/-- The shorter of two durations. -/
def shorter (a b : Duration) : Duration := if a.nanos ≤ b.nanos then a else b

/-- The longer of two durations. -/
def longer (a b : Duration) : Duration := if a.nanos ≤ b.nanos then b else a

theorem subsec_lt (d : Duration) : d.subsec < nanosPerSecond := Nat.mod_lt _ nanosPerSecond_pos

theorem secs_lt (d : Duration) : d.secs < wordBound := by
  have h := d.nanos_le
  refine Nat.div_lt_of_lt_mul ?_
  have : 0 < wordBound * nanosPerSecond := by decide
  rw [Nat.mul_comm]
  unfold maxNanos at h
  omega

theorem secs_mul_add_subsec (d : Duration) : d.secs * nanosPerSecond + d.subsec = d.nanos := by
  rw [Nat.mul_comm]; exact Nat.div_add_mod ..

theorem ofParts_secs_subsec (d : Duration) : ofParts d.secs d.subsec = d := by
  ext
  simp only [ofParts, ofNanos, secs_mul_add_subsec]
  exact Nat.min_eq_left d.nanos_le

end Duration

end FrameWatch
