import FrameWatch.Decimal.Spelled
import FrameWatch.Logging.Line

/-!
# Thresholds

From which level on log lines are written, and how that is spelled.
-/

namespace FrameWatch

/-- The least important lines that are written; `none` where no line is. -/
abbrev Threshold : Type := Option LogLevel

namespace Threshold

/-- The thresholds by their numbers. -/
def ofNumber? : Nat → Option Threshold
  | 0 => some none
  | 1 => some (some .error)
  | 2 => some (some .warn)
  | 3 => some (some .info)
  | 4 => some (some .debug)
  | 5 => some (some .trace)
  | _ => none

/-- The threshold of that name or number, in letters of any case. -/
def ofText? (s : String) : Option Threshold :=
  match Decimal.natural? s.toList with
  | some n => ofNumber? n
  | none =>
    let name := Text.upperAscii s
    if name = "OFF" then some none
    else (LogLevel.all.find? (·.name == name)).map some

/-- Whether lines of a level are written. -/
def admits (t : Threshold) (level : LogLevel) : Bool := t.any (·.rank ≤ level.rank)

end Threshold

end FrameWatch
