import FrameWatch.Text.Blank
import FrameWatch.Time.Duration

/-!
# Durations in words

The spelling of a duration as a sequence of numbers with units, such as `1h 30m` or `1.5s`:
`Duration.parse?` reads it and `Duration.spell` writes it. Blanks may stand anywhere except inside
a unit. A fraction is read only where it comes out exact: in nanoseconds below an hour, in whole
seconds from an hour on. All numbers on the way have to be machine words.
-/

namespace FrameWatch

/-- The units of time that a spelling uses. -/
inductive TimeUnit
  | nano | micro | milli | second | minute | hour | day | week | month | year
deriving DecidableEq, Repr

/-- What a number is counted in before it is added to a duration. -/
inductive Grain
  | nanos | secs
deriving DecidableEq, Repr

namespace TimeUnit

/-- The unit that `name` stands for. -/
def ofName? (name : String) : Option TimeUnit :=
  if ["nanos", "nsec", "ns"].contains name then some nano
  else if ["usec", "us", "µs"].contains name then some micro
  else if ["millis", "msec", "ms"].contains name then some milli
  else if ["seconds", "second", "secs", "sec", "s"].contains name then some second
  else if ["minutes", "minute", "min", "mins", "m"].contains name then some minute
  else if ["hours", "hour", "hrs", "hr", "h"].contains name then some hour
  else if ["days", "day", "d"].contains name then some day
  else if ["weeks", "week", "wks", "wk", "w"].contains name then some week
  else if ["months", "month", "M"].contains name then some month
  else if ["years", "year", "yrs", "yr", "y"].contains name then some year
  else none

/-- Seconds in a unit of at least a second; a year has 365.25 days and a month is its twelfth part
rounded to whole seconds. -/
def seconds : TimeUnit → Nat
  | nano | micro | milli => 0
  | second => 1
  | minute => 60
  | hour => 3600
  | day => 86400
  | week => 604800
  | month => 2630016
  | year => 31557600

/-- How a whole number of the unit is counted. -/
def whole : TimeUnit → Grain × Nat
  | nano => (.nanos, 1)
  | micro => (.nanos, 1000)
  | milli => (.nanos, 1000000)
  | u => (.secs, u.seconds)

/-- How a fraction of the unit is counted; a nanosecond has none. -/
def fractional : TimeUnit → Option (Grain × Nat)
  | nano => none
  | micro => some (.nanos, 1000)
  | milli => some (.nanos, 1000000)
  | second => some (.nanos, nanosPerSecond)
  | minute => some (.nanos, 60 * nanosPerSecond)
  | u => some (.secs, u.seconds)

end TimeUnit

/-- A proper decimal fraction as it was written. -/
structure Fraction where
  numerator : Nat
  denominator : Nat
deriving DecidableEq

/-- How far the reading of a spelling has come. -/
inductive SpellingState
  /-- Nothing but blanks so far. -/
  | start
  /-- Behind a unit. -/
  | between
  /-- Inside the whole part of a number. -/
  | whole (n : Nat)
  /-- Behind the point of a number. -/
  | fraction (n : Nat) (part : Fraction)
  /-- Inside a unit, whose letters stand in reverse. -/
  | unit (n : Nat) (part : Option Fraction) (letters : List Char)
deriving DecidableEq

namespace Duration

/-- `total` and `amount` grains more, if all sums are machine words. -/
def addGrains? (total : Duration) : Grain → Nat → Option Duration
  | .nanos, amount => do
    let subsec ← wordAdd? total.subsec amount
    let secs ← wordAdd? total.secs (subsec / nanosPerSecond)
    some (ofParts secs (subsec % nanosPerSecond))
  | .secs, amount => do
    let secs ← wordAdd? total.secs amount
    some (ofParts secs total.subsec)

/-- `total` and a number of a unit more. -/
def addItem? (total : Duration) (n : Nat) (part : Option Fraction) (u : TimeUnit) :
    Option Duration := do
  let amount ← wordMul? n u.whole.2
  let total ← total.addGrains? u.whole.1 amount
  match part with
  | none => some total
  | some f =>
    let (grain, factor) ← u.fractional
    let scaled ← wordMul? f.numerator factor
    if scaled % f.denominator = 0 then total.addGrains? grain (scaled / f.denominator) else none

/-- The value of a decimal digit. -/
def digit? (c : Char) : Option Nat :=
  if c.isDigit then some (c.toNat - '0'.toNat) else none

/-- The letters that units are made of. -/
def isUnitLetter (c : Char) : Bool := c.isAlpha || c == 'µ'

/-- `n` with one more digit behind it. -/
def appendDigit? (n d : Nat) : Option Nat := do
  let tens ← wordMul? n 10
  wordAdd? tens d

/-- A finished item is added to what was read before it. -/
def closeItem? (total : Duration) (n : Nat) (part : Option Fraction) (letters : List Char) :
    Option Duration := do
  let u ← TimeUnit.ofName? (String.ofList letters.reverse)
  total.addItem? n part u

/-- One more character of a spelling. -/
def readChar? : Duration × SpellingState → Char → Option (Duration × SpellingState)
  | (total, .start), c =>
    match digit? c with
    | some d => some (total, .whole d)
    | none => if Text.isBlank c then some (total, .start) else none
  | (total, .between), c =>
    match digit? c with
    | some d => some (total, .whole d)
    | none => if Text.isBlank c then some (total, .between) else none
  | (total, .whole n), c =>
    match digit? c with
    | some d => (appendDigit? n d).map fun n => (total, .whole n)
    | none =>
      if Text.isBlank c then some (total, .whole n)
      else if isUnitLetter c then some (total, .unit n none [c])
      else if c == '.' then some (total, .fraction n ⟨0, 1⟩)
      else none
  | (total, .fraction n part), c =>
    match digit? c with
    | some d => do
      let denominator ← wordMul? part.denominator 10
      let numerator ← appendDigit? part.numerator d
      some (total, .fraction n ⟨numerator, denominator⟩)
    | none =>
      if Text.isBlank c then some (total, .fraction n part)
      else if isUnitLetter c && part.denominator != 1 then some (total, .unit n (some part) [c])
      else none
  | (total, .unit n part letters), c =>
    match digit? c with
    | some d => (closeItem? total n part letters).map fun total => (total, .whole d)
    | none =>
      if Text.isBlank c then (closeItem? total n part letters).map fun total => (total, .between)
      else if isUnitLetter c then some (total, .unit n part (c :: letters))
      else none

/-- The duration read, once the spelling has ended. -/
def finishReading? : Duration × SpellingState → Option Duration
  | (total, .between) => some total
  | (total, .unit n part letters) => closeItem? total n part letters
  | _ => none

/-- The duration that `s` spells. A lone `0` needs no unit. -/
def parse? (s : String) : Option Duration :=
  if s = "0" then some zero
  else do finishReading? (← s.toList.foldlM readChar? (zero, .start))

/-- The parts of `d` from years down to nanoseconds, each with its unit. -/
def parts (d : Duration) : List (Nat × String) :=
  let years := d.secs / 31557600
  let ofYear := d.secs % 31557600
  let months := ofYear / 2630016
  let ofMonth := ofYear % 2630016
  let days := ofMonth / 86400
  let ofDay := ofMonth % 86400
  [ (years, if years = 1 then "year" else "years"),
    (months, if months = 1 then "month" else "months"),
    (days, if days = 1 then "day" else "days"),
    (ofDay / 3600, "h"), (ofDay % 3600 / 60, "m"), (ofDay % 60, "s"),
    (d.subsec / 1000000, "ms"), (d.subsec / 1000 % 1000, "us"), (d.subsec % 1000, "ns") ]

/-- `d` in words: its parts other than zero, largest first. -/
def spell (d : Duration) : String :=
  if d.isZero then "0s"
  else " ".intercalate ((d.parts.filter (·.1 != 0)).map fun p => toString p.1 ++ p.2)

end Duration

end FrameWatch
