import FrameWatch.Decimal.Read
import FrameWatch.Settings.Toml.Lexeme
import FrameWatch.Settings.Value

/-!
# Numbers and dates of settings files

Whole numbers in four bases, numbers with a fraction or a power of ten, and dates with times.
-/

namespace FrameWatch.Settings.Toml

open Reader

/-- Reads digits of a class with single underscores between them. -/
def digitRow (p : Char → Bool) : Reader (List Char) := fun cs =>
  let row := cs.takeWhile fun c => p c || c == '_'
  let digits := row.filter p
  let pairs := row.zip row.tail
  if row.head?.any p ∧ row.getLast?.any p ∧ pairs.all fun x => x.1 != '_' || x.2 != '_' then
    some (digits, cs.drop row.length)
  else none

/-- Reads a sign; whether it is a minus. -/
def sign : Reader Bool := do
  match ← peek? with
  | some '-' => do
    char '-'
    return true
  | some '+' => do
    char '+'
    return false
  | _ => return false

/-- Reads the digits of a whole number, without zeros in front. -/
def wholeDigits : Reader (List Char) := do
  match ← digitRow Char.isDigit with
  | '0' :: _ :: _ => fail
  | digits => return digits

/-- `n` as a whole number, if it is one of 64 bits. -/
def whole (n : Int) : Reader Scalar :=
  if -(2 ^ 63) ≤ n ∧ n < 2 ^ 63 then return .integer n else fail

/-- Reads a whole number in a base other than ten. -/
def basedNumber (mark : Char) (base : Nat) (p : Char → Bool) : Reader Scalar := do
  chars ['0', mark]
  whole (Text.ofDigits base (← digitRow p))

/-- Reads a whole number. -/
def wholeNumber : Reader Scalar := do
  match ← rest with
  | '0' :: 'x' :: _ => basedNumber 'x' 16 Text.isHexDigit
  | '0' :: 'o' :: _ => basedNumber 'o' 8 fun c => '0' ≤ c && c ≤ '7'
  | '0' :: 'b' :: _ => basedNumber 'b' 2 fun c => c == '0' || c == '1'
  | _ => do
    let negative ← sign
    let n := Text.ofDigits 10 (← wholeDigits)
    whole (if negative then -(n : Int) else n)

/-- Reads the digits behind the point. -/
def fraction : Reader (List Char) := do
  char '.'
  digitRow Char.isDigit

/-- Reads a power of ten. -/
def power : Reader Int := do
  let _ ← satisfy fun c => c == 'e' || c == 'E'
  let negative ← sign
  let n := Text.ofDigits 10 (← digitRow Char.isDigit)
  return if negative then -(n : Int) else n

/-- Reads a number with a fraction or a power of ten. It may not be beyond all doubles. -/
def realNumber : Reader Scalar := do
  let negative ← sign
  let digits ← wholeDigits
  let part ← option fraction
  let exponent ← option power
  if part.isNone && exponent.isNone then fail
  else
    let part := part.getD []
    let x :=
      Decimal.nearest negative (Text.ofDigits 10 (digits ++ part))
        (exponent.getD 0 - (part.length : Int))
    if Decimal.isPositiveInfinity x then fail else return .real x

/-- Reads infinity or no number. -/
def specialNumber : Reader Scalar := do
  let negative ← sign
  let x : Float ← orElse (do text "inf"; pure (1.0 / 0.0)) (do text "nan"; pure (0.0 / 0.0))
  return .real (if negative then -x else x)

/-! ## Dates and times -/

/-- Reads a number of so many digits, if it is within bounds. -/
def field (digits low high : Nat) : Reader Nat := do
  let n := Text.ofDigits 10 (← exactly Char.isDigit digits)
  if low ≤ n ∧ n ≤ high then return n else fail

/-- The days of a month. -/
def daysOf (year month : Nat) : Nat :=
  if month = 2 then
    if year % 4 = 0 ∧ (year % 100 ≠ 0 ∨ year % 400 = 0) then 29 else 28
  else if month = 4 ∨ month = 6 ∨ month = 9 ∨ month = 11 then 30
  else 31

/-- Reads a date. -/
def date : Reader Unit := do
  let year ← field 4 0 9999
  char '-'
  let month ← field 2 1 12
  char '-'
  let _ ← field 2 1 (daysOf year month)

/-- Reads a time of day. -/
def time : Reader Unit := do
  let _ ← field 2 0 23
  char ':'
  let _ ← field 2 0 59
  char ':'
  let _ ← field 2 0 60
  let _ ← option do
    char '.'
    takeSome Char.isDigit

/-- Reads a distance from universal time. -/
def offset : Reader Unit := do
  match ← anyChar with
  | 'Z' | 'z' => pure ()
  | '+' | '-' => do
    let _ ← field 2 0 23
    char ':'
    let _ ← field 2 0 59
  | _ => fail

/-- Reads a date, which a time and its zone may follow. -/
def dateAndTime : Reader Unit := do
  date
  let _ ← option do
    let _ ← satisfy fun c => c == 'T' || c == 't' || c == ' '
    time
    let _ ← option offset

/-- The name under which a date is handed on. -/
def dateKey : String := "$__toml_private_datetime"

/-- Reads a date, a time, or both: a table with the written form as its only field. -/
def moment (origin : Origin) : Reader Value := do
  let before ← rest
  orElse dateAndTime time
  let written := before.take (before.length - (← rest).length)
  return .table origin [(dateKey, .scalar origin (.text (String.ofList written)))]

/-- Whether a text begins like a date or a time. -/
def isMoment (cs : List Char) : Bool :=
  let digits := (cs.takeWhile Char.isDigit).length
  (digits = 4 && cs[4]? == some '-') || (2 ≤ digits && cs[2]? == some ':')

/-- Reads a number or a date. -/
def numberOrMoment (origin : Origin) : Reader Value := do
  if isMoment (← rest) then moment origin
  else
    return .scalar origin (← orElse realNumber (orElse specialNumber wholeNumber))

end FrameWatch.Settings.Toml
