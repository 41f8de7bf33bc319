import FrameWatch.Decimal.Read
import FrameWatch.Text.Blank
import FrameWatch.Text.Escape

/-!
# Numbers as they are spelled

The numbers that a whole text spells in decimal digits, with nothing in front of them and behind.
-/

namespace FrameWatch.Decimal

/-- Whether a minus stands in front of `cs`, and what stands behind the sign. -/
def splitSign : List Char → Bool × List Char
  | '-' :: cs => (true, cs)
  | '+' :: cs => (false, cs)
  | cs => (false, cs)

/-- The double that `cs` spells, perhaps with a point and a power of ten. -/
def real? (cs : List Char) : Option Float := do
  let (negative, cs) := splitSign cs
  let digits := cs.takeWhile Char.isDigit
  let cs := cs.dropWhile Char.isDigit
  let (part, cs) :=
    match cs with
    | '.' :: cs => (cs.takeWhile Char.isDigit, cs.dropWhile Char.isDigit)
    | cs => ([], cs)
  if digits.isEmpty && part.isEmpty then none
  else
    let exponent ←
      match cs with
      | [] => some 0
      | mark :: cs =>
        if mark == 'e' || mark == 'E' then
          let (below, cs) := splitSign cs
          if cs.isEmpty || !cs.all Char.isDigit then none
          else
            let n := Text.ofDigits 10 cs
            some (if below then -(n : Int) else n)
        else none
    some (nearest negative (Text.ofDigits 10 (digits ++ part))
      (exponent - (part.length : Int)))

/-- The whole number without room for a sign that `cs` spells. -/
def natural? (cs : List Char) : Option Nat :=
  let digits := match cs with
    | '+' :: cs => cs
    | cs => cs
  let n := Text.ofDigits 10 digits
  if !digits.isEmpty && digits.all Char.isDigit && n < 2 ^ 64 then some n else none

/-- The whole number below zero, or zero with a minus, that `cs` spells. -/
def negative? : List Char → Option Int
  | '-' :: digits =>
    let n := Text.ofDigits 10 digits
    if !digits.isEmpty && digits.all Char.isDigit && n ≤ 2 ^ 63 then some (-(n : Int)) else none
  | _ => none

/-- Whether `cs` spells infinity or no number, with or without a sign. -/
def isSpecial (cs : List Char) : Bool :=
  ["inf", "infinity", "nan"].contains (Text.lowerAscii (String.ofList (splitSign cs).2))

end FrameWatch.Decimal
