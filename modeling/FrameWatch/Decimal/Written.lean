import FrameWatch.Decimal.Shortest

/-!
# Written doubles

Three ways to write a double: with a fixed number of decimals, in plain positional notation with the
fewest digits that read back, and in the notation of JSON, which turns to powers of ten for very
large and very small numbers and always shows that the number is no integer.
-/

namespace FrameWatch.Decimal

/-- The magnitude `b` with `places` decimals, rounded to the nearest, halves to the even digit. -/
def fixedMagnitude (places : Nat) (b : Binary) : String :=
  let scaled := (b.value.shift places).round
  let whole := toString (scaled / 10 ^ places)
  if places = 0 then whole
  else
    let part := toString (scaled % 10 ^ places)
    whole ++ "." ++ String.ofList (List.replicate (places - part.length) '0') ++ part

/-- `x` with `places` decimals. -/
def fixed (places : Nat) (x : Float) : String :=
  match Double.ofFloat x with
  | .nan => "NaN"
  | .infinite negative => if negative then "-inf" else "inf"
  | .finite negative b => (if negative then "-" else "") ++ fixedMagnitude places b

/-- `count` zeros. -/
def zeros (count : Nat) : String := String.ofList (List.replicate count '0')

/-- `s` without powers of ten; a whole number has no point. -/
def positional (s : Scientific) : String :=
  let digits := toString s.digits
  let point := (digits.length : Int) + s.exponent
  if 0 ≤ s.exponent then digits ++ zeros s.exponent.toNat
  else if 0 < point then
    String.ofList (digits.toList.take point.toNat) ++ "."
      ++ String.ofList (digits.toList.drop point.toNat)
  else "0." ++ zeros (-point).toNat ++ digits

/-- `s` with one digit in front of the point and a signed power of ten. -/
def withPower (s : Scientific) : String :=
  let digits := (toString s.digits).toList
  let power := (digits.length : Int) + s.exponent - 1
  String.ofList (digits.take 1)
    ++ (if digits.length = 1 then "" else "." ++ String.ofList (digits.drop 1))
    ++ (if power < 0 then "e-" else "e+") ++ toString power.natAbs

/-- `x` in positional notation. -/
def plain (x : Float) : String :=
  match Double.ofFloat x with
  | .nan => "NaN"
  | .infinite negative => if negative then "-inf" else "inf"
  | .finite negative b =>
    (if negative then "-" else "") ++ (if b.mantissa = 0 then "0" else positional b.shortest)

/-- The magnitude `b` as a JSON number: positional from `10^(-5)` up to `10^16`, and with `.0` where
it is whole. -/
def jsonMagnitude (b : Binary) : String :=
  if b.mantissa = 0 then "0.0"
  else
    let s := b.shortest
    let point := ((toString s.digits).length : Int) + s.exponent
    if -5 < point ∧ point ≤ 16 then
      if 0 ≤ s.exponent then positional s ++ ".0" else positional s
    else withPower s

/-- `x` as a JSON number, or `null` where JSON has none. -/
def json (x : Float) : String :=
  match Double.ofFloat x with
  | .nan | .infinite _ => "null"
  | .finite negative b => (if negative then "-" else "") ++ jsonMagnitude b

end FrameWatch.Decimal
