import FrameWatch.Text.Reader

/-!
# Escaped characters

The characters that stand behind a backslash in quoted text: the letters of the common controls, or
the code point in four or eight hexadecimal digits.
-/

namespace FrameWatch.Text

/-- The value of a hexadecimal digit. -/
def hexValue? (c : Char) : Option Nat :=
  if '0' ≤ c ∧ c ≤ '9' then some (c.toNat - '0'.toNat)
  else if 'a' ≤ c ∧ c ≤ 'f' then some (c.toNat - 'a'.toNat + 10)
  else if 'A' ≤ c ∧ c ≤ 'F' then some (c.toNat - 'A'.toNat + 10)
  else none

/-- Whether `c` is a hexadecimal digit. -/
def isHexDigit (c : Char) : Bool := (hexValue? c).isSome

/-- The number with those digits. -/
def ofDigits (base : Nat) (digits : List Char) : Nat :=
  digits.foldl (fun n c => n * base + (hexValue? c).getD 0) 0

/-- The character with that code point, if there is one. -/
def charOfCode? (n : Nat) : Option Char := if n.isValidChar then some (Char.ofNat n) else none

/-- Reads a code point of so many hexadecimal digits. -/
def readCode (digits : Nat) : Reader Char := do
  match charOfCode? (ofDigits 16 (← Reader.exactly isHexDigit digits)) with
  | some c => return c
  | none => Reader.fail

/-- Reads what stands behind a backslash. -/
def readEscape : Reader Char := do
  match ← Reader.anyChar with
  | 'b' => return '\x08'
  | 't' => return '\t'
  | 'n' => return '\n'
  | 'f' => return '\x0c'
  | 'r' => return '\r'
  | '"' => return '"'
  | '\\' => return '\\'
  | 'u' => readCode 4
  | 'U' => readCode 8
  | _ => Reader.fail

/-- A character that may stand in a text as it is: no control but the tabulator. -/
def isShown (c : Char) : Bool := c == '\t' || (32 ≤ c.toNat && c.toNat != 127)

end FrameWatch.Text
