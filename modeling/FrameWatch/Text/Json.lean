import FrameWatch.Decimal.Written

/-!
# JSON documents

Documents with ordered fields, and their written form on several lines: two blanks for every level
of nesting, one item or field a line.
-/

namespace FrameWatch

/-- A JSON document whose fields keep their order. -/
inductive Json
  | text (s : String)
  | integer (n : Int)
  | real (x : Float)
  | list (items : List Json)
  | object (fields : List (String × Json))

namespace Json

/-- A control character as its code in four hexadecimal digits. -/
def controlEscape (c : Char) : List Char :=
  let digits := Nat.toDigits 16 c.toNat
  ['\\', 'u'] ++ List.replicate (4 - digits.length) '0' ++ digits

/-- One character as it stands between quotes. -/
def escapeChar (c : Char) : List Char :=
  if c = '"' then ['\\', '"']
  else if c = '\\' then ['\\', '\\']
  else if c = '\n' then ['\\', 'n']
  else if c = '\r' then ['\\', 'r']
  else if c = '\t' then ['\\', 't']
  else if c = '\x08' then ['\\', 'b']
  else if c = '\x0c' then ['\\', 'f']
  else if c.toNat < 32 then controlEscape c
  else [c]

/-- `s` between double quotes. -/
def quote (s : String) : String :=
  String.ofList ('"' :: s.toList.flatMap escapeChar ++ ['"'])

/-- A line break and the indentation of nesting level `depth`. -/
def newline (depth : Nat) : String := "\n" ++ String.ofList (List.replicate (2 * depth) ' ')

mutual

/-- The lines of a document that starts at nesting level `depth`. -/
def writeAt (depth : Nat) : Json → String
  | text s => quote s
  | integer n => toString n
  | real x => Decimal.json x
  | list [] => "[]"
  | list (item :: items) =>
    "[" ++ newline (depth + 1) ++ writeAt (depth + 1) item ++ writeItems depth items
      ++ newline depth ++ "]"
  | object [] => "\x7b\x7d"
  | object ((key, value) :: fields) =>
    "\x7b" ++ newline (depth + 1) ++ quote key ++ ": " ++ writeAt (depth + 1) value
      ++ writeFields depth fields ++ newline depth ++ "\x7d"

/-- The items of a list behind its first. -/
def writeItems (depth : Nat) : List Json → String
  | [] => ""
  | item :: items =>
    "," ++ newline (depth + 1) ++ writeAt (depth + 1) item ++ writeItems depth items

/-- The fields of an object behind its first. -/
def writeFields (depth : Nat) : List (String × Json) → String
  | [] => ""
  | (key, value) :: fields =>
    "," ++ newline (depth + 1) ++ quote key ++ ": " ++ writeAt (depth + 1) value
      ++ writeFields depth fields

end

/-- The lines of a document. -/
def write (document : Json) : String := document.writeAt 0

end Json

end FrameWatch
