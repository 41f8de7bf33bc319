import FrameWatch.Decimal.Spelled
import FrameWatch.Settings.Value
import FrameWatch.Text.Bytes
import FrameWatch.Text.Escape

/-!
# Settings from the environment

How the name of an environment variable leads to a setting, and how its text is read as a value. A
text that is no value stands for itself.
-/

namespace FrameWatch.Settings.Variable

open Reader

/-! ## Names -/

/-- What the names of all variables for settings begin with. -/
def marker : String := "STALL_PROBE_"

/-- The rest of a name behind the marker, which may stand in letters of any case. -/
def afterMarker? (name : List Char) : Option (List Char) :=
  let front := name.take marker.length
  if (front.map Char.toUpper) = marker.toList then some (name.drop marker.length) else none

/-- `cs` cut at every point and every pair of underscores; `part` is read so far, in reverse. -/
def splitPath : List Char → List Char → List (List Char)
  | [], part => [part.reverse]
  | '_' :: '_' :: cs, part => part.reverse :: splitPath cs []
  | '.' :: cs, part => part.reverse :: splitPath cs []
  | c :: cs, part => splitPath cs (c :: part)

/-- The keys that a variable of that name sets, if it sets any. Blanks behind the marker and at the
end of the name do not count. -/
def path? (name : String) : Option (List String) := do
  let keys := splitPath (Text.trimList (← afterMarker? name.toList)) []
  if keys.any List.isEmpty then none
  else some (keys.map fun key => Text.lowerAscii (String.ofList key))

/-! ## Values -/

/-- Reads blanks. -/
def blanks : Reader Unit := do
  let _ ← takeWhile Text.isAsciiBlank

/-- Whether a character may stand in a text without quotes. -/
def isBare (c : Char) : Bool := !(c == ',' || c == '\x7b' || c == '\x7d' || c == '[' || c == ']')

/-- Reads shown and escaped characters to the end, at most `bound` of them. -/
def unescape : Nat → Reader (List Char)
  | 0 => fail
  | bound + 1 => do
    match ← peek? with
    | none => return []
    | some '\\' => do
      char '\\'
      let c ← Text.readEscape
      return c :: (← unescape bound)
    | some _ => do
      let c ← satisfy Text.isShown
      return c :: (← unescape bound)

/-- The text that the inside of a quoted text stands for. Where a backslash follows it, the text in
front of the first one is cut to as many bytes as it has characters. -/
def unquote? (inside : List Char) : Option (List Char) := do
  let front := inside.takeWhile (· != '\\')
  let back := inside.dropWhile (· != '\\')
  let shown ← (unescape (back.length + 1)).run? back
  if !front.all Text.isShown then none
  else if back.isEmpty then some front
  else some (Text.takeBytes front.length front ++ shown)

/-- The characters up to the next quote that no backslash stands in front of. -/
def quotedInside : List Char → List Char
  | [] => []
  | '"' :: _ => []
  | '\\' :: c :: cs => '\\' :: c :: quotedInside cs
  | c :: cs => c :: quotedInside cs

/-- Reads a text between double quotes. -/
def quotedText : Reader String := do
  char '"'
  let inside := quotedInside (← rest)
  let _ ← exactly (fun _ => true) inside.length
  char '"'
  match unquote? inside with
  | some cs => return String.ofList cs
  | none => fail

/-- What a text without quotes stands for: a number if it spells one, else itself. -/
def bare (cs : List Char) : Scalar :=
  let cs := Text.trimList cs
  match if cs.contains '.' then Decimal.real? cs else none with
  | some x => .real x
  | none =>
    match Decimal.natural? cs with
    | some n => .natural n
    | none =>
      match Decimal.negative? cs with
      | some n => .integer n
      | none => .text (String.ofList cs)

/-- A value without parts. -/
def scalar (content : Scalar) : Value := .scalar .environment content

/-- Reads the items of a list behind its bracket, at most `bound` of them. -/
def items (value : Reader Value) : Nat → Reader (List Value)
  | 0 => fail
  | bound + 1 => do
    match ← option (char ']') with
    | some () => return []
    | none =>
      let v ← value
      match ← option (char ',') with
      | some () => return v :: (← items value bound)
      | none => do
        char ']'
        return [v]

/-- Reads a key. -/
def key : Reader String := do
  match ← peek? with
  | some '"' => quotedText
  | _ => return String.ofList (← takeSome fun c => c.isAlphanum || c == '_' || c == '-')

/-- Reads the fields of a table behind its brace, at most `bound` of them. -/
def fields (value : Reader Value) : Nat → Reader (List (String × Value))
  | 0 => fail
  | bound + 1 => do
    match ← option (char '\x7d') with
    | some () => return []
    | none =>
      blanks
      let name ← key
      blanks
      char '='
      let v ← value
      match ← option (char ',') with
      | some () => return (name, v) :: (← fields value bound)
      | none => do
        char '\x7d'
        return [(name, v)]

/-- Reads a value with parts nested at most `depth` deep, and the blanks around it. -/
def value : Nat → Reader Value
  | 0 => fail
  | depth + 1 => do
    blanks
    let v ←
      match ← rest with
      | 't' :: 'r' :: 'u' :: 'e' :: _ => do
        text "true"
        pure (scalar (.flag true))
      | 'f' :: 'a' :: 'l' :: 's' :: 'e' :: _ => do
        text "false"
        pure (scalar (.flag false))
      | '\x7b' :: _ => do
        char '\x7b'
        let bound := (← rest).length + 1
        pure (.ofFields .environment (← fields (value depth) bound))
      | '[' :: _ => do
        char '['
        let bound := (← rest).length + 1
        pure (.list .environment (← items (value depth) bound))
      | '"' :: _ => do
        pure (scalar (.text (← quotedText)))
      | '\'' :: _ => do
        char '\''
        let c ← anyChar
        char '\''
        pure (scalar (.letter c))
      | _ => do
        pure (scalar (bare (← takeWhile isBare)))
    blanks
    return v

/-- The value of a variable with that text. -/
def read (s : String) : Value :=
  ((value (s.length + 1)).run? s.toList).getD (scalar (.text s))

end FrameWatch.Settings.Variable
