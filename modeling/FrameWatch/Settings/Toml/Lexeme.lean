import FrameWatch.Text.Escape

/-!
# Words of settings files

Blanks, comments, quoted texts and keys.
-/

namespace FrameWatch.Settings.Toml

open Reader

/-- Blanks inside a line. -/
def isSpace (c : Char) : Bool := c == ' ' || c == '\t'

/-- Reads blanks inside a line. -/
def spaces : Reader Unit := do
  let _ ← takeWhile isSpace

/-- Reads the end of a line. -/
def newline : Reader Unit := orElse (char '\n') (text "\r\n")

/-- Reads a comment up to the end of its line, if there is one. -/
def comment : Reader Unit := do
  if (← peek?) = some '#' then
    let _ ← takeWhile Text.isShown

/-- Reads the rest of a line behind what it is for. -/
def lineEnd : Reader Unit := do
  spaces
  comment
  if (← rest).isEmpty then pure () else newline

/-- Reads blanks, line ends and comments, at most `bound` of them. -/
def gap : Nat → Reader Unit
  | 0 => pure ()
  | bound + 1 => do
    spaces
    comment
    match ← option newline with
    | some () => gap bound
    | none => pure ()

/-- Reads blanks, line ends and comments. -/
def gaps : Reader Unit := do gap ((← rest).length + 1)

/-! ## Texts -/

/-- The rest of a text between double quotes on one line, at most `bound` characters of it. -/
def basicRest : Nat → Reader (List Char)
  | 0 => fail
  | bound + 1 => do
    match ← anyChar with
    | '"' => return []
    | '\\' => do
      let c ← Text.readEscape
      return c :: (← basicRest bound)
    | c => if Text.isShown c then return c :: (← basicRest bound) else fail

/-- Reads a text between double quotes on one line. -/
def basicText : Reader String := do
  char '"'
  return String.ofList (← basicRest ((← rest).length + 1))

/-- Reads a text between single quotes on one line. -/
def literalText : Reader String := do
  char '\''
  let cs ← takeWhile fun c => Text.isShown c && c != '\''
  char '\''
  return String.ofList cs

/-- What a row of `count` quotes means inside a text that three of them end: the quotes that belong
to the text, and whether the text ends. Two quotes may stand before the three at the end. -/
def quoteRow (count : Nat) : Nat × Bool :=
  if count < 3 then (count, false) else (min (count - 3) 2, true)

/-- Reads up to five quotes in a row. -/
def quotes (quote : Char) : Reader Nat := fun cs =>
  let count := min ((cs.takeWhile (· == quote)).length) 5
  some (count, cs.drop count)

/-- Reads blanks and line ends, at most `bound` lines of them. -/
def blankLines : Nat → Reader Unit
  | 0 => pure ()
  | bound + 1 => do
    spaces
    match ← option newline with
    | some () => blankLines bound
    | none => pure ()

/-- Reads the blanks and line ends behind a backslash at the end of a line. -/
def foldedLine : Reader Unit := do
  spaces
  newline
  blankLines ((← rest).length + 1)

/-- The rest of a text between triple quotes, at most `bound` steps of it. -/
def blockRest (quote : Char) (escapes : Bool) : Nat → Reader (List Char)
  | 0 => fail
  | bound + 1 => do
    match ← peek? with
    | none => fail
    | some c =>
      if c = quote then
        let (kept, ended) := quoteRow (← quotes quote)
        let row := List.replicate kept quote
        if ended then return row else return row ++ (← blockRest quote escapes bound)
      else if c = '\\' ∧ escapes then
        char '\\'
        match ← option foldedLine with
        | some () => blockRest quote escapes bound
        | none =>
          let c ← Text.readEscape
          return c :: (← blockRest quote escapes bound)
      else if Text.isShown c then
        let c ← anyChar
        return c :: (← blockRest quote escapes bound)
      else
        newline
        return '\n' :: (← blockRest quote escapes bound)

/-- Reads a text between triple quotes; a line end right behind the first three is left out. -/
def blockText (quote : Char) (escapes : Bool) : Reader String := do
  chars [quote, quote, quote]
  let _ ← option newline
  return String.ofList (← blockRest quote escapes ((← rest).length + 1))

/-- Reads a text of any kind. -/
def anyText : Reader String := do
  match ← rest with
  | '"' :: '"' :: '"' :: _ => blockText '"' true
  | '\'' :: '\'' :: '\'' :: _ => blockText '\'' false
  | '"' :: _ => basicText
  | _ => literalText

/-! ## Keys -/

/-- Characters of keys without quotes. -/
def isKeyChar (c : Char) : Bool := c.isAlphanum || c == '_' || c == '-'

/-- Reads one part of a key. -/
def keyPart : Reader String := do
  match ← peek? with
  | some '"' => basicText
  | some '\'' => literalText
  | _ => return String.ofList (← takeSome isKeyChar)

/-- The greatest depth of keys and values. -/
def maxDepth : Nat := 79

/-- Reads the parts of a key, at most `bound` of them, with points between them and blanks
anywhere. -/
def keyParts : Nat → Reader (List String)
  | 0 => fail
  | bound + 1 => do
    spaces
    let part ← keyPart
    spaces
    match ← option (char '.') with
    | some () => return part :: (← keyParts bound)
    | none => return [part]

/-- Reads a key. -/
def key : Reader (List String) := keyParts maxDepth

end FrameWatch.Settings.Toml
