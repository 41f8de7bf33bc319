import FrameWatch.Text.Blank

/-!
# Readers

A reader takes what it reads off the front of a list of characters, or fails.
-/

namespace FrameWatch

/-- A reading off the front of a text. -/
abbrev Reader (α : Type) := StateT (List Char) Option α

namespace Reader

variable {α : Type}

/-- Reads nothing and fails. -/
def fail : Reader α := fun _ => none

/-- The characters still to be read. -/
def rest : Reader (List Char) := get

/-- The next character, which is not read. -/
def peek? : Reader (Option Char) := return (← get).head?

/-- Reads any character. -/
def anyChar : Reader Char := fun
  | [] => none
  | c :: cs => some (c, cs)

/-- Reads a character of a class. -/
def satisfy (p : Char → Bool) : Reader Char := fun
  | [] => none
  | c :: cs => if p c then some (c, cs) else none

/-- Reads the character `c`. -/
def char (c : Char) : Reader Unit := fun cs =>
  match cs with
  | [] => none
  | d :: rest => if d = c then some ((), rest) else none

/-- Reads the characters of a list one by one. -/
def chars : List Char → Reader Unit
  | [] => pure ()
  | c :: cs => do
    char c
    chars cs

/-- Reads the text `s`. -/
def text (s : String) : Reader Unit := chars s.toList

/-- Reads characters of a class as long as there are any. -/
def takeWhile (p : Char → Bool) : Reader (List Char) := fun cs =>
  some (cs.takeWhile p, cs.dropWhile p)

/-- Reads characters of a class, at least one. -/
def takeSome (p : Char → Bool) : Reader (List Char) := do
  match ← takeWhile p with
  | [] => fail
  | cs => return cs

/-- Reads what the first reader reads, or, where it fails, what the second one does. -/
def orElse (first second : Reader α) : Reader α := fun cs =>
  match first cs with
  | some answer => some answer
  | none => second cs

/-- What the reader reads, or nothing where it fails. -/
def option (reader : Reader α) : Reader (Option α) := fun cs =>
  match reader cs with
  | some (a, rest) => some (some a, rest)
  | none => some (none, cs)

/-- Reads exactly `n` characters of a class. -/
def exactly (p : Char → Bool) : Nat → Reader (List Char)
  | 0 => return []
  | n + 1 => do
    let c ← satisfy p
    let cs ← exactly p n
    return c :: cs

/-- What the reader reads from the whole of `s`. -/
def run? (reader : Reader α) (s : List Char) : Option α :=
  match reader s with
  | some (a, []) => some a
  | _ => none

end Reader

end FrameWatch
