import FrameWatch.Text.Escape
import FrameWatch.Text.Pattern
import FrameWatch.Text.Reader

/-!
# How patterns are spelled

The written form of patterns: most characters stand for themselves, the others build classes,
groups, choices and repetitions. Counts in braces, boundaries of words, classes by the names of
Unicode, and the options for lines and for free layout are not part of it.
-/

namespace FrameWatch.Text.Pattern

open Reader

/-- How the characters of a pattern are to be taken. -/
structure Options where
  /-- Letters count in either case. -/
  anyCase : Bool
  /-- A point stands for line feeds too. -/
  acrossLines : Bool
  /-- A repetition is eager where a question mark follows it, and only there. -/
  swapped : Bool
deriving DecidableEq, Repr

namespace Options

/-- The options at the beginning of a pattern. -/
def standard : Options := ⟨false, false, false⟩

/-- The options with one of them set, by its letter. -/
def set? (o : Options) (on : Bool) : Char → Option Options
  | 'i' => some { o with anyCase := on }
  | 's' => some { o with acrossLines := on }
  | 'U' => some { o with swapped := on }
  | 'u' => if on then some o else none
  | _ => none

/-- The options changed by letters, of which those behind a minus are for setting back. -/
def change? : Options → Bool → List Char → Option Options
  | o, _, [] => some o
  | o, true, '-' :: c :: cs => do (← o.set? false c).change? false cs
  | o, on, c :: cs => do (← o.set? on c).change? on cs

/-- The class of a character as it is taken. -/
def fold (o : Options) (c : CharClass) : CharClass := if o.anyCase then .anyCase c else c

end Options

/-! ## Classes -/

/-- Characters that stand for themselves behind a backslash. -/
def isEscapable (c : Char) : Bool :=
  c.toNat < 128 && !c.isAlphanum && c != '<' && c != '>'

/-- What a backslash and the character behind it stand for. -/
inductive Escaped
  | character (c : Char)
  | members (c : CharClass)

/-- Reads what stands behind a backslash. -/
def readEscaped : Reader Escaped := do
  match ← anyChar with
  | 'd' => return .members .digit
  | 'D' => return .members (.complement .digit)
  | 's' => return .members .blank
  | 'S' => return .members (.complement .blank)
  | 'w' => return .members .word
  | 'W' => return .members (.complement .word)
  | 'a' => return .character '\x07'
  | 'f' => return .character '\x0c'
  | 't' => return .character '\t'
  | 'n' => return .character '\n'
  | 'r' => return .character '\r'
  | 'v' => return .character '\x0b'
  | 'x' => return .character (← readCode 2)
  | 'u' => return .character (← readCode 4)
  | 'U' => return .character (← readCode 8)
  | c => if isEscapable c then return .character c else fail

/-- The classes of ASCII by their names. -/
def namedClasses : List (String × CharClass) :=
  let small : CharClass := .between 'a' 'z'
  let capital : CharClass := .between 'A' 'Z'
  let numeral : CharClass := .between '0' '9'
  let letter : CharClass := .either small capital
  let alphanumeric : CharClass := .either letter numeral
  let shown : CharClass := .between '!' '~'
  [("alnum", alphanumeric), ("alpha", letter), ("ascii", .between '\x00' '\x7f'),
    ("blank", .ofList ['\t', ' ']), ("cntrl", .either (.between '\x00' '\x1f') (.single '\x7f')),
    ("digit", numeral), ("graph", shown), ("lower", small), ("print", .between ' ' '~'),
    ("punct", .without shown alphanumeric),
    ("space", .ofList ['\t', '\n', '\x0b', '\x0c', '\r', ' ']), ("upper", capital),
    ("word", .either alphanumeric (.single '_')),
    ("xdigit", .either numeral (.either (.between 'a' 'f') (.between 'A' 'F')))]

/-- Reads a named class with its brackets and colons. -/
def namedClass (o : Options) : Reader CharClass := do
  text "[:"
  let negated ← option (char '^')
  let name ← takeWhile (· != ':')
  text ":]"
  match namedClasses.lookup (String.ofList name) with
  | some c => return if negated.isSome then .complement (o.fold c) else o.fold c
  | none => fail

/-- Reads a character or a class in a class. -/
def member : Reader Escaped := do
  match ← anyChar with
  | '\\' => readEscaped
  | c => return .character c

/-- Whether a minus in front of `cs` stands for a range. -/
def isRange : List Char → Bool
  | '-' :: c :: _ => c != ']' && c != '-'
  | _ => false

/-- Reads a member of a class, or a range of them. -/
def members (o : Options) : Reader CharClass := do
  let first ← member
  if isRange (← rest) then
    char '-'
    match first, ← member with
    | .character low, .character high =>
      if low ≤ high then return o.fold (.between low high) else fail
    | _, _ => fail
  else
    match first with
    | .character c => return o.fold (.single c)
    | .members c => return o.fold c

/-- Reads a class behind its bracket, at most `bound` members of it. `before` lays what is read on
what stands in front of the last operator, and `found` holds the members behind it. -/
def classMembers (o : Options) (inner : Reader CharClass) (before : CharClass → CharClass)
    (found : CharClass) : Nat → Reader CharClass
  | 0 => fail
  | bound + 1 => do
    match ← rest with
    | ']' :: _ => do
      char ']'
      return before found
    | '&' :: '&' :: _ => do
      text "&&"
      classMembers o inner (.both (before found)) .nothing bound
    | '-' :: '-' :: _ => do
      text "--"
      classMembers o inner (.without (before found)) .nothing bound
    | '~' :: '~' :: _ => do
      text "~~"
      classMembers o inner (.differing (before found)) .nothing bound
    | '[' :: _ => do
      let c ← orElse (namedClass o) inner
      classMembers o inner before (.either found c) bound
    | _ => do
      let c ← members o
      classMembers o inner before (.either found c) bound

/-- Reads a class in brackets, with classes in it nested at most `depth` deep. -/
def readClass (o : Options) : Nat → Reader CharClass
  | 0 => fail
  | depth + 1 => do
    char '['
    let negated ← option (char '^')
    let dashes ← takeWhile (· == '-')
    let bracket ← if dashes.isEmpty then option (char ']') else pure none
    let found := CharClass.ofList (dashes ++ if bracket.isSome then [']'] else [])
    let bound := (← rest).length + 1
    let c ← classMembers o (readClass o depth) id found bound
    return if negated.isSome then .complement c else c

/-! ## Patterns -/

/-- `a` with the marks of repetition behind it. -/
def withMarks (o : Options) : Pattern → List Char → Pattern
  | a, [] => a
  | a, mark :: '?' :: marks => withMarks o (repeatAs mark o.swapped a) marks
  | a, mark :: marks => withMarks o (repeatAs mark (!o.swapped) a) marks
where
  /-- The repetition that a mark stands for. -/
  repeatAs (mark : Char) (eager : Bool) (a : Pattern) : Pattern :=
    if mark = '*' then many eager a
    else if mark = '+' then repeated eager a
    else maybe eager a

/-- Whether a character marks a repetition. -/
def isMark (c : Char) : Bool := c == '*' || c == '+' || c == '?'

/-- Reads a name of a group and the bracket behind it. -/
def groupName : Reader Unit := do
  let _ ← satisfy fun c => c == '_' || isAlphabetic c
  let _ ← takeWhile fun c => c == '_' || c == '.' || c == '[' || c == ']' || isAlphanumeric c
  char '>'

/-- Reads the letters of options, of which there may be none. -/
def readOptions (o : Options) : Reader Options := do
  let letters ← takeWhile fun c => c != ':' && c != ')'
  match o.change? true letters with
  | some changed => return changed
  | none => fail

/-- Reads what begins with a backslash outside of classes. -/
def escapedPattern (o : Options) : Reader Pattern := do
  char '\\'
  match ← peek? with
  | some 'A' => do
    char 'A'
    return start
  | some 'z' => do
    char 'z'
    return finish
  | _ =>
    match ← readEscaped with
    | .character c => return one (o.fold (.single c))
    | .members c => return one (o.fold c)

/-- Reads what marks of repetition may stand behind. `inner` reads the inside of a group. -/
def atom (inner : Options → Reader Pattern) (o : Options) : Reader Pattern := do
  match ← rest with
  | '(' :: '?' :: 'P' :: '<' :: _ => do
    text "(?P<"
    groupName
    group o
  | '(' :: '?' :: '<' :: _ => do
    text "(?<"
    groupName
    group o
  | '(' :: '?' :: _ => do
    text "(?"
    let o ← readOptions o
    char ':'
    group o
  | '(' :: _ => do
    char '('
    group o
  | '[' :: cs => return one (← readClass o (cs.length + 1))
  | '\\' :: _ => escapedPattern o
  | '.' :: _ => do
    char '.'
    return one (if o.acrossLines then .any else .complement (.single '\n'))
  | '^' :: _ => do
    char '^'
    return start
  | '$' :: _ => do
    char '$'
    return finish
  | _ => do
    let c ← satisfy fun c => !isMark c && c != '\x7b'
    return one (o.fold (.single c))
where
  /-- Reads the inside of a group and the bracket behind it. -/
  group (o : Options) : Reader Pattern := do
    let a ← inner o
    char ')'
    return a

/-- Reads a change of options for the rest of a group. -/
def optionChange (o : Options) : Reader Options := do
  text "(?"
  let letters := (← rest).takeWhile (· != ')')
  let o ← readOptions o
  char ')'
  if letters.isEmpty then fail else return o

/-- Reads patterns up to the end of a group, at most `bound` atoms and bars. `before` holds what
stands in front of the last bar, and `found` the atoms behind it. -/
def branches (inner : Options → Reader Pattern) (before : Pattern → Pattern) (found : Pattern) :
    Nat → Options → Reader Pattern
  | 0, _ => fail
  | bound + 1, o => do
    match ← rest with
    | [] => return before found
    | ')' :: _ => return before found
    | '|' :: _ => do
      char '|'
      branches inner (choice (before found)) empty bound o
    | _ =>
      match ← option (optionChange o) with
      | some o => branches inner before found bound o
      | none => do
        let a ← atom inner o
        let marks ← takeWhile isMark
        branches inner before (sequence found (withMarks o a marks)) bound o

/-- Reads a pattern with groups nested at most `depth` deep. -/
def readPattern : Nat → Options → Reader Pattern
  | 0, _ => fail
  | depth + 1, o => do
    branches (readPattern depth) id empty ((← rest).length + 1) o

/-- The pattern that a text spells. -/
def parse? (s : String) : Option Pattern :=
  let cs := s.toList
  (readPattern (cs.length + 1) .standard).run? cs

end FrameWatch.Text.Pattern
