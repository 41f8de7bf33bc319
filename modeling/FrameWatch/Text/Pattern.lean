import FrameWatch.Text.Alphabetic
import FrameWatch.Text.Blank

/-!
# Patterns

Regular expressions over characters. Where several ways to match a text are open, they are in an
order of preference, and a way that comes to its end cuts off every one behind it; a pattern matches
a text if one of the remaining ways ends where the text does.
-/

namespace FrameWatch.Text

/-- A class of characters. -/
inductive CharClass
  | nothing
  | between (low high : Char)
  | digit
  | blank
  | word
  | either (a b : CharClass)
  | both (a b : CharClass)
  | complement (a : CharClass)
  /-- Letters of ASCII count as well in the other case. -/
  | anyCase (a : CharClass)
deriving DecidableEq, Repr

namespace CharClass

/-- Whether a character is in the class. -/
def contains : CharClass → Char → Bool
  | nothing, _ => false
  | between low high, c => low ≤ c && c ≤ high
  | digit, c => isDecimalDigit c
  | blank, c => isBlank c
  | word, c => isWordPart c
  | either a b, c => a.contains c || b.contains c
  | both a b, c => a.contains c && b.contains c
  | complement a, c => !a.contains c
  | anyCase a, c => a.contains c || a.contains c.toLower || a.contains c.toUpper

/-- One character alone. -/
def single (c : Char) : CharClass := between c c

/-- All characters. -/
def any : CharClass := complement nothing

/-- The characters of a list. -/
def ofList (cs : List Char) : CharClass := cs.foldr (fun c rest => either (single c) rest) nothing

/-- The characters of one class that are not in another. -/
def without (a b : CharClass) : CharClass := both a (complement b)

/-- The characters of just one of two classes. -/
def differing (a b : CharClass) : CharClass := either (without a b) (without b a)

end CharClass

/-- A pattern for texts. -/
inductive Pattern
  | empty
  /-- Matches where the text begins. -/
  | start
  /-- Matches where the text ends. -/
  | finish
  | one (c : CharClass)
  | sequence (a b : Pattern)
  /-- The first pattern is preferred. -/
  | choice (a b : Pattern)
  /-- At least once, preferably often if `eager`, else seldom. -/
  | repeated (eager : Bool) (a : Pattern)
  /-- Any number of further times, none of which is empty. -/
  | further (eager : Bool) (a : Pattern)
deriving DecidableEq, Repr

namespace Pattern

/-- The next thing on a way through a pattern. -/
inductive Step
  /-- The way ends here. -/
  | stop
  /-- A character of a class comes next, and then what matches all patterns of a list. -/
  | take (c : CharClass) (rest : List Pattern)
deriving DecidableEq, Repr

/-- The steps through what begins with a step and goes on with `rest`; `ended` are the steps where
nothing comes before it. -/
def Step.andThen (rest : List Pattern) (ended : List Step) : Step → List Step
  | .stop => ended
  | .take c inner => [.take c (inner ++ rest)]

/-- Whether a step takes a character. -/
def Step.takes : Step → Bool
  | .stop => false
  | .take .. => true

/-- The first steps of all ways through a pattern, in their order of preference, at a place that may
be the beginning or the end of the text. -/
def steps (atStart atEnd : Bool) : Pattern → List Step
  | empty => [.stop]
  | start => if atStart then [.stop] else []
  | finish => if atEnd then [.stop] else []
  | one c => [.take c []]
  | sequence a b =>
    ((a.steps atStart atEnd).flatMap (Step.andThen [b] (b.steps atStart atEnd))).eraseDups
  | choice a b => (a.steps atStart atEnd ++ b.steps atStart atEnd).eraseDups
  | repeated eager a => (a.steps atStart atEnd).flatMap (Step.andThen [further eager a] [.stop])
  | further eager a =>
    let again := (a.steps atStart atEnd).flatMap (Step.andThen [further eager a] [])
    if eager then again ++ [.stop] else .stop :: again

/-- The first steps of all ways through patterns one behind the other. -/
def stepsOf (atStart atEnd : Bool) : List Pattern → List Step
  | [] => [.stop]
  | a :: rest =>
    (a.steps atStart atEnd).flatMap (Step.andThen rest (stepsOf atStart atEnd rest))

/-- What is left of ways through patterns when the next character is `c`: a way that stops cuts off
those behind it. -/
def advance (atStart : Bool) (c : Char) (ways : List (List Pattern)) : List (List Pattern) :=
  (((ways.flatMap (stepsOf atStart false)).takeWhile Step.takes).filterMap fun
    | .take wanted rest => if wanted.contains c then some rest else none
    | .stop => none).eraseDups

/-- Whether one of the open ways ends where the text does. -/
def endsWithin : Bool → List (List Pattern) → List Char → Bool
  | atStart, ways, [] => (ways.flatMap (stepsOf atStart true)).contains .stop
  | atStart, ways, c :: cs => endsWithin false (advance atStart c ways) cs

/-- Whether the pattern matches the whole of a text. -/
def accepts (p : Pattern) (s : String) : Bool := endsWithin true [[p]] s.toList

/-- Once or not at all. -/
def maybe (eager : Bool) (a : Pattern) : Pattern :=
  if eager then choice a empty else choice empty a

/-- Any number of times. -/
def many (eager : Bool) (a : Pattern) : Pattern := maybe eager (repeated eager a)

end Pattern

end FrameWatch.Text
