import FrameWatch.Logging.Threshold
import FrameWatch.Text.Bytes
import FrameWatch.Text.Pattern.Spelling

/-!
# Directives

A directive is a threshold for some of the log lines: those whose source begins with some text,
those in a span of some name, and those that a field, perhaps with some value, goes along with.
-/

namespace FrameWatch

/-- What is asked of the value of a field. -/
inductive ValueTest
  /-- It is that number. -/
  | number (n : Nat)
  /-- It is a text that the pattern spelled like this matches. -/
  | pattern (spelling : String)
  /-- It is of a kind that no field of a span has. -/
  | other
deriving DecidableEq, Repr

namespace ValueTest

/-- The test that a text spells: for a value that is spelled like a truth value or a number, else
for a pattern. -/
def ofText? (s : String) : Option ValueTest :=
  let cs := s.toList
  if s = "true" ∨ s = "false" then some .other
  else
    match Decimal.natural? cs with
    | some n => some (.number n)
    | none =>
      if (Decimal.real? cs).isSome ∨ Decimal.isSpecial cs then some .other
      else (Text.Pattern.parse? s).map fun _ => .pattern s

/-- Whether a value passes the test. -/
def holds : ValueTest → LogValue → Bool
  | number n, .number m => n = m
  | pattern spelling, .text s => (Text.Pattern.parse? spelling).any (·.accepts s)
  | _, _ => false

end ValueTest

/-- What is asked of the fields of a line or a span: one of that name, perhaps with a value that
passes a test. -/
structure FieldTest where
  name : String
  value : Option ValueTest
deriving DecidableEq, Repr

/-- The test that a text spells: a name, which an equals sign and a value may follow. -/
def FieldTest.ofText? (s : String) : Option FieldTest :=
  match s.splitOn "=" with
  | name :: value :: _ => (ValueTest.ofText? value).map fun test => ⟨name, some test⟩
  | _ => some ⟨s, none⟩

/-- A threshold for some of the log lines. -/
structure Directive where
  /-- What the source begins with. -/
  source : String
  /-- The name of the span. -/
  span : Option String
  field : Option FieldTest
  threshold : Threshold
deriving DecidableEq, Repr

namespace Directive

/-- The directive for all lines. -/
def all (threshold : Threshold) : Directive := ⟨"", none, none, threshold⟩

/-- What the directive is about: all but its threshold. -/
def subject (d : Directive) : String × Option String × Option FieldTest :=
  (d.source, d.span, d.field)

/-- Whether the directive asks for a value. -/
def asksValue (d : Directive) : Bool := d.field.any (·.value.isSome)

/-- Whether the directive can be about single lines, without a look at the span that they stand
in. -/
def isForLines (d : Directive) : Bool := d.span.isNone && !d.asksValue

/-- Whether the directive can be about all lines in a span. -/
def isForSpans (d : Directive) : Bool := d.span.isSome || d.field.isSome

/-- Whether the directive is about a line. -/
def isAboutLine (d : Directive) (l : LogLine) : Bool :=
  l.source.startsWith d.source && d.field.all fun f => l.fieldNames.contains f.name

/-- Whether the directive is about spans like `s`, whatever the values of their fields. -/
def isAboutSpan (d : Directive) (s : LogSpan) : Bool :=
  s.source.startsWith d.source && d.span.all (· == s.name)
    && d.field.all fun f => s.fields.any (·.1 == f.name)

/-- Whether the fields of a span have the value that the directive asks for. -/
def valueHolds (d : Directive) (s : LogSpan) : Bool :=
  d.field.all fun f => f.value.all fun test => (s.fields.lookup f.name).any test.holds

/-- Whether `d` is about fewer lines than `e`, where both are about the same line: its source is
longer, or it asks for a field and the other does not. Two fields are in the order of their
names. -/
def isNarrower (d e : Directive) : Bool :=
  e.source.length < d.source.length
    || (e.source.length = d.source.length
      && match d.field, e.field with
        | some f, some g => g.name < f.name
        | some _, none => true
        | none, _ => false)

end Directive

/-! ## Reading -/

/-- How far the text of a directive has been read. Numbers are the bytes where a piece begins. -/
inductive DirectiveStage
  | start
  /-- In a source, or a threshold without a source. -/
  | source
  /-- Behind the opening bracket. -/
  | span (first : Nat)
  /-- Behind the opening brace. -/
  | field (first : Nat)
  /-- Behind the closing brace. -/
  | braced
  /-- Behind the closing bracket. -/
  | bracketed
  /-- Behind the equals sign. -/
  | threshold (first : Nat)
deriving DecidableEq, Repr

/-- The text of a directive as far as it has been read. -/
structure DirectiveDraft where
  stage : DirectiveStage
  directive : Directive
deriving DecidableEq, Repr

namespace DirectiveDraft

/-- Characters that a source or a threshold may begin with. -/
def isOpener (c : Char) : Bool := Text.isAlphanumeric c || c == '-' || c == ':' || c == '_'

/-- The draft behind one more character, which stands at byte `here`; `entry` is the whole text. -/
def step? (entry : List Char) (d : DirectiveDraft) (here : Nat) (c : Char) :
    Option DirectiveDraft :=
  let piece (first : Nat) : String := String.ofList (Text.slice entry first here)
  match d.stage, c with
  | .start, '[' => some ⟨.span (here + 1), d.directive⟩
  | .start, _ => if isOpener c then some ⟨.source, d.directive⟩ else none
  | .source, '=' => some ⟨.threshold (here + 1), { d.directive with source := piece 0 }⟩
  | .source, '[' => some ⟨.span (here + 1), { d.directive with source := piece 0 }⟩
  | .span first, ']' => some ⟨.bracketed, { d.directive with span := some (piece first) }⟩
  | .span first, '\x7b' =>
    let name := piece first
    some ⟨.field (here + 1),
      { d.directive with span := if name.isEmpty then none else some name }⟩
  | .field first, '\x7d' => do
    let text := piece first
    if text.isEmpty then none
    else some ⟨.braced, { d.directive with field := some (← FieldTest.ofText? text) }⟩
  | .braced, ']' => some ⟨.bracketed, d.directive⟩
  | .bracketed, '=' => some ⟨.threshold (here + 1), d.directive⟩
  | .braced, _ | .bracketed, _ => none
  | .source, _ | .span _, _ | .field _, _ | .threshold _, _ => some d

/-- The draft behind more characters, the first of which stands at byte `here`. -/
def steps? (entry : List Char) : DirectiveDraft → Nat → List Char → Option DirectiveDraft
  | d, _, [] => some d
  | d, here, c :: cs => do steps? entry (← d.step? entry here c) (here + c.utf8Size) cs

/-- The directive of a draft behind the last character. Where no threshold is spelled out, all lines
are written. -/
def finish? (entry : List Char) (d : DirectiveDraft) : Option Directive :=
  match d.stage with
  | .source =>
    let text := String.ofList entry
    match Threshold.ofText? text with
    | some threshold => some (.all threshold)
    | none => some { d.directive with source := text }
  | .threshold first =>
    let text := String.ofList (Text.dropBytes first entry)
    if text.isEmpty then some d.directive
    else (Threshold.ofText? text).map fun t => { d.directive with threshold := t }
  | .bracketed => some d.directive
  | _ => none

end DirectiveDraft

/-- The directive that a text spells: a source, a span with a field, and a threshold, of which only
one need be there. The marks between them are looked for behind the blanks at the front, and the
pieces are cut from the whole text at the same numbers of bytes. -/
def Directive.ofText? (s : String) : Option Directive := do
  let draft : DirectiveDraft := ⟨.start, .all (some .trace)⟩
  (← draft.steps? s.toList 0 (Text.trimList s.toList)).finish? s.toList

end FrameWatch
