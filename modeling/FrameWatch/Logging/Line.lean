/-!
# Log lines

A log line has a level, the part of the program that it comes from, a message and fields in order.
-/

namespace FrameWatch

/-- How important a log line is. -/
inductive LogLevel
  | trace | debug | info | warn | error
deriving DecidableEq, Repr

namespace LogLevel

/-- The name at the head of a line. -/
def name : LogLevel → String
  | trace => "TRACE"
  | debug => "DEBUG"
  | info => "INFO"
  | warn => "WARN"
  | error => "ERROR"

/-- All levels, from the least important to the most. -/
def all : List LogLevel := [trace, debug, info, warn, error]

/-- The place among all levels. -/
def rank : LogLevel → Nat
  | trace => 0
  | debug => 1
  | info => 2
  | warn => 3
  | error => 4

end LogLevel

/-- A line of the log. -/
structure LogLine where
  level : LogLevel
  /-- The path of the part of the program that writes the line. -/
  source : String
  message : String
  fields : List (String × String)
  /-- The names of further fields, whose values are measured or are addresses of memory, and are not
  kept. -/
  unkept : List String
deriving DecidableEq

/-- The names of all fields; the message is one of them. -/
def LogLine.fieldNames (l : LogLine) : List String := "message" :: l.fields.map (·.1) ++ l.unkept

/-- The value of a field of a span. -/
inductive LogValue
  | text (s : String)
  | number (n : Nat)
deriving DecidableEq, Repr

/-- The value as text. -/
def LogValue.write : LogValue → String
  | text s => s
  | number n => toString n

/-- A piece of work that log lines are written in. -/
structure LogSpan where
  /-- The path of the part of the program that does the work. -/
  source : String
  name : String
  fields : List (String × LogValue)
deriving DecidableEq

namespace LogSpan

/-- How important the beginning and the end of a span are. -/
def level : LogLevel := .info

/-- The fields with their values as text. -/
def written (s : LogSpan) : List (String × String) := s.fields.map fun f => (f.1, f.2.write)

end LogSpan

/-- Fields as they follow a message. -/
def writeFields (fields : List (String × String)) : String :=
  String.join (fields.map fun f => " " ++ f.1 ++ "=" ++ f.2)

/-- The line as text, without its source. -/
def LogLine.write (l : LogLine) : String :=
  l.level.name ++ " " ++ l.message ++ writeFields l.fields

end FrameWatch
