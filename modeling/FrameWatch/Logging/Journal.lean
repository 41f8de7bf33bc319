import FrameWatch.Logging.Config
import FrameWatch.Logging.Filter
import FrameWatch.Text.Json

/-!
# The journal

What is really logged: of all lines those that the filter lets through, each with the span that it
stands in, and in one of three written forms.
-/

namespace FrameWatch

/-- A line of the log with the span that it stands in. -/
structure LogEntry where
  line : LogLine
  span : Option LogSpan
deriving DecidableEq

namespace LogEntry

/-- Fields as a JSON object on one line. -/
def objectLine (fields : List (String × String)) : String :=
  "\x7b" ++ ",".intercalate (fields.map fun f => Json.quote f.1 ++ ":" ++ f.2) ++ "\x7d"

/-- The span as a JSON object on one line. -/
def spanObject (s : LogSpan) : String :=
  let value : LogValue → String
    | .text s => Json.quote s
    | .number n => toString n
  objectLine (s.fields.map (fun f => (f.1, value f.2)) ++ [("name", Json.quote s.name)])

/-- The entry as a JSON object on one line. -/
def writeObject (e : LogEntry) : String :=
  objectLine
    ([("level", Json.quote e.line.level.name),
      ("fields", objectLine
        ((("message", e.line.message) :: e.line.fields).map fun f => (f.1, Json.quote f.2))),
      ("target", Json.quote e.line.source)]
    ++ e.span.toList.map fun s => ("span", spanObject s))

/-- The entry on one line, for people. -/
def writeCompact (e : LogEntry) : String :=
  e.line.level.name ++ e.span.elim "" (" " ++ ·.name) ++ ": " ++ e.line.source ++ ": "
    ++ e.line.message ++ writeFields (e.line.fields ++ e.span.elim [] (·.written))

/-- The entry on several lines, for people. -/
def writePretty (e : LogEntry) : String :=
  "  " ++ e.line.level.name ++ " " ++ e.line.source ++ ": " ++ e.line.message
    ++ writeFields e.line.fields
    ++ e.span.elim "" (fun s => "\n    in " ++ s.source ++ "::" ++ s.name ++ writeFields s.written)
    ++ "\n"

/-- The entry in a format. -/
def write (format : LogFormat) (e : LogEntry) : String :=
  match format with
  | .pretty => e.writePretty
  | .compact => e.writeCompact
  | .json => e.writeObject

end LogEntry

/-- Which log lines are written, and how. -/
structure Journal where
  filter : LogFilter
  config : LoggingConfig
deriving DecidableEq

namespace Journal

/-- The journal of a configuration. A filter that is spelled out takes the place of the configured
level, unless it cannot be read. -/
def ofConfig (config : LoggingConfig) (filter : Option String) : Journal :=
  ⟨(filter.bind LogFilter.ofText?).getD (.ofLevel config.level), config⟩

/-- What is written of lines outside every span. -/
def plain (j : Journal) (lines : List LogLine) : List LogEntry :=
  (lines.filter j.filter.admits).map fun l => ⟨l, none⟩

/-- The line at the beginning or the end of a span. -/
def boundary (j : Journal) (span : LogSpan) (message : String) : List LogEntry :=
  if j.config.spanEvents then [⟨⟨LogSpan.level, span.source, message, [], []⟩, some span⟩] else []

/-- What is written of lines inside a span. A span that is not entered leaves its lines outside
every span. -/
def within (j : Journal) (span : LogSpan) (lines : List LogLine) : List LogEntry :=
  if j.filter.enters span then
    let inside := lines.filter fun l => j.filter.admits l || j.filter.admitsWithin span l
    j.boundary span "new" ++ inside.map (fun l => ⟨l, some span⟩) ++ j.boundary span "close"
  else j.plain lines

end Journal

end FrameWatch
