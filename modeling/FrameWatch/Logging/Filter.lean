import FrameWatch.Logging.Directive

/-!
# Log filters

Which log lines are written. A filter is a row of directives. Of those for single lines, the one
that is about the fewest lines decides; those for spans let further lines in their spans pass.
-/

namespace FrameWatch

/-- Which log lines are written. -/
abbrev LogFilter : Type := List Directive

namespace LogFilter

/-- The filter for a level alone. -/
def ofLevel (level : LogLevel) : LogFilter := [.all (some level)]

/-- The filter that a text spells: directives with commas between them. Without any, no line is
written. -/
def ofText? (s : String) : Option LogFilter :=
  ((s.splitOn ",").filter (· != "")).mapM Directive.ofText?

/-- Of the directives for single lines that `isAbout` chooses, the one that is about the fewest
lines, and of several about the same lines the last. -/
def decisive? (filter : LogFilter) (isAbout : Directive → Bool) : Option Directive :=
  (filter.filter fun d => d.isForLines && isAbout d).foldl
    (fun best d => if best.any (·.isNarrower d) then best else some d) none

/-- Whether a line is written wherever it stands. -/
def admits (filter : LogFilter) (l : LogLine) : Bool :=
  (filter.decisive? (·.isAboutLine l)).any (·.threshold.admits l.level)

/-- The directives that are about all lines in a span; one gives way to a later one that is about
the same. -/
def watching (filter : LogFilter) (s : LogSpan) : List Directive :=
  (filter.foldr
    (fun d kept => if kept.any (·.subject == d.subject) then kept else d :: kept) []).filter
    fun d => d.isForSpans && d.isAboutSpan s

/-- Whether a line in a span is written because of the span. -/
def admitsWithin (filter : LogFilter) (s : LogSpan) (l : LogLine) : Bool :=
  (filter.watching s).any fun d => d.valueHolds s && d.threshold.admits l.level

/-- Whether a span is entered: if the directive that decides about its source admits lines of its
level, or if some directive is about the span and any at all admits such lines or asks for a
value. -/
def enters (filter : LogFilter) (s : LogSpan) : Bool :=
  let watched := !(filter.watching s).isEmpty
    && filter.any fun d => d.asksValue || d.threshold.admits LogSpan.level
  let ofSource := filter.decisive? fun d => s.source.startsWith d.source
  watched || ofSource.any (·.threshold.admits LogSpan.level)

end LogFilter

end FrameWatch
