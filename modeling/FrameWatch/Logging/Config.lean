import FrameWatch.Error
import FrameWatch.Logging.Line
import FrameWatch.Settings.Validity

/-!
# Logging configuration

How log lines are filtered and written, and how logging is set up once for the whole program.
-/

namespace FrameWatch

namespace LogLevel

/-- The level of that name, in letters of any case. -/
def ofName? (name : String) : Option LogLevel :=
  all.find? fun l => Text.lowerAscii l.name == Text.lowerAscii name

/-- The names of all levels. -/
def names : String := ", ".intercalate (all.map fun l => Text.lowerAscii l.name)

end LogLevel

/-- How log lines are filtered and written. -/
structure LoggingConfig where
  /-- The least important level that is written. -/
  level : LogLevel
  format : LogFormat
  /-- Whether lines are written where spans begin and end. -/
  spanEvents : Bool
  /-- Whether lines name their place in the program. -/
  fileAndLine : Bool
  /-- Whether lines name their thread. -/
  threadNames : Bool
  /-- Whether lines are coloured. -/
  ansi : Bool
deriving DecidableEq, Repr

namespace LoggingConfig

/-- The built-in configuration with a level of its own. -/
def ofLevel (level : LogLevel) : LoggingConfig := ⟨level, .pretty, true, false, true, true⟩

/-- The level of that name. -/
def readLevel (name : String) : Except ProbeError LogLevel :=
  match LogLevel.ofName? name with
  | some level => .ok level
  | none =>
    .error (.invalid ("Invalid log level '" ++ name ++ "'. Must be one of: " ++ LogLevel.names))

/-- The configuration for the program's settings. -/
def ofConfig (c : Settings.Config) : Except ProbeError LoggingConfig := do
  let level ← readLevel c.application.logLevel
  return { ofLevel level with format := c.application.logFormat }

/-- The configuration with another format. -/
def withFormat (c : LoggingConfig) (format : LogFormat) : LoggingConfig :=
  { c with format := format }

/-- The configuration with or without lines where spans begin and end. -/
def withSpanEvents (c : LoggingConfig) (enabled : Bool) : LoggingConfig :=
  { c with spanEvents := enabled }

/-- The configuration with or without colours. -/
def withAnsi (c : LoggingConfig) (enabled : Bool) : LoggingConfig := { c with ansi := enabled }

end LoggingConfig

/-- What has been set up for logging in the program. -/
structure LoggingState where
  /-- How log lines are written, once that has been settled. -/
  installed : Option LoggingConfig
  /-- The older logging interface has been taken by somebody else. -/
  bridgeTaken : Bool
deriving DecidableEq, Repr

namespace LoggingState

/-- Sets up logging, once: any later attempt changes nothing and succeeds. The first one fails if it
cannot take the older interface, and has settled how log lines are written all the same. -/
def install (s : LoggingState) (c : LoggingConfig) : Except ProbeError Unit × LoggingState :=
  match s.installed with
  | some _ => (.ok (), s)
  | none =>
    if s.bridgeTaken then
      (.error (.logging
        "attempted to set a logger after the logging system was already initialized"),
        { s with installed := some c })
    else (.ok (), ⟨some c, true⟩)

/-- Sets up logging for the program's settings, adjusted by `adjust`. -/
def installFor (s : LoggingState) (c : Settings.Config) (adjust : LoggingConfig → LoggingConfig) :
    Except ProbeError Unit × LoggingState :=
  match LoggingConfig.ofConfig c with
  | .error e => (.error e, s)
  | .ok logging => s.install (adjust logging)

end LoggingState

end FrameWatch
