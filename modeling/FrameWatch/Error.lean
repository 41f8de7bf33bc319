import FrameWatch.Run.Outcome
import FrameWatch.Settings.Fault
import FrameWatch.Time.Brief

/-!
# Errors

Everything that can keep the program from a completed run, with the message of each error and the
messages of its causes.
-/

namespace FrameWatch

/-- Why the configuration could not be read. -/
inductive LoadError
  /-- The settings file is no document at all. -/
  | malformed
  | fault (f : Settings.Fault)

/-- The reason as a sentence. -/
def LoadError.describe : LoadError → String
  | malformed => "TOML parse error"
  | fault f => f.describe

/-- What keeps the program from a completed run. -/
inductive ProbeError
  | load (e : LoadError)
  /-- The configuration cannot be used. -/
  | invalid (reason : String)
  | logging (reason : String)
  | setup (e : SetupError)
  | stall (frame acquired : Nat) (deadline : Duration)
  | camera (e : CameraError)
  /-- There is no such backend in this program. -/
  | backendUnavailable (backend : String)

namespace ProbeError

/-- The error as a sentence. -/
def describe : ProbeError → String
  | load e => "Configuration error: " ++ e.describe
  | invalid reason => "Configuration validation error: " ++ reason
  | logging reason => "Failed to initialize logging: " ++ reason
  | setup e => e.describe
  | stall frame acquired deadline =>
    "Stall: no frame within " ++ deadline.brief ++ " while waiting for frame " ++ toString frame
      ++ " (" ++ toString acquired ++ " frames acquired)"
  | camera e => "Camera SDK error: " ++ e.describe
  | backendUnavailable backend => "Backend '" ++ backend ++ "' is not available in this build"

/-- The causes as sentences, the nearest first. -/
def causes : ProbeError → List String
  | load e => [e.describe]
  | setup e => [e.cause.describe]
  | camera e => [e.describe]
  | invalid _ | logging _ | stall .. | backendUnavailable _ => []

end ProbeError

/-- The causes of a failed setup as sentences, the nearest first. -/
def SetupError.causes (e : SetupError) : List String := [e.cause.describe]

/-- The error that a run which did not complete amounts to. -/
def Outcome.error? (o : Outcome) : Option ProbeError :=
  match o.verdict with
  | .completed => none
  | .stalled frame => some (.stall frame o.framesAcquired o.frameDeadline)
  | .setupFailed e _ => some (.setup e)

/-- The outcome of a completed run, and the error of any other. -/
def Outcome.result (o : Outcome) : Except ProbeError Outcome :=
  match o.error? with
  | none => .ok o
  | some e => .error e

end FrameWatch
