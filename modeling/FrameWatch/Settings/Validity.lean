import FrameWatch.Settings.Config
import FrameWatch.Text.Blank

/-!
# Valid configurations

The conditions on a configuration that no single value can be checked for, in the order in which
they are checked. Conditions on the simulated camera count only where it is used.
-/

namespace FrameWatch

namespace Settings

/-- The names of the log levels that may be asked for, in small letters. -/
def logLevelNames : List String := ["trace", "debug", "info", "warn", "error"]

/-- Why a configuration cannot be used. -/
inductive Invalid
  | logLevel (name : String)
  | emptyCameraName
  | region (r : Region)
  | noTargetFrames
  | noFrameDeadline
  | noBufferFrames
  | noBufferLimit
  | noRuns
  | noFrameInterval
  | noReadyQueue
  | unknownCamera (name : String) (cameras : List String)
deriving DecidableEq

namespace Invalid

/-- The reason as a sentence. -/
def describe : Invalid → String
  | logLevel name =>
    "Invalid log_level '" ++ name ++ "'. Must be one of: " ++ ", ".intercalate logLevelNames
  | emptyCameraName => "camera.name must not be empty"
  | region r =>
    "Invalid camera.region " ++ r.describe ++ ": bounds must be ordered and binning non-zero"
  | noTargetFrames => "acquisition.target_frames must be at least 1"
  | noFrameDeadline => "acquisition.frame_deadline must be non-zero"
  | noBufferFrames => "acquisition.buffer_frames must be at least 1"
  | noBufferLimit => "acquisition.buffer_limit_bytes must be non-zero when set"
  | noRuns => "acquisition.runs must be at least 1"
  | noFrameInterval => "mock.frame_interval must be non-zero"
  | noReadyQueue => "mock.ready_queue_depth must be at least 1"
  | unknownCamera name cameras =>
    "camera.name '" ++ name ++ "' is not one of the mock cameras: " ++ ", ".intercalate cameras

end Invalid

namespace Config

/-- Why the settings of all backends cannot be used. -/
def invalidity? (c : Config) : Option Invalid :=
  if !logLevelNames.contains (Text.lowerAscii c.application.logLevel) then
    some (.logLevel c.application.logLevel)
  else if Text.isBlankText c.camera.name then some .emptyCameraName
  else if !c.camera.region.isValid then some (.region c.camera.region)
  else if c.acquisition.targetFrames = 0 then some .noTargetFrames
  else if c.acquisition.frameDeadline.isZero then some .noFrameDeadline
  else if c.acquisition.bufferFrames = 0 then some .noBufferFrames
  else if c.acquisition.bufferLimit = some 0 then some .noBufferLimit
  else if c.acquisition.runs = 0 then some .noRuns
  else none

/-- Why the settings of the simulated camera cannot be used. -/
def simulatorInvalidity? (c : Config) : Option Invalid :=
  if c.simulator.frameInterval.isZero then some .noFrameInterval
  else if c.simulator.readyQueueDepth = 0 then some .noReadyQueue
  else if !c.simulator.cameras.contains c.camera.name then
    some (.unknownCamera c.camera.name c.simulator.cameras)
  else none

/-- Refuses a configuration that cannot be used. -/
def validate (c : Config) : Except Invalid Unit :=
  match c.invalidity? with
  | some reason => .error reason
  | none =>
    match c.camera.backend with
    | .pvcam => .ok ()
    | .mock =>
      match c.simulatorInvalidity? with
      | some reason => .error reason
      | none => .ok ()

end Config

end Settings

end FrameWatch
