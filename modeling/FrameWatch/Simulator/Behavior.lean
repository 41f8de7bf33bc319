import FrameWatch.Camera.Mode
import FrameWatch.Camera.Stage
import FrameWatch.Run.Settings

/-!
# Behaviour of the simulated camera

How the simulated camera differs from one that delivers every frame.
-/

namespace FrameWatch

/-- How the simulated camera behaves. -/
structure SimulatorBehavior where
  /-- The names under which it can be opened. -/
  cameras : List String
  /-- The time from one frame to the next. -/
  frameInterval : Duration
  /-- The number of the last frame. -/
  stopAfter : Option Nat
  /-- Frames that cannot be fetched. -/
  failFetchOn : List Int
  /-- Frames announced without frame data. -/
  nullInfoOn : List Int
  /-- Frames that are taken and never announced. -/
  dropFrames : List Int
  /-- The stage of setup that fails. -/
  failStage : Option SetupStage
  /-- Frames announced and not fetched at which the camera falls silent. -/
  readyQueueDepth : Nat
  /-- The bytes of a frame, if they do not follow from the region. -/
  frameBytes : Option Nat
  /-- The raw value of the camera's default exposure mode. -/
  defaultExposureMode : Int
deriving DecidableEq

/-- The built-in behaviour: one camera that delivers every frame. -/
def SimulatorBehavior.standard : SimulatorBehavior where
  cameras := [RunSettings.standardCamera]
  frameInterval := .ofMillis 10
  stopAfter := none
  failFetchOn := []
  nullInfoOn := []
  dropFrames := []
  failStage := none
  readyQueueDepth := 4
  frameBytes := none
  defaultExposureMode := ExposureMode.internalTrigger

end FrameWatch
