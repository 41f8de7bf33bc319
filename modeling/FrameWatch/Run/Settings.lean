import FrameWatch.Camera.Mode
import FrameWatch.Camera.Region
import FrameWatch.Time.Duration

/-!
# Settings of a run

Everything that a run has to know: which camera, how it is set up, and what counts as success.
-/

namespace FrameWatch

/-- What a run is to do. -/
structure RunSettings where
  /-- The name of the camera. -/
  camera : String
  region : Region
  exposureMode : ExposureMode
  /-- The exposure time in milliseconds. -/
  exposureMs : Nat
  bufferPolicy : BufferPolicy
  /-- Frames that the buffer holds. -/
  bufferFrames : Nat
  /-- The ceiling for the size of the buffer. -/
  bufferLimit : Option Nat
  /-- Frames that make the run a success. -/
  targetFrames : Nat
  /-- How long any single frame may take. -/
  frameDeadline : Duration
  /-- Progress is logged every so many frames, or never if this is zero. -/
  progressEvery : Nat
deriving DecidableEq

namespace RunSettings

/-- The built-in camera name. -/
def standardCamera : String := "PMUSBCam00"

/-- The built-in settings. -/
def standard : RunSettings where
  camera := standardCamera
  region := .standard
  exposureMode := .cameraDefault
  exposureMs := 10
  bufferPolicy := .overwrite
  bufferFrames := 20
  bufferLimit := none
  targetFrames := 200
  frameDeadline := .ofMillis 2000
  progressEvery := 50

end RunSettings

end FrameWatch
