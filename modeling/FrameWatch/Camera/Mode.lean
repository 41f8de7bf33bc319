/-!
# Exposure modes and buffer policies

What is asked of the camera before a continuous acquisition, with the names and the raw values that
stand for it.
-/

namespace FrameWatch

/-- The exposure and trigger modes that can be asked for. -/
inductive ExposureMode
  /-- The mode that the camera names as its default. -/
  | cameraDefault
  /-- Free running with a fixed exposure time. -/
  | timed
  /-- Internal trigger, exposure signalled on the first row. -/
  | internalFirstRow
  /-- Internal trigger, exposure signalled by the rolling shutter. -/
  | internalRollingShutter
deriving DecidableEq, Repr

namespace ExposureMode

/-- The raw value of the internal trigger. -/
def internalTrigger : Int := 7 * 256

/-- Added to a trigger: exposure is signalled by the rolling shutter. -/
def rollingShutter : Int := 3

/-- The name in settings, reports and logs. -/
def name : ExposureMode → String
  | cameraDefault => "camera_default"
  | timed => "timed"
  | internalFirstRow => "internal_first_row"
  | internalRollingShutter => "internal_rolling_shutter"

/-- All modes, in the order of their documentation. -/
def all : List ExposureMode := [cameraDefault, timed, internalFirstRow, internalRollingShutter]

/-- The raw value, unless the camera has to be asked for it. -/
def raw? : ExposureMode → Option Int
  | cameraDefault => none
  | timed => some 0
  | internalFirstRow => some internalTrigger
  | internalRollingShutter => some (internalTrigger + rollingShutter)

end ExposureMode

/-- An exposure mode with the raw value that was agreed for it. -/
structure NegotiatedMode where
  requested : ExposureMode
  raw : Int
deriving DecidableEq, Repr

/-- What the camera does when the buffer is full. -/
inductive BufferPolicy
  /-- The oldest frame is overwritten. -/
  | overwrite
  /-- Acquisition waits for room. -/
  | noOverwrite
deriving DecidableEq, Repr

namespace BufferPolicy

/-- The name in settings. -/
def name : BufferPolicy → String
  | overwrite => "overwrite"
  | noOverwrite => "no_overwrite"

/-- The name in traces of camera calls. -/
def label : BufferPolicy → String
  | overwrite => "Overwrite"
  | noOverwrite => "NoOverwrite"

/-- All policies. -/
def all : List BufferPolicy := [overwrite, noOverwrite]

end BufferPolicy

end FrameWatch
