import FrameWatch.Power

/-!
# Frames

The data that accompany the end of a frame, and the answer to a request for the latest frame.
-/

namespace FrameWatch

/-- The greatest frame number. -/
def maxFrameNumber : Int := 2 ^ 31 - 1

/-- What the camera tells about a frame. -/
structure FrameInfo where
  /-- The raw handle of the camera. -/
  camera : Int
  /-- The number that the hardware gave the frame; the first one is 1. -/
  number : Int
  /-- When the frame ended, in ticks of the camera. -/
  timestamp : Int
  /-- How long the frame took to read out. -/
  readoutTime : Int
  /-- When the frame began. -/
  began : Int
deriving DecidableEq, Repr

/-- The newest frame in the buffer. -/
structure LatestFrame where
  address : Nat
  info : FrameInfo
deriving DecidableEq, Repr

/-- The end of a frame as the camera announces it. Both parts may be missing. -/
structure Notification where
  info : Option FrameInfo
  hasContext : Bool
deriving DecidableEq, Repr

end FrameWatch
