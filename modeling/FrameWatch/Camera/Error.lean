/-!
# Camera errors

What a camera reports when a call fails.
-/

namespace FrameWatch

/-- The code and message of a failed camera call. -/
structure CameraError where
  code : Int
  message : String
deriving DecidableEq, Repr

namespace CameraError

/-- What a camera reports when no call has failed. -/
def noError : CameraError := ⟨0, "No error"⟩

/-- The error as a sentence. -/
def describe (e : CameraError) : String := "SDK error " ++ toString e.code ++ ": " ++ e.message

end CameraError

end FrameWatch
