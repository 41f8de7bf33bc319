import FrameWatch.Run.Record

/-!
# Rigs

A camera as a run sees it: what it answers to each call, and when it announces frames. Everything
about a rig is a function of its own state `σ`, so a statement about all rigs is a statement about
every camera, every assignment of answers and every arrival of frames.

Notifications arrive at moments. A run knows the moments before a call takes effect, after it has
taken effect but before it returns, while the run waits for a frame, and while it logs an event of
the loop.
-/

namespace FrameWatch

/-- A moment of a run at which the camera may announce frames. -/
inductive Moment
  /-- The call is made and has had no effect yet. -/
  | before (c : CameraCall)
  /-- The call has had its effect and has not returned yet. -/
  | after (c : CameraCall)
  /-- The run waits for a frame, for at most so long. -/
  | waiting (deadline : Duration)
  /-- The run logs an event. -/
  | logging (e : RunEvent)
deriving DecidableEq

/-- A camera with its surroundings, in states from `σ`. -/
structure Rig (σ : Type) where
  openCamera : String → StateM σ (Except CameraError Handle)
  /-- Whether the camera logs that it has been opened. -/
  logsOpening : Bool
  /-- The raw value that the camera takes for an exposure mode. -/
  selectMode : Handle → ExposureMode → StateM σ (Except CameraError NegotiatedMode)
  /-- Prepares continuous acquisition and tells the bytes of a frame. -/
  configure :
    Handle → Region → NegotiatedMode → Nat → BufferPolicy → StateM σ (Except CameraError Nat)
  register : Handle → StateM σ (Except CameraError Unit)
  start : Handle → FrameBuffer → StateM σ (Except CameraError Unit)
  abort : Handle → StateM σ (Except CameraError Unit)
  deregister : Handle → StateM σ (Except CameraError Unit)
  close : Handle → StateM σ (Except CameraError Unit)
  fetch : Handle → StateM σ Fetched
  lastError : StateM σ CameraError
  /-- Memory for a buffer: the address of a fresh block of so many bytes, if there is one. -/
  reserve : Nat → StateM σ (Option Nat)
  /-- How often the camera comes to its next frame at a moment. -/
  arrivals : Moment → StateM σ Nat
  /-- The camera comes to its next frame, and announces it or not. -/
  tick : StateM σ (Option Notification)
  /-- The reading of a clock that only goes forward. -/
  clock : σ → Duration
  /-- Date and time. -/
  date : σ → Timestamp

end FrameWatch
