import FrameWatch.Camera.Handle
import FrameWatch.Handler
import FrameWatch.Logging.Line
import FrameWatch.Run.Outcome
import FrameWatch.Run.Phase
import FrameWatch.Run.Settings
import FrameWatch.Time.Brief

/-!
# The record of a run

What a run leaves behind besides its outcome: the calls it made to the camera and the events it
logged, in order, each with its written form. They are part of all the steps of the run, which also
tell how calls were answered, what notifications came to and how waits ended.
-/

namespace FrameWatch

/-- A call to the camera. -/
inductive CameraCall
  | openCamera (name : String)
  | selectMode (camera : Handle) (mode : ExposureMode)
  | configure (camera : Handle) (region : Region) (mode : NegotiatedMode) (exposureMs : Nat)
      (policy : BufferPolicy)
  | register (camera : Handle)
  | start (camera : Handle) (size : Nat)
  | fetch (camera : Handle)
  | abort (camera : Handle)
  | deregister (camera : Handle)
  | close (camera : Handle)
  | lastError
deriving DecidableEq

namespace CameraCall

/-- The call in words. -/
def words : CameraCall → List String
  | openCamera name => ["open", name]
  | selectMode h mode => ["select", toString h.raw, mode.name]
  | configure h region mode exposureMs policy =>
    ["setup", toString h.raw, toString region.width ++ "x" ++ toString region.height,
      toString mode.raw, toString exposureMs, policy.label]
  | register h => ["register", toString h.raw]
  | start h size => ["start", toString h.raw, toString size]
  | fetch h => ["fetch", toString h.raw]
  | abort h => ["abort", toString h.raw]
  | deregister h => ["deregister", toString h.raw]
  | close h => ["close", toString h.raw]
  | lastError => ["last_error"]

/-- The call on one line. -/
def write (c : CameraCall) : String := " ".intercalate ("sdk" :: c.words)

end CameraCall

/-- What a run logs. -/
inductive RunEvent
  | cameraOpened (name : String) (camera : Handle)
  | configured (mode : NegotiatedMode) (frameBytes : Nat)
  | transition (source target : Phase)
  | bufferAllocated (buffer : FrameBuffer)
  | started (targetFrames : Nat) (deadline : Duration) (bufferBytes : Nat)
  | fetchFailed (frame : Nat) (sequence : Int)
  | progress (frames target : Nat)
  | deadlineMissed (frame acquired : Nat) (deadline : Duration)
  | targetReached (frames : Nat)
  | setupFailed (error : SetupError)
  | abortFailed (error : CameraError)
  | deregisterFailed (error : CameraError)
  | contextLeaked
  | bufferReleased (bytes : Nat)
  | bufferLeaked (bytes : Nat)
  | closeFailed (error : CameraError)
  | tornDown
  | gapsDetected (events lost : Nat)
deriving DecidableEq

namespace RunEvent

/-- The part of the program that runs are logged by. -/
def runSource : String := "pvcam_stall_probe::acquisition"

/-- The part of the program that buffers are logged by. -/
def bufferSource : String := "pvcam_stall_probe::circ_buffer"

/-- The part of the program that the simulated camera is logged by. -/
def simulatorSource : String := "pvcam_stall_probe::sdk::mock"

/-- The event as a line of the log. -/
def line : RunEvent → LogLine
  | cameraOpened name camera =>
    ⟨.debug, simulatorSource, "Mock camera opened",
      [("camera", name), ("handle", toString camera.raw)], []⟩
  | configured mode frameBytes =>
    ⟨.info, runSource, "Continuous acquisition configured",
      [("mode", mode.requested.name), ("raw_mode", toString mode.raw),
        ("frame_bytes", toString frameBytes)], []⟩
  | transition source target =>
    ⟨.debug, runSource, "State transition", [("from", source.name), ("to", target.name)], []⟩
  | bufferAllocated buffer =>
    ⟨.debug, bufferSource, "Circular buffer allocated",
      [("bytes", toString buffer.size), ("frames", toString buffer.frames),
        ("frame_bytes", toString buffer.frameBytes)], ["address"]⟩
  | started targetFrames deadline bufferBytes =>
    ⟨.info, runSource, "Continuous acquisition started",
      [("target_frames", toString targetFrames), ("deadline", deadline.brief),
        ("buffer_bytes", toString bufferBytes)], []⟩
  | fetchFailed frame sequence =>
    ⟨.warn, runSource, "Latest-frame fetch failed in callback",
      [("frame", toString frame), ("sequence", toString sequence)], []⟩
  | progress frames target =>
    ⟨.info, runSource, "Acquisition progress",
      [("frames", toString frames), ("target", toString target)], ["interval_ms"]⟩
  | deadlineMissed frame acquired deadline =>
    ⟨.error, runSource, "Frame deadline missed, acquisition stalled",
      [("frame_index", toString frame), ("frames_acquired", toString acquired),
        ("deadline", deadline.brief)], ["since_last_frame"]⟩
  | targetReached frames =>
    ⟨.info, runSource, "Target frame count reached", [("frames", toString frames)], []⟩
  | setupFailed error =>
    ⟨.error, runSource, "Acquisition setup failed",
      [("stage", error.stage.name), ("error", error.describe)], []⟩
  | abortFailed error =>
    ⟨.error, runSource, "Abort failed during teardown", [("error", error.describe)], []⟩
  | deregisterFailed error =>
    ⟨.error, runSource, "Callback deregistration failed during teardown",
      [("error", error.describe)], []⟩
  | contextLeaked =>
    ⟨.error, runSource, "Callback context leaked: the driver may still call it", [], []⟩
  | bufferReleased bytes =>
    ⟨.debug, bufferSource, "Circular buffer released", [("bytes", toString bytes)], []⟩
  | bufferLeaked bytes =>
    ⟨.error, bufferSource, "Circular buffer leaked: acquisition may still be writing to it",
      [("bytes", toString bytes)], ["address"]⟩
  | closeFailed error =>
    ⟨.warn, runSource, "Camera close failed during teardown", [("error", error.describe)], []⟩
  | tornDown => ⟨.debug, runSource, "Session torn down", [], ["summary"]⟩
  | gapsDetected events lost =>
    ⟨.warn, runSource, "Frame gaps detected",
      [("gap_events", toString events), ("lost_frames", toString lost)], []⟩

end RunEvent

/-- One entry of the record. -/
inductive RecordEntry
  | call (c : CameraCall)
  | event (e : RunEvent)
deriving DecidableEq

namespace RecordEntry

/-- The call, if the entry is one. -/
def call? : RecordEntry → Option CameraCall
  | call c => some c
  | event _ => none

/-- The event, if the entry is one. -/
def event? : RecordEntry → Option RunEvent
  | call _ => none
  | event e => some e

/-- The entry on one line. -/
def write : RecordEntry → String
  | call c => c.write
  | event e => e.line.write

end RecordEntry

/-! ### Steps -/

/-- One thing that happens in a run. -/
inductive RunStep
  /-- Something goes into the record. -/
  | noted (e : RecordEntry)
  /-- A call returns, with its error if it failed. -/
  | answered (c : CameraCall) (failure : Option CameraError)
  /-- The handler deals with a frame: how fetching it ended, and what it puts into the mailbox. -/
  | handled (n : Notification) (answer : Fetched) (signalled : Option FrameDescriptor)
  /-- A notification finds no context to be handled in. -/
  | strayed (n : Notification)
  /-- A wait ends, with the frame that it takes. -/
  | waited (taken : Option FrameDescriptor)
deriving DecidableEq

namespace RunStep

/-- What the step leaves in the record. -/
def entry? : RunStep → Option RecordEntry
  | noted e => some e
  | _ => none

end RunStep

/-- The span that a run is logged in. -/
def runSpan (camera : String) (run : Nat) : LogSpan :=
  ⟨RunEvent.runSource, "acquisition", [("camera", .text camera), ("run", .number run)]⟩

/-- The line that opens the record of a run. -/
def spanLine (camera : String) (run : Nat) : String :=
  let span := runSpan camera run
  "SPAN " ++ span.name ++ writeFields span.written

end FrameWatch
