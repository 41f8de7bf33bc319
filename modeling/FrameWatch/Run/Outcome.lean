import FrameWatch.Buffer
import FrameWatch.Camera.Error
import FrameWatch.Camera.Stage
import FrameWatch.Intervals
import FrameWatch.Mailbox
import FrameWatch.Time.Timestamp

/-!
# Outcomes

How a run ended, and everything that was observed on the way.
-/

namespace FrameWatch

/-- Why a step of setup failed. -/
inductive SetupCause
  | camera (e : CameraError)
  | allocation (e : AllocationError)
deriving DecidableEq

/-- The cause as a sentence. -/
def SetupCause.describe : SetupCause → String
  | camera e => e.describe
  | allocation e => e.describe

/-- The step of setup that failed, and why. -/
structure SetupError where
  stage : SetupStage
  cause : SetupCause
deriving DecidableEq

/-- The failure as a sentence. -/
def SetupError.describe (e : SetupError) : String :=
  "setup stage '" ++ e.stage.name ++ "' failed: " ++ e.cause.describe

/-- How a run ended. -/
inductive Verdict
  /-- All frames came in time. -/
  | completed
  /-- Frame number `frame`, counted from 1, did not come in time. -/
  | stalled (frame : Nat)
  /-- Acquisition never ran; `diagnostic` is what the camera itself had to say. -/
  | setupFailed (error : SetupError) (diagnostic : Option CameraError)
deriving DecidableEq

/-- What could not be given back at the end of a run. -/
structure TeardownSummary where
  /-- Acquisition could not be stopped, so the buffer stays allocated. -/
  bufferLeaked : Bool
  /-- The callback could not be removed, so its context stays alive. -/
  contextLeaked : Bool
deriving DecidableEq, Repr

namespace TeardownSummary

/-- Everything was given back. -/
def clean : TeardownSummary := ⟨false, false⟩

/-- Whether everything was given back. -/
def isClean (s : TeardownSummary) : Bool := !s.bufferLeaked && !s.contextLeaked

end TeardownSummary

/-- Everything observed during a run. -/
structure Outcome where
  /-- The number of the run, counted from 1. -/
  run : Nat
  camera : String
  startedAt : Timestamp
  elapsed : Duration
  verdict : Verdict
  framesAcquired : Nat
  /-- Acquired frames that could not be fetched. -/
  degradedFrames : Nat
  targetFrames : Nat
  frameDeadline : Duration
  lastInterval : Option Duration
  intervals : Intervals
  lastFrame : Option FrameDescriptor
  tally : MailboxTally
  /-- Notifications that the callback handled. -/
  callbacks : Nat
  /-- Jumps in the frame number of the hardware. -/
  gapEvents : Nat
  /-- Frame numbers left out in all jumps. -/
  lostFrames : Nat
  teardown : TeardownSummary
deriving DecidableEq

/-- Whether the run reached its target. -/
def Outcome.isCompleted (o : Outcome) : Bool := o.verdict = .completed

end FrameWatch
