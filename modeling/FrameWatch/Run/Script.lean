import FrameWatch.Run.Runner

/-!
# Scripted cameras

A camera whose answers to the calls of a run are written down in advance, together with the frames
that it announces while some of the calls last and while the run logs events of the loop.
-/

namespace FrameWatch

/-- How the fetch of a scripted frame ends. -/
inductive ScriptedFetch
  /-- The frame lies this far behind the start of the buffer, in machine words that wrap around. -/
  | offset (distance : Int)
  | failed
  | crashed
deriving DecidableEq

/-- A frame of a script. -/
structure ScriptedFrame where
  number : Int
  timestamp : Int
  fetch : ScriptedFetch
  /-- Announced without frame data. -/
  withoutInfo : Bool
  /-- Announced without context. -/
  withoutContext : Bool
deriving DecidableEq

namespace ScriptedFrame

/-- The data that accompany the frame. -/
def info (f : ScriptedFrame) : FrameInfo := ⟨0, f.number, f.timestamp, 0, 0⟩

/-- The announcement of the frame. -/
def notification (f : ScriptedFrame) : Notification :=
  ⟨if f.withoutInfo then none else some f.info, !f.withoutContext⟩

end ScriptedFrame

/-- The answer to a fetch for a buffer at `base`. -/
def ScriptedFetch.answer (base : Nat) : ScriptedFetch → Fetched
  | offset distance => .frame (((base : Int) + distance) % wordBound).toNat
  | failed => .failed ⟨-1, "fetch refused"⟩
  | crashed => .crashed

/-- The answers to the calls of a run. -/
structure ScriptedReplies where
  openCamera : Except CameraError Handle
  /-- The raw exposure mode. -/
  select : Except CameraError Int
  /-- The bytes of a frame. -/
  configure : Except CameraError Nat
  register : Except CameraError Unit
  start : Except CameraError Unit
  abort : Except CameraError Unit
  deregister : Except CameraError Unit
  close : Except CameraError Unit
  /-- Without it, the last error is the one answered last. -/
  lastError : Option CameraError

/-- A scripted camera, and how much of its script is still to come. -/
structure Script where
  replies : ScriptedReplies
  onStart : List ScriptedFrame
  /-- One batch for every event of the loop. -/
  onLog : List (List ScriptedFrame)
  onAbort : List ScriptedFrame
  onDeregister : List ScriptedFrame
  onClose : List ScriptedFrame
  /-- The frames of the current moment. -/
  pending : List ScriptedFrame
  /-- How a fetch ends now. -/
  fetch : ScriptedFetch
  /-- The address of the buffer. -/
  base : Nat
  /-- The error answered last. -/
  failure : CameraError

namespace Script

/-- A fresh script. -/
def ofReplies (replies : ScriptedReplies) (onStart : List ScriptedFrame)
    (onLog : List (List ScriptedFrame)) (onAbort onDeregister onClose : List ScriptedFrame) :
    Script :=
  ⟨replies, onStart, onLog, onAbort, onDeregister, onClose, [], .failed, 0, .noError⟩

/-- Answers a call, and remembers the error if the answer is one. -/
def reply {α : Type} (answer : Except CameraError α) : StateM Script (Except CameraError α) :=
  fun s =>
    match answer with
    | .ok a => (.ok a, s)
    | .error e => (.error e, { s with failure := e })

/-- The frames of a moment become the pending ones. -/
def load (m : Moment) (s : Script) : Script :=
  match m with
  | .before (.start ..) => { s with pending := s.onStart }
  | .before (.abort _) => { s with pending := s.onAbort }
  | .before (.deregister _) => { s with pending := s.onDeregister }
  | .before (.close _) => { s with pending := s.onClose }
  | .logging _ => { s with pending := s.onLog.headD [], onLog := s.onLog.tail }
  | _ => { s with pending := [] }

/-- The next pending frame is announced. -/
def tick (s : Script) : Option Notification × Script :=
  match s.pending with
  | [] => (none, s)
  | f :: rest => (some f.notification, { s with pending := rest, fetch := f.fetch })

/-- The rig of scripted cameras, with buffers from an allocator. -/
def rig (allocator : Allocator) : Rig Script where
  openCamera _ := do reply (← get).replies.openCamera
  logsOpening := false
  selectMode _ mode := do reply ((← get).replies.select.map fun raw => ⟨mode, raw⟩)
  configure _ _ _ _ _ := do reply (← get).replies.configure
  register _ := do reply (← get).replies.register
  start _ _ := do reply (← get).replies.start
  abort _ := do reply (← get).replies.abort
  deregister _ := do reply (← get).replies.deregister
  close _ := do reply (← get).replies.close
  fetch _ := do
    let s ← get
    return s.fetch.answer s.base
  lastError := do
    let s ← get
    return s.replies.lastError.getD s.failure
  reserve bytes := do
    let base := allocator bytes
    modify fun s => { s with base := base.getD 0 }
    return base
  arrivals m := do
    modify (load m)
    return (← get).pending.length
  tick := modifyGet tick
  clock _ := .zero
  date _ := ⟨0, 0⟩

/-- The runs of one runner, each on a script of its own. -/
def runAll (allocator : Allocator) :
    Runner Script → List (Nat × Script) → List (Outcome × RunState Script)
  | _, [] => []
  | runner, (number, script) :: rest =>
    let (outcome, state, runner) := Runner.run (rig allocator) { runner with rig := script } number
    (outcome, state) :: runAll allocator runner rest

end Script

end FrameWatch
