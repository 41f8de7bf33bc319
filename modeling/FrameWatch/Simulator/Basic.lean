import FrameWatch.Camera.Error
import FrameWatch.Camera.Region
import FrameWatch.Simulator.Behavior
import FrameWatch.Simulator.Memory
import FrameWatch.Simulator.Sessions

/-!
# The simulated camera

A camera that opens under its names, delivers numbered frames into the buffer it is given, and
announces each of them until as many are pending as its ready queue holds. How it deviates from that
is set by its behaviour. Every call is counted, and the last error is kept.
-/

namespace FrameWatch

/-- How often each call was made, and what became of frames. -/
structure CallCounts where
  opens : Nat
  closes : Nat
  starts : Nat
  aborts : Nat
  registers : Nat
  deregisters : Nat
  fetches : Nat
  /-- Frames announced, whether or not anybody was registered. -/
  delivered : Nat
  /-- Frame periods that passed because the ready queue was full. -/
  blocked : Nat
deriving DecidableEq, Repr

/-- No call yet. -/
def CallCounts.zero : CallCounts := ⟨0, 0, 0, 0, 0, 0, 0, 0, 0⟩

/-- The simulated camera. -/
structure Simulator where
  behavior : SimulatorBehavior
  /-- How often the camera was opened successfully. -/
  opened : Nat
  sessions : SessionTable
  lastError : CameraError
  counts : CallCounts
  /-- What the camera has written into buffers. -/
  memory : Memory
  /-- Whether an acquisition can be started at all on this machine. -/
  canSpawn : Bool
deriving DecidableEq

/-- An announcement to the callback with that token, with the frame data unless they are missing. -/
structure Announcement where
  token : Nat
  info : Option FrameInfo
deriving DecidableEq, Repr

namespace Simulator

/-- A camera that no call was made to. -/
def fresh (behavior : SimulatorBehavior) (canSpawn : Bool) : Simulator :=
  ⟨behavior, 0, [], .noError, .zero, [], canSpawn⟩

/-- The code of errors that the behaviour asks for. -/
def injectedFailure : Int := 3001

/-- The code of calls with a handle that is not open. -/
def unknownHandle : Int := 3002

/-- The code of fetches without a new frame. -/
def noNewFrame : Int := 3003

/-- The code of fetches that the behaviour makes fail. -/
def fetchFailed : Int := 3004

/-- The code of calls with unsuitable arguments. -/
def invalidArgument : Int := 3005

/-- The code of calls that come out of turn. -/
def invalidState : Int := 3006

/-- An action on the camera. -/
abbrev Action (α : Type) := StateM Simulator α

/-- The answer to a call. -/
abbrev Reply (α : Type) := Except CameraError α

/-- Fails, and keeps the error. -/
def fail {α : Type} (code : Int) (message : String) : Action (Reply α) := fun s =>
  (.error ⟨code, message⟩, { s with lastError := ⟨code, message⟩ })

/-- The failure of a call with a handle that is not open. -/
def failHandle {α : Type} (h : Handle) : Action (Reply α) :=
  fail unknownHandle ("Camera handle " ++ toString h.raw ++ " is not open")

/-- Counts a call. -/
def tally (count : CallCounts → CallCounts) : Action Unit :=
  modify fun s => { s with counts := count s.counts }

/-- The call itself, unless the behaviour makes it fail. -/
def unlessInjected {α : Type} (stage : SetupStage) (call : Action (Reply α)) :
    Action (Reply α) := do
  if (← get).behavior.failStage = some stage then
    fail injectedFailure ("Mock failure injected at " ++ stage.name)
  else call

/-- What is done with the session of an open handle. -/
def withSession {α : Type} (h : Handle) (call : CameraSession → Action (Reply α)) :
    Action (Reply α) := do
  match (← get).sessions.get? h with
  | none => failHandle h
  | some session => call session

/-- Changes the session of a handle. -/
def change (h : Handle) (f : CameraSession → CameraSession) : Action Unit :=
  modify fun s => { s with sessions := s.sessions.modify h f }

/-- The names under which the camera can be opened. -/
def enumerate (s : Simulator) : List String := s.behavior.cameras

/-- Opens the camera. -/
def openCamera (name : String) : Action (Reply Handle) := do
  tally fun c => { c with opens := c.opens + 1 }
  unlessInjected .openDevice do
    let s ← get
    if s.behavior.cameras.contains name then
      let h := Handle.ofCount s.opened
      set { s with opened := s.opened + 1, sessions := s.sessions.insert h .fresh }
      return .ok h
    else fail invalidArgument ("Camera '" ++ name ++ "' not found")

/-- Closes a handle, and with it its acquisition. -/
def close (h : Handle) : Action (Reply Unit) := do
  tally fun c => { c with closes := c.closes + 1 }
  withSession h fun _ => do
    modify fun s => { s with sessions := s.sessions.erase h }
    return .ok ()

/-- Finds the raw value of an exposure mode. -/
def selectMode (h : Handle) (mode : ExposureMode) : Action (Reply NegotiatedMode) :=
  unlessInjected .selectExposureMode do
    withSession h fun _ => do
      return .ok ⟨mode, mode.raw?.getD (← get).behavior.defaultExposureMode⟩

/-- Agrees on the bytes of a frame. -/
def configure (h : Handle) (region : Region) : Action (Reply Nat) :=
  unlessInjected .setupAcquisition do
    if region.isValid then
      withSession h fun _ => do
        let bytes := (← get).behavior.frameBytes.getD region.frameBytes
        change h fun session => { session with frameBytes := some bytes }
        return .ok bytes
    else fail invalidArgument ("Invalid region " ++ region.describe)

/-- Registers the callback with that token. -/
def register (h : Handle) (token : Nat) : Action (Reply Unit) := do
  tally fun c => { c with registers := c.registers + 1 }
  unlessInjected .registerCallback do
    withSession h fun _ => do
      change h fun session => { session with registration := some token }
      return .ok ()

/-- Removes the callback. -/
def deregister (h : Handle) : Action (Reply Unit) := do
  tally fun c => { c with deregisters := c.deregisters + 1 }
  withSession h fun _ => do
    change h fun session => { session with registration := none }
    return .ok ()

/-- The failure of a start whose buffer holds no frame. -/
def failBuffer {α : Type} (size frameBytes : Nat) : Action (Reply α) :=
  fail invalidArgument
    ("Buffer of " ++ toString size ++ " bytes cannot hold a " ++ toString frameBytes
      ++ " byte frame")

/-- Starts an acquisition into `size` bytes at `base`; without a base, there is no buffer. -/
def start (h : Handle) (base : Option Nat) (size : Nat) : Action (Reply Unit) := do
  tally fun c => { c with starts := c.starts + 1 }
  unlessInjected .startAcquisition do
    withSession h fun session => do
      match session.acquisition, session.frameBytes, base with
      | some _, _, _ => fail invalidState "Acquisition already running"
      | none, none, _ => fail invalidState "Continuous acquisition not set up"
      | none, some frameBytes, none => failBuffer size frameBytes
      | none, some frameBytes, some base =>
        if frameBytes = 0 ∨ size < frameBytes then failBuffer size frameBytes
        else
          change h fun session => { session with queue := .empty }
          if (← get).canSpawn then
            change h fun session =>
              { session with acquisition := some ⟨0, base, frameBytes, size / frameBytes⟩ }
            return .ok ()
          else
            fail invalidState
              ("Failed to spawn notification thread: Resource temporarily unavailable "
                ++ "(os error 11)")

/-- Stops the acquisition, if there is one. -/
def abort (h : Handle) : Action (Reply Unit) := do
  tally fun c => { c with aborts := c.aborts + 1 }
  withSession h fun _ => do
    change h fun session => { session with acquisition := none }
    return .ok ()

/-- Fetches the newest frame, if one is pending. -/
def fetch (h : Handle) : Action (Reply LatestFrame) := do
  tally fun c => { c with fetches := c.fetches + 1 }
  withSession h fun session => do
    match session.queue.latest with
    | some latest =>
      if session.queue.pending = 0 then fail noNewFrame "No new frame available"
      else if (← get).behavior.failFetchOn.contains latest.info.number then
        fail fetchFailed ("Injected fetch failure on frame " ++ toString latest.info.number)
      else
        change h fun session => { session with queue := { session.queue with pending := 0 } }
        return .ok latest
    | none => fail noNewFrame "No new frame available"

/-- Whether an acquisition runs for a handle. -/
def isAcquiring (s : Simulator) (h : Handle) : Bool :=
  ((s.sessions.get? h).bind (·.acquisition)).isSome

/-! ### Frames -/

/-- Whether no frame comes after frame `frame`. -/
def isFinished (b : SimulatorBehavior) (frame : Nat) : Bool := b.stopAfter.any (· ≤ frame)

/-- Whether as many frames are pending as the ready queue holds. -/
def isFull (b : SimulatorBehavior) (queue : ReadyQueue) : Bool := b.readyQueueDepth ≤ queue.pending

/-- When the frame ends, in units of a hundred nanoseconds. -/
def timestamp (b : SimulatorBehavior) (frame : Nat) : Int := frame * b.frameInterval.nanos / 100

/-- The data of a frame. -/
def frameInfo (b : SimulatorBehavior) (h : Handle) (frame : Nat) : FrameInfo :=
  ⟨h.raw, frame, timestamp b frame, 0, 0⟩

/-- Frame number `frame` of an acquisition comes, and is announced to whoever is registered. -/
def deliver (h : Handle) (session : CameraSession) (a : Acquisition) (frame : Nat) :
    Action (Option Announcement) := fun s =>
  let info := frameInfo s.behavior h frame
  let address := a.address frame
  let session :=
    { session with
      queue := ⟨session.queue.pending + 1, some ⟨address, info⟩⟩
      acquisition := some { a with frame := frame } }
  let memory := if Stamp.width ≤ a.frameBytes then s.memory.write address frame else s.memory
  let info? := if s.behavior.nullInfoOn.contains (frame : Int) then none else some info
  (session.registration.map fun token => ⟨token, info?⟩,
    { s with
      sessions := s.sessions.modify h fun _ => session
      counts := { s.counts with delivered := s.counts.delivered + 1 }
      memory := memory })

/-- A frame period of a handle passes. -/
def tick (h : Handle) : Action (Option Announcement) := fun s =>
  match s.sessions.get? h with
  | none => (none, s)
  | some session =>
    match session.acquisition with
    | none => (none, s)
    | some a =>
      if isFinished s.behavior a.frame then (none, s)
      else if isFull s.behavior session.queue then
        (none, { s with counts := { s.counts with blocked := s.counts.blocked + 1 } })
      else
        let frame := a.frame + 1
        if s.behavior.dropFrames.contains (frame : Int) then
          (none,
            { s with
              sessions :=
                s.sessions.modify h fun _ =>
                  { session with acquisition := some { a with frame := frame } } })
        else deliver h session a frame s

/-- Whether an acquisition runs that waits for a fetch before it goes on. -/
def isBlocked (s : Simulator) (h : Handle) : Bool :=
  match s.sessions.get? h with
  | none => false
  | some session =>
    match session.acquisition with
    | none => false
    | some a => !isFinished s.behavior a.frame && isFull s.behavior session.queue

/-- Whether no period brings a new frame: nothing runs, the last frame has come, or the ready queue
is full. -/
def isSilent (s : Simulator) (h : Handle) : Bool :=
  match (s.sessions.get? h).bind (·.acquisition) with
  | none => true
  | some a => isFinished s.behavior a.frame || s.isBlocked h

/-- How many of the next `bound` periods pass until a frame is announced with its data, if one
is. -/
def signalAfter? (h : Handle) : Nat → Simulator → Option Nat
  | 0, _ => none
  | bound + 1, s =>
    match tick h s with
    | (some ⟨_, some _⟩, _) => some 1
    | (_, s) => (signalAfter? h bound s).map (· + 1)

/-- After so many periods without a frame announced with its data, the camera has fallen silent. -/
def quietBound (b : SimulatorBehavior) : Nat := b.dropFrames.length + b.nullInfoOn.length + 1

/-- The greatest frame number that the behaviour names. -/
def lastNamed (b : SimulatorBehavior) : Nat :=
  (b.dropFrames ++ b.nullInfoOn ++ b.failFetchOn).foldl (fun n frame => max n frame.toNat) 0

/-- After so many periods the camera has fallen silent, if it ever does. -/
def silenceBound (b : SimulatorBehavior) : Nat :=
  b.stopAfter.getD (b.readyQueueDepth + b.dropFrames.length + lastNamed b)

end Simulator

end FrameWatch
