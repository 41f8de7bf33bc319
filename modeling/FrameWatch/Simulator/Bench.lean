import FrameWatch.Handler
import FrameWatch.Simulator.Basic

/-!
# The bench

A bench makes calls to the simulated camera one by one. It has buffers of its own, and callbacks
that either fetch every frame and fill one mailbox or do nothing. Frames come only while the bench
waits for the camera to fall silent.
-/

namespace FrameWatch

/-- A bench with a simulated camera on it. -/
structure Bench where
  camera : Simulator
  buffers : List FrameBuffer
  /-- The handlers of all callbacks registered so far; `none` for one that does nothing. -/
  handlers : List (Option Handler)
  mailbox : Mailbox
  /-- Handles whose frames have not been waited for since they were started. -/
  unsettled : List Handle
deriving DecidableEq

namespace Bench

/-- A bench on which nothing has happened. -/
def fresh (behavior : SimulatorBehavior) (canSpawn : Bool) : Bench :=
  ⟨.fresh behavior canSpawn, [], [], .empty, []⟩

/-- An action on the bench. -/
abbrev Action (α : Type) := StateM Bench α

/-- A call to the camera. -/
def ask {α : Type} (call : Simulator.Action α) : Action α := fun b =>
  let (answer, camera) := call b.camera
  (answer, { b with camera := camera })

/-- The first address behind all buffers, rounded up to a page. -/
def nextBase (b : Bench) : Nat :=
  b.buffers.foldl
    (fun base buffer =>
      base + (buffer.size + FrameBuffer.alignment - 1) / FrameBuffer.alignment
        * FrameBuffer.alignment)
    FrameBuffer.alignment

/-- Allocates one more buffer, of less than `limit` bytes, and tells its place among all buffers. -/
def allocate (limit frameBytes frames : Nat) : Action (Except AllocationError Nat) := fun b =>
  let base := b.nextBase
  match FrameBuffer.allocate (fun size => if size < limit then some base else none) frameBytes
      frames none with
  | .ok buffer => (.ok b.buffers.length, { b with buffers := b.buffers ++ [buffer] })
  | .error e => (.error e, b)

/-- Registers a callback: one that fetches frames into a buffer, or one that does nothing. -/
def register (h : Handle) (buffer : Option FrameBuffer) : Action (Except CameraError Unit) := do
  let token := (← get).handlers.length
  modify fun b => { b with handlers := b.handlers ++ [buffer.map (Handler.ofBuffer h)] }
  ask (Simulator.register h token)

/-- Starts an acquisition. -/
def start (h : Handle) (base : Option Nat) (size : Nat) : Action (Except CameraError Unit) := do
  match ← ask (Simulator.start h base size) with
  | .ok () =>
    modify fun b => { b with unsettled := h :: b.unsettled }
    return .ok ()
  | .error e => return .error e

/-- Frames of a handle need not be waited for any more. -/
def settle (h : Handle) : Action Unit :=
  modify fun b => { b with unsettled := b.unsettled.filter (· != h) }

/-- Stops an acquisition. -/
def abort (h : Handle) : Action (Except CameraError Unit) := do
  settle h
  ask (Simulator.abort h)

/-- Closes a handle. -/
def close (h : Handle) : Action (Except CameraError Unit) := do
  settle h
  ask (Simulator.close h)

/-- Fetches a frame for a handler. -/
def fetchFor (h : Handle) : Action Fetched := do
  match ← ask (Simulator.fetch h) with
  | .ok latest => return .frame latest.address
  | .error e => return .failed e

/-- Hands an announcement to the callback that it is for. -/
def receive (a : Announcement) : Action Unit := fun b =>
  match b.handlers[a.token]? with
  | some (some handler) =>
    let (r, b) := Receiver.receive (fetchFor handler.camera) ⟨a.info, true⟩ ⟨handler, b.mailbox⟩ b
    ((), { b with mailbox := r.mailbox, handlers := b.handlers.set a.token (some r.handler) })
  | _ => ((), b)

/-- Lets frame periods pass until a handle has fallen silent, at most `bound` of them. -/
def run (h : Handle) : Nat → Action Unit
  | 0 => pure ()
  | bound + 1 => do
    if (← get).camera.isSilent h then pure ()
    else
      match ← ask (Simulator.tick h) with
      | some a => receive a
      | none => pure ()
      run h bound

/-- The handles with a running acquisition. -/
def acquiring (b : Bench) : List Handle :=
  ((b.camera.sessions.filter fun e => e.2.acquisition.isSome).map (·.1)).filter
    b.camera.isAcquiring

/-- What is known after the camera has fallen silent. -/
structure Silence where
  /-- Frames announced so far. -/
  delivered : Nat
  /-- Whether an acquisition waits for a fetch. -/
  blocked : Bool
deriving DecidableEq, Repr

/-- Waits until all acquisitions have fallen silent. -/
def await : Action Silence := do
  let b ← get
  b.acquiring.forM fun h => run h (Simulator.silenceBound b.camera.behavior)
  modify fun b => { b with unsettled := [] }
  let b ← get
  return ⟨b.camera.counts.delivered, b.acquiring.any b.camera.isBlocked⟩

/-- Fetches a frame. While an acquisition runs, the fetch may let it go on, which is waited for. -/
def fetch (h : Handle) : Action (Except CameraError (LatestFrame × Option Silence)) := do
  match ← ask (Simulator.fetch h) with
  | .error e => return .error e
  | .ok latest =>
    if (← get).acquiring.isEmpty then return .ok (latest, none)
    else return .ok (latest, some (← await))

/-- What the handlers have counted, in the order of their registration. -/
def counters (b : Bench) : List HandlerCounters :=
  b.handlers.filterMap fun h => h.map (·.counters)

/-- Fetches so far, unless some may be going on. -/
def fetches? (b : Bench) : Option Nat :=
  if b.unsettled.isEmpty then some b.camera.counts.fetches else none

/-- The words at the start of every whole `step` bytes of a buffer. -/
def stamps (b : Bench) (buffer : FrameBuffer) (step : Nat) : List Int :=
  (List.range (buffer.size / step)).map fun i => b.camera.memory.word (buffer.base + i * step)

end Bench

end FrameWatch
