import FrameWatch.Run.Runner
import FrameWatch.Simulator.Basic

/-!
# Runs on the simulated camera

The rig of the simulated camera. When its frames come is set by a pace; every pace is one way in
which the camera's notifications and the run may interleave. Some calls can be made to fail on the
way to the camera.
-/

namespace FrameWatch

/-- Calls that fail on their way to the camera. -/
structure SimulatorFaults where
  /-- Aborting fails, and the camera hears nothing of it. -/
  abort : Bool
  /-- Deregistering fails, and the camera hears nothing of it. -/
  deregister : Bool
  /-- Closing fails after the camera has closed. -/
  close : Bool
deriving DecidableEq, Repr

/-- No call fails. -/
def SimulatorFaults.none : SimulatorFaults := ⟨false, false, false⟩

/-- The simulated camera as a run uses it. -/
structure Simulation where
  camera : Simulator
  faults : SimulatorFaults
  /-- The handle of the run. -/
  handle : Option Handle
  /-- Date and time when the clock stood at zero. -/
  epoch : Timestamp
  /-- The time that has passed. -/
  clock : Duration
  /-- How many moments have come. -/
  moments : Nat
  /-- Whether an acquisition still ran, each time the camera was closed. -/
  acquiringAtClose : List Bool
deriving DecidableEq

/-- How many frame periods pass at a moment, and how much time with them. As it may depend on how
many moments have come, every sequence of such numbers is a pace. -/
abbrev Pace : Type := Moment → Simulation → Nat × Duration

namespace Simulation

/-- The simulation before its first run. -/
def fresh (camera : Simulator) (faults : SimulatorFaults) (epoch : Timestamp) : Simulation :=
  ⟨camera, faults, none, epoch, .zero, 0, []⟩

/-- A call to the camera. -/
def ask {α : Type} (call : Simulator.Action α) : StateM Simulation α := fun s =>
  let (answer, camera) := call s.camera
  (answer, { s with camera := camera })

/-- A call that fails on its way where `fault` says so. -/
def unlessFaulty (fault : SimulatorFaults → Bool) (message : String)
    (call : Simulator.Action (Simulator.Reply Unit)) :
    StateM Simulation (Except CameraError Unit) := do
  if fault (← get).faults then return .error ⟨-1, message⟩ else ask call

/-- Opens the camera, and keeps its handle. -/
def openCamera (name : String) : StateM Simulation (Except CameraError Handle) := do
  let answer ← ask (Simulator.openCamera name)
  match answer with
  | .ok h => modify fun s => { s with handle := some h }
  | .error _ => pure ()
  return answer

/-- Closes the camera. -/
def close (h : Handle) : StateM Simulation (Except CameraError Unit) := do
  modify fun s => { s with acquiringAtClose := s.acquiringAtClose ++ [s.camera.isAcquiring h] }
  let answer ← ask (Simulator.close h)
  if (← get).faults.close then return .error ⟨-1, "close refused"⟩ else return answer

/-- Fetches the newest frame. -/
def fetch (h : Handle) : StateM Simulation Fetched := do
  match ← ask (Simulator.fetch h) with
  | .ok latest => return .frame latest.address
  | .error e => return .failed e

/-- A frame period of the camera passes. -/
def tick : StateM Simulation (Option Notification) := do
  match (← get).handle with
  | none => return none
  | some h =>
    let announced ← ask (Simulator.tick h)
    return announced.map fun a => ⟨a.info, true⟩

/-- The periods of a moment begin. -/
def arrive (pace : Pace) (m : Moment) : StateM Simulation Nat := fun s =>
  let (ticks, elapsed) := pace m s
  (ticks, { s with clock := s.clock.add elapsed, moments := s.moments + 1 })

/-- The rig of the simulated camera, with buffers from an allocator. -/
def rig (pace : Pace) (allocator : Allocator) : Rig Simulation where
  openCamera := openCamera
  logsOpening := true
  selectMode h mode := ask (Simulator.selectMode h mode)
  configure h region _ _ _ := ask (Simulator.configure h region)
  register h := ask (Simulator.register h 0)
  start h buffer := ask (Simulator.start h (some buffer.base) buffer.size)
  abort h := unlessFaulty (·.abort) "abort refused" (Simulator.abort h)
  deregister h := unlessFaulty (·.deregister) "deregister refused" (Simulator.deregister h)
  close := close
  fetch := fetch
  lastError := do return (← get).camera.lastError
  reserve bytes := do
    match allocator bytes with
    | none => return none
    | some base =>
      modify fun s =>
        { s with camera := { s.camera with memory := s.camera.memory.clear base bytes } }
      return some base
  arrivals := arrive pace
  tick := tick
  clock s := s.clock
  date s := s.epoch.after s.clock

/-! ### Paces -/

/-- Periods until the camera announces a frame with its data, if it ever does. -/
def signalAfter? (s : Simulation) : Option Nat := do
  Simulator.signalAfter? (← s.handle) (Simulator.quietBound s.camera.behavior) s.camera

/-- Periods until the camera announces a frame with its data or has fallen silent. -/
def periodsToSettle (s : Simulation) : Nat :=
  s.signalAfter?.getD (Simulator.quietBound s.camera.behavior)

/-- The camera and the run take turns: one frame before the watch begins, and one after the progress
of every frame but the last. -/
def lockStep : Pace := fun m s =>
  match m with
  | .after (.start ..) => (s.periodsToSettle, .zero)
  | .logging (.progress frames target) =>
    (if frames < target then s.periodsToSettle else 0, .zero)
  | _ => (0, .zero)

/-- The camera keeps time: while the run waits, periods pass until a frame is announced or the
deadline has come. -/
def steady : Pace := fun m s =>
  match m with
  | .waiting deadline =>
    let interval := s.camera.behavior.frameInterval
    let missed :=
      (min (deadline.nanos / interval.nanos) (Simulator.quietBound s.camera.behavior), deadline)
    match s.signalAfter? with
    | none => missed
    | some n =>
      if n * interval.nanos ≤ deadline.nanos then (n, .ofNanos (n * interval.nanos)) else missed
  | _ => (0, .zero)

/-- Runs number `first` and on, so many of them, of one runner; each with the simulation after
it. -/
def runAll (pace : Pace) (allocator : Allocator) :
    Nat → Nat → Runner Simulation → List (Outcome × RunState Simulation)
  | _, 0, _ => []
  | first, count + 1, runner =>
    let (outcome, state, runner) := Runner.run (rig pace allocator) runner first
    (outcome, state) :: runAll pace allocator (first + 1) count runner

end Simulation

end FrameWatch
