import FrameWatch.Run.State

/-!
# Teardown

Gives back what a run has acquired, once and in a fixed order, whatever calls fail: acquisition is
aborted, the handler deregistered, its context dropped, the buffer released and the camera closed.
It is asked for at the end of a run and once more when the run goes out of scope, which then finds
nothing to do.
The buffer outlives a camera that may still write to it, and the context outlives a camera that may
still call the handler.
-/

namespace FrameWatch.Teardown

variable {σ : Type}

/-- Makes a call, and logs its error; whether it succeeded. -/
def attempt (rig : Rig σ) (c : CameraCall) (effect : StateM σ (Except CameraError Unit))
    (failure : CameraError → RunEvent) : Act σ Bool := do
  match ← Act.call rig c effect with
  | .ok () => return true
  | .error e =>
    Act.log (failure e)
    return false

/-- Stops acquisition; whether the camera writes no more. -/
def abort (rig : Rig σ) : Act σ Bool := do
  match (← get).camera with
  | none => return true
  | some camera => attempt rig (.abort camera) (rig.abort camera) .abortFailed

/-- Deregisters the handler; whether the camera calls it no more. -/
def deregister (rig : Rig σ) : Act σ Bool := do
  let s ← get
  match s.camera with
  | none => return true
  | some camera =>
    if s.registered then
      let gone ← attempt rig (.deregister camera) (rig.deregister camera) .deregisterFailed
      if gone then modify fun s => { s with registered := false }
      return gone
    else return true

/-- Drops the context unless the camera may still call the handler, and tells what it counted. -/
def dropContext (deregistered : Bool) : Act σ (HandlerCounters × Bool) := do
  match (← get).context with
  | .held handler =>
    if deregistered then
      modify fun s => { s with context := .released }
      return (handler.counters, false)
    else
      Act.log .contextLeaked
      modify fun s => { s with context := .leaked handler }
      return (handler.counters, true)
  | _ => return (.zero, false)

/-- Releases the buffer unless the camera may still write to it; whether it is leaked. -/
def dropBuffer (aborted : Bool) : Act σ Bool := do
  match (← get).buffer with
  | .held buffer =>
    if aborted then
      Act.log (.bufferReleased buffer.size)
      modify fun s => { s with buffer := .released }
      return false
    else
      Act.log (.bufferLeaked buffer.size)
      modify fun s => { s with buffer := .leaked buffer }
      return true
  | _ => return false

/-- Closes the camera. -/
def close (rig : Rig σ) : Act σ Unit := do
  match (← get).camera with
  | none => pure ()
  | some camera =>
    let _ ← attempt rig (.close camera) (rig.close camera) .closeFailed
    modify fun s => { s with camera := none }

/-- Gives everything back, in order. The counters are those of the moment at which the context is
dropped. -/
def giveBack (rig : Rig σ) : Act σ (HandlerCounters × TeardownSummary) := do
  let aborted ← abort rig
  let deregistered ← deregister rig
  let (counters, contextLeaked) ← dropContext deregistered
  let bufferLeaked ← dropBuffer aborted
  close rig
  Act.log .tornDown
  return (counters, ⟨bufferLeaked, contextLeaked⟩)

/-- Gives everything back, unless that has been done. -/
def steps (rig : Rig σ) : Act σ (HandlerCounters × TeardownSummary) := do
  if (← get).tornDown then return (.zero, .clean)
  modify fun s => { s with tornDown := true }
  giveBack rig

end FrameWatch.Teardown
