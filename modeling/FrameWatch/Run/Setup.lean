import FrameWatch.Run.State

/-!
# Setup

The steps from a closed camera to a running acquisition. The first step that fails ends setup;
everything acquired until then stays with the run.
-/

namespace FrameWatch.Setup

variable {σ α : Type}

/-- An action of setup, which a failing step ends. -/
abbrev Step (σ α : Type) := ExceptT SetupError (StateM (RunState σ)) α

/-- An action that cannot fail. -/
def sure (action : Act σ α) : Step σ α := ExceptT.lift action

/-- A call whose error is the failure of a stage. -/
def call (rig : Rig σ) (stage : SetupStage) (c : CameraCall)
    (effect : StateM σ (Except CameraError α)) : Step σ α :=
  ExceptT.mk do
    match ← Act.call rig c effect with
    | .ok answer => return .ok answer
    | .error e => return .error ⟨stage, .camera e⟩

/-- Opens the camera. -/
def openCamera (rig : Rig σ) (settings : RunSettings) : Step σ Handle := do
  let camera ←
    call rig .openDevice (.openCamera settings.camera) (rig.openCamera settings.camera)
  sure do
    if rig.logsOpening then Act.log (.cameraOpened settings.camera camera)
    modify fun s => { s with camera := some camera }
  return camera

/-- Agrees on the exposure mode and the size of a frame. -/
def configure (rig : Rig σ) (settings : RunSettings) (camera : Handle) : Step σ Nat := do
  let mode ←
    call rig .selectExposureMode (.selectMode camera settings.exposureMode)
      (rig.selectMode camera settings.exposureMode)
  let frameBytes ←
    call rig .setupAcquisition
      (.configure camera settings.region mode settings.exposureMs settings.bufferPolicy)
      (rig.configure camera settings.region mode settings.exposureMs settings.bufferPolicy)
  sure do
    Act.log (.configured mode frameBytes)
    Act.enter .configured
  return frameBytes

/-- Asks the rig for the memory of a buffer, if the size is allowed. -/
def reserve (rig : Rig σ) (settings : RunSettings) (frameBytes : Nat) : Act σ (Option Nat) :=
  match FrameBuffer.checkSize frameBytes settings.bufferFrames settings.bufferLimit with
  | .ok total => Act.ask (rig.reserve total)
  | .error _ => pure none

/-- Allocates the buffer. -/
def allocate (rig : Rig σ) (settings : RunSettings) (camera : Handle) (frameBytes : Nat) :
    Step σ FrameBuffer := do
  let base ← sure (reserve rig settings frameBytes)
  match FrameBuffer.allocate (fun _ => base) frameBytes settings.bufferFrames
      settings.bufferLimit with
  | .error e => throw ⟨.allocateBuffer, .allocation e⟩
  | .ok buffer =>
    sure do
      Act.log (.bufferAllocated buffer)
      modify fun s =>
        { s with buffer := .held buffer, context := .held (.ofBuffer camera buffer) }
    return buffer

/-- Registers the handler. -/
def register (rig : Rig σ) (camera : Handle) : Step σ Unit := do
  call rig .registerCallback (.register camera) (rig.register camera)
  sure (modify fun s => { s with registered := true })

/-- Starts the camera, and tells when that was. -/
def start (rig : Rig σ) (settings : RunSettings) (camera : Handle) (buffer : FrameBuffer) :
    Step σ Duration := do
  let began := rig.clock (← sure get).rig
  call rig .startAcquisition (.start camera buffer.size) (rig.start camera buffer)
  sure (Act.log (.started settings.targetFrames settings.frameDeadline buffer.size))
  return began

/-- All steps in order. -/
def steps (rig : Rig σ) (settings : RunSettings) : Step σ Duration := do
  let camera ← openCamera rig settings
  let frameBytes ← configure rig settings camera
  let buffer ← allocate rig settings camera frameBytes
  register rig camera
  start rig settings camera buffer

end FrameWatch.Setup
