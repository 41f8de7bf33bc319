/-!
# Setup stages

The steps that lead from a closed camera to a running acquisition, in their order.
-/

namespace FrameWatch

/-- The steps of setup. -/
inductive SetupStage
  | openDevice
  | selectExposureMode
  | setupAcquisition
  | allocateBuffer
  | registerCallback
  | startAcquisition
deriving DecidableEq, Repr

namespace SetupStage

/-- The name in settings, reports and logs. -/
def name : SetupStage → String
  | openDevice => "open_device"
  | selectExposureMode => "select_exposure_mode"
  | setupAcquisition => "setup_acquisition"
  | allocateBuffer => "allocate_buffer"
  | registerCallback => "register_callback"
  | startAcquisition => "start_acquisition"

/-- All stages in order. -/
def all : List SetupStage :=
  [openDevice, selectExposureMode, setupAcquisition, allocateBuffer, registerCallback,
    startAcquisition]

end SetupStage

end FrameWatch
