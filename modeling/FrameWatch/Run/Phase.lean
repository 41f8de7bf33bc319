/-!
# Phases of a run

The phases that a run passes through, as they are named in the log.
-/

namespace FrameWatch

/-- Where a run stands. -/
inductive Phase
  /-- Nothing is open yet. -/
  | idle
  /-- The camera is open and the frame size is agreed. -/
  | configured
  /-- The camera delivers frames. -/
  | acquiring
  /-- All frames have come. -/
  | completed
  /-- A frame did not come in time. -/
  | stalled
  /-- A step of setup failed. -/
  | setupFailed
  /-- Everything is given back. -/
  | stopped
deriving DecidableEq, Repr

namespace Phase

/-- The name in the log. -/
def name : Phase → String
  | idle => "Idle"
  | configured => "Configured"
  | acquiring => "Acquiring"
  | completed => "Completed"
  | stalled => "Stalled"
  | setupFailed => "SetupFailed"
  | stopped => "Stopped"

/-- All phases. -/
def all : List Phase :=
  [idle, configured, acquiring, completed, stalled, setupFailed, stopped]

end Phase

end FrameWatch
