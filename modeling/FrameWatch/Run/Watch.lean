import FrameWatch.Run.State

/-!
# The watch

The loop that takes one frame after the other from the mailbox until the target is reached or a
frame misses its deadline.
-/

namespace FrameWatch

/-- What has been seen of the frames so far. -/
structure Progress where
  frames : Nat
  degraded : Nat
  lastInterval : Option Duration
  intervals : Intervals
  lastFrame : Option FrameDescriptor
deriving DecidableEq

namespace Progress

/-- No frame yet. -/
def none : Progress := ⟨0, 0, Option.none, .empty, Option.none⟩

/-- One frame more, so long after the one before it. -/
def record (p : Progress) (d : FrameDescriptor) (interval : Duration) : Progress where
  frames := p.frames + 1
  degraded := if d.degraded then p.degraded + 1 else p.degraded
  lastInterval := some interval
  intervals := p.intervals.record interval
  lastFrame := some d

end Progress

namespace Watch

variable {σ : Type}

/-- Waits for a frame; `none` once the deadline has passed without one. -/
def wait (rig : Rig σ) (deadline : Duration) : Act σ (Option FrameDescriptor) := do
  Act.deliver rig (.waiting deadline)
  modifyGet fun s =>
    let (taken, mailbox) := s.mailbox.take
    (taken, { s with mailbox := mailbox }.step (.waited taken))

/-- Logs an event of the loop, with the notifications that arrive meanwhile. -/
def report (rig : Rig σ) (e : RunEvent) : Act σ Unit := do
  Act.log e
  Act.deliver rig (.logging e)

/-- Whether progress is due after so many frames. -/
def isDue (every frames : Nat) : Bool := 0 < every && frames % every == 0

/-- Logs what there is to say about the frame just recorded. -/
def reportFrame (rig : Rig σ) (settings : RunSettings) (frames : Nat) (d : FrameDescriptor) :
    Act σ Unit := do
  if d.degraded then report rig (.fetchFailed frames d.sequence)
  if isDue settings.progressEvery frames then report rig (.progress frames settings.targetFrames)

/-- Takes `remaining` frames more; `last` is when the last one came. -/
def frames (rig : Rig σ) (settings : RunSettings) :
    Nat → Duration → Progress → Act σ (Verdict × Progress)
  | 0, _, p => do
    Act.log (.targetReached p.frames)
    return (.completed, p)
  | remaining + 1, last, p => do
    match ← wait rig settings.frameDeadline with
    | none =>
      Act.log (.deadlineMissed (p.frames + 1) p.frames settings.frameDeadline)
      return (.stalled (p.frames + 1), p)
    | some d =>
      let now := rig.clock (← get).rig
      let p := p.record d (now.since last)
      reportFrame rig settings p.frames d
      frames rig settings remaining now p

end Watch

end FrameWatch
