import FrameWatch.Run.Setup
import FrameWatch.Run.Teardown
import FrameWatch.Run.Watch

/-!
# Runs

A run sets the camera up, watches its frames and tears everything down again, on every path. A
runner makes one run after the other with the same settings; all its runs share one mailbox, which
every run empties first.
-/

namespace FrameWatch

namespace Run

variable {σ : Type}

/-- Enters the failed phase, with what the camera itself has to say about the failure. -/
def failSetup (rig : Rig σ) (e : SetupError) : Act σ Verdict := do
  let diagnostic ←
    match e.cause with
    | .camera _ => do
      modify (·.note (.call .lastError))
      let last ← Act.ask rig.lastError
      pure (if last.code = 0 then none else some last)
    | .allocation _ => pure none
  Act.log (.setupFailed e)
  Act.enter .setupFailed
  return .setupFailed e diagnostic

/-- Setup and, if it succeeds, the watch. -/
def drive (rig : Rig σ) (settings : RunSettings) : Act σ (Verdict × Progress) := do
  match ← (Setup.steps rig settings).run with
  | .error e => return (← failSetup rig e, .none)
  | .ok began =>
    Act.enter .acquiring
    let (verdict, progress) ← Watch.frames rig settings settings.targetFrames began .none
    Act.enter (if verdict = .completed then .completed else .stalled)
    return (verdict, progress)

/-- Goes on to the last phase, and logs what the handler has missed. -/
def stop (counters : HandlerCounters) : Act σ Unit := do
  Act.enter .stopped
  if 0 < counters.lostFrames then
    Act.log (.gapsDetected counters.gapEvents counters.lostFrames)

/-- A run up to its outcome. -/
def observe (rig : Rig σ) (settings : RunSettings) (run : Nat) : Act σ Outcome := do
  let first := (← get).rig
  let (verdict, progress) ← drive rig settings
  let (counters, teardown) ← Teardown.steps rig
  stop counters
  let s ← get
  return {
    run := run
    camera := settings.camera
    startedAt := rig.date first
    elapsed := (rig.clock s.rig).since (rig.clock first)
    verdict := verdict
    framesAcquired := progress.frames
    degradedFrames := progress.degraded
    targetFrames := settings.targetFrames
    frameDeadline := settings.frameDeadline
    lastInterval := progress.lastInterval
    intervals := progress.intervals
    lastFrame := progress.lastFrame
    tally := s.mailbox.tally
    callbacks := counters.handled
    gapEvents := counters.gapEvents
    lostFrames := counters.lostFrames
    teardown := teardown }

/-- A whole run. What it has acquired goes out of scope at its end. -/
def steps (rig : Rig σ) (settings : RunSettings) (run : Nat) : Act σ Outcome := do
  let outcome ← observe rig settings run
  let _ ← Teardown.steps rig
  return outcome

end Run

/-- One run after the other on the same rig. -/
structure Runner (σ : Type) where
  settings : RunSettings
  mailbox : Mailbox
  rig : σ

namespace Runner

variable {σ : Type}

/-- A runner that has made no run yet. -/
def fresh (settings : RunSettings) (rig : σ) : Runner σ := ⟨settings, .empty, rig⟩

/-- Makes run number `run`: its outcome, the state in which it ends, and the runner after it. -/
def run (rig : Rig σ) (r : Runner σ) (run : Nat) : Outcome × RunState σ × Runner σ :=
  let (outcome, s) := Run.steps rig r.settings run (.initial r.rig r.mailbox.reset)
  (outcome, s, { r with mailbox := s.mailbox, rig := s.rig })

end Runner

end FrameWatch
