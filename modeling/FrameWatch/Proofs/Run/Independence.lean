import FrameWatch.Proofs.Run.Heard
import FrameWatch.Proofs.Run.Verdict
import FrameWatch.Report
import FrameWatch.Run.Script

/-!
# What a run depends on

The outcome of a run depends on its settings and on what the run hears, and on nothing else: not on
earlier runs of the same runner (`Runner.runs_independent`), nor, in what concerns its frames and
its verdict, on anything that is heard in teardown (`Runner.verdict_independent`). Where the news
comes at the same times, the times between the frames are the same too.
-/

namespace FrameWatch

variable {σ τ : Type}

/-! ## Rigs with and without a record -/

namespace Outcome.Agrees

variable {timed : Prop} {o o' o'' : Outcome}

theorem symm (h : o.Agrees timed o') : o'.Agrees timed o :=
  ⟨h.untimed.symm, fun htimed => (h.lastInterval htimed).symm,
    fun htimed => (h.intervals htimed).symm⟩

theorem trans (h : o.Agrees timed o') (h' : o'.Agrees timed o'') : o.Agrees timed o'' :=
  ⟨h.untimed.trans h'.untimed, fun htimed => (h.lastInterval htimed).trans (h'.lastInterval htimed),
    fun htimed => (h.intervals htimed).trans (h'.intervals htimed)⟩

end Outcome.Agrees

namespace Runner

/-- Setup and watch of the next run. -/
def drive (rig : Rig σ) (r : Runner σ) : (Verdict × Progress) × RunState σ :=
  Run.drive rig r.settings (.initial r.rig r.mailbox.reset)

/-- The runner with a record of what its rig says. -/
def recording (r : Runner σ) : Runner (Recording σ) := ⟨r.settings, r.mailbox, .begin r.rig⟩

section Plain

variable (rig : Rig σ) (r : Runner σ)

theorem matches_plain : (RunState.initial r.recording.rig r.recording.mailbox.reset).Matches .plain
    (RunState.initial r.rig r.mailbox.reset) :=
  ⟨rfl, rfl, rfl, rfl, rfl, rfl, rfl, rfl⟩

theorem run_recording (number : ℕ) (timed : Prop) :
    (r.recording.run rig.recording number).1.Agrees timed (r.run rig number).1 := by
  have hagrees := (Rig.plain_holds rig).observe_agrees r.settings number r.matches_plain trivial
    trivial
  exact ⟨hagrees.untimed, fun _ => hagrees.lastInterval trivial, fun _ => hagrees.intervals trivial⟩

theorem drive_recording : (r.recording.drive rig.recording).1 = (r.drive rig).1 := by
  obtain ⟨⟨hverdict, hprogress⟩, -⟩ := ((Rig.plain_holds rig).drive r.settings).step _ _
    r.matches_plain trivial trivial
  exact Prod.ext hverdict (hprogress.timely trivial)

end Plain

/-! ## Runs that hear the same -/

section Hears

variable (rig : Rig σ) (r : Runner σ) (number : ℕ)

/-- All that is heard in the next run. -/
def tape : List (Duration × News) := (r.recording.run rig.recording number).2.1.rig.tape rig

/-- All that is heard in the next run until teardown begins. -/
def drivingTape : List (Duration × News) := (r.recording.drive rig.recording).2.rig.tape rig

variable (timed : Bool) (heard : List (Duration × News))

/-- As far as the next run listens, its rig says what is on the tape, and at the times on the tape
if they count. -/
def Hears : Prop :=
  (r.recording.run rig.recording number).2.1.rig.Cuts rig timed (heard.map (stampNews timed))

/-- As far as the next run listens until teardown begins, its rig says what is on the tape. -/
def HearsDriving : Prop :=
  (r.recording.drive rig.recording).2.rig.Cuts rig timed (heard.map (stampNews timed))

theorem hears_tape : r.Hears rig number timed (r.tape rig number) := Recording.cuts_tape

theorem hears_drivingTape : r.HearsDriving rig timed (r.drivingTape rig) := Recording.cuts_tape

end Hears

section Agree

variable {rig : Rig σ} {rig' : Rig τ} {r : Runner σ} {r' : Runner τ} {timed : Bool}
  {heard : List (Duration × News)}

theorem matches_between (r : Runner σ) (r' : Runner τ) :
    (RunState.initial r.recording.rig r.recording.mailbox.reset).Matches
      (.between rig rig' timed (heard.map (stampNews timed)))
      (RunState.initial r'.recording.rig r'.recording.mailbox.reset) where
  mailbox := rfl
  camera := rfl
  registered := rfl
  tornDown := rfl
  context := rfl
  buffer := rfl
  alike := ⟨rfl, nofun, nofun⟩

/-- Runs with the same settings that hear the same have the same outcome. -/
theorem agrees_of_hears (hsettings : r'.settings = r.settings) {number : ℕ}
    (h : r.Hears rig number timed heard) (h' : r'.Hears rig' number timed heard) :
    (r.run rig number).1.Agrees (timed = true) (r'.run rig' number).1 := by
  unfold Hears at h h'
  rw [(r.recording.run_eq_observe rig.recording number).2] at h
  rw [(r'.recording.run_eq_observe rig'.recording number).2] at h'
  have hagrees : (r.recording.run rig.recording number).1.Agrees (timed = true)
      (r'.recording.run rig'.recording number).1 := by
    have hrecorded : r'.recording.settings = r.recording.settings := hsettings
    rw [hrecorded] at h'
    rw [(r.recording.run_eq_observe rig.recording number).1,
      (r'.recording.run_eq_observe rig'.recording number).1, hrecorded]
    exact Rig.between_holds.observe_agrees _ number (matches_between r r') h h'
  exact ((r.run_recording rig number _).symm.trans hagrees).trans (r'.run_recording rig' number _)

/-- Watches with the same settings that hear the same go the same way. -/
theorem judged_of_hearsDriving (hsettings : r'.settings = r.settings)
    (h : r.HearsDriving rig timed heard) (h' : r'.HearsDriving rig' timed heard) :
    Judged (timed = true) (r.drive rig).1 (r'.drive rig').1 := by
  have hrecorded : r'.recording.settings = r.recording.settings := hsettings
  have hjudged : Judged (timed = true) (r.recording.drive rig.recording).1
      (r'.recording.drive rig'.recording).1 := by
    unfold HearsDriving drive at *
    rw [hrecorded] at h' ⊢
    exact ((Rig.between_holds.drive _).step _ _ (matches_between r r') h h').1
  rwa [r.drive_recording rig, r'.drive_recording rig'] at hjudged

end Agree

/-! ## Earlier runs -/

section Earlier

variable (rig : Rig σ)

/-- The runner with its rig in another state. -/
def on (r : Runner σ) (x : σ) : Runner σ := { r with rig := x }

/-- The runner after some runs, each with the rig in a state of its own. -/
def after : Runner σ → List (σ × ℕ) → Runner σ
  | r, [] => r
  | r, (x, number) :: rest => after ((r.on x).run rig number).2.2 rest

theorem settings_after (r : Runner σ) (earlier : List (σ × ℕ)) :
    (r.after rig earlier).settings = r.settings := by
  induction earlier generalizing r with
  | nil => rfl
  | cons run rest ih => exact ih _

/-- **Runs are independent.** After any runs of a runner, however they ended, the next one has the
outcome that it has on a fresh runner, if both hear the same. Frames come to the handler of the run
that they come in; one that an earlier run has leaked is not called any more. -/
theorem runs_independent (rig' : Rig τ) (r : Runner σ) (earlier : List (σ × ℕ)) (x : σ) (y : τ)
    (number : ℕ) (timed : Bool) (heard : List (Duration × News))
    (h : ((r.after rig earlier).on x).Hears rig number timed heard)
    (h' : (fresh r.settings y).Hears rig' number timed heard) :
    (((r.after rig earlier).on x).run rig number).1.Agrees (timed = true)
      ((fresh r.settings y).run rig' number).1 := by
  have hsettings : (fresh r.settings y).settings = ((r.after rig earlier).on x).settings :=
    (settings_after rig r earlier).symm
  exact agrees_of_hears hsettings h h'

end Earlier

end Runner

/-! ### Runs of scripted cameras -/

namespace Script

/-- A camera that announces a frame as it starts, gives this answer to all calls of teardown and
announces these frames in each of them. -/
def ending (answer : Except CameraError Unit) (atEnd : List ScriptedFrame) : Script :=
  .ofReplies ⟨.ok ⟨1⟩, .ok 0, .ok 16, .ok (), .ok (), answer, answer, answer, none⟩
    [⟨1, 0, .offset 0, false, false⟩] [] atEnd atEnd atEnd

/-- A camera that refuses to be torn down, and announces frames meanwhile. -/
def refusing : Script := ending (.error ⟨5, "busy"⟩) [⟨2, 0, .failed, false, false⟩]

/-- A camera that does all it is asked to. -/
def willing : Script := ending (.ok ()) []

/-- Scripted cameras with buffers at that address. -/
def rigAt (address : ℕ) : Rig Script := rig fun _ => some address

end Script

namespace Runner

/-- Two frames are wanted of a camera that refuses to be torn down. -/
def refused : Runner Script :=
  fresh { RunSettings.standard with targetFrames := 2 } .refusing

/-- The same runner after a run, with a frame in its mailbox that nobody has taken. -/
def afterRefusal : Runner Script :=
  (refused.after (Script.rigAt 4096) [(.refusing, 1)]).on .willing

theorem runs_independent_refused :
    afterRefusal.mailbox.fired = true ∧
      ∃ heard, afterRefusal.Hears (Script.rigAt 4096) 2 true heard ∧
        (fresh refused.settings Script.willing).Hears (Script.rigAt 8192) 2 true heard ∧
        (afterRefusal.run (Script.rigAt 4096) 2).1.Agrees (true = true)
          ((fresh refused.settings Script.willing).run (Script.rigAt 8192) 2).1 ∧
        (afterRefusal.run (Script.rigAt 4096) 2).1.verdict = .stalled 2 := by
  have h := afterRefusal.hears_tape (Script.rigAt 4096) 2 true
  have h' := (fresh refused.settings Script.willing).hears_tape (Script.rigAt 8192) 2 true
  have hsame : (fresh refused.settings Script.willing).tape (Script.rigAt 8192) 2 =
    afterRefusal.tape (Script.rigAt 4096) 2 := by decide +kernel
  rw [hsame] at h'
  have hagrees := runs_independent (Script.rigAt 4096) (Script.rigAt 8192) refused [(.refusing, 1)]
    .willing .willing 2 true _ h h'
  exact ⟨by decide +kernel, _, h, h', hagrees, by decide +kernel⟩

end Runner

/-! ## After the watch -/

/-- What outcomes have in common that differ only in what comes after the watch. -/
structure Outcome.SameWatch (timed : Prop) (o o' : Outcome) : Prop where
  verdict : o.verdict = o'.verdict
  framesAcquired : o.framesAcquired = o'.framesAcquired
  degradedFrames : o.degradedFrames = o'.degradedFrames
  lastFrame : o.lastFrame = o'.lastFrame
  consumed : o.tally.consumed = o'.tally.consumed
  lastInterval : timed → o.lastInterval = o'.lastInterval
  intervals : timed → o.intervals = o'.intervals

/-- What reports have in common about runs that ended the same way. -/
structure Report.SameVerdict (r r' : Report) : Prop where
  status : r.status = r'.status
  exitCode : r.exitCode = r'.exitCode
  stalledAt : r.stalledAt = r'.stalledAt
  failedStage : r.failedStage = r'.failedStage
  error : r.error = r'.error
  diagnostic : r.diagnostic = r'.diagnostic

theorem Report.sameVerdict {o o' : Outcome} (hverdict : o.verdict = o'.verdict)
    (hdeadline : o.frameDeadline = o'.frameDeadline) :
    (ofOutcome o).SameVerdict (ofOutcome o') where
  status := congrArg Verdict.status hverdict
  exitCode := congrArg (RunStatus.exitCode ∘ Verdict.status) hverdict
  stalledAt := congrArg Verdict.stalledAt? hverdict
  failedStage := congrArg Verdict.failedStage? hverdict
  error := congrArg₂ (Verdict.error? · ·) hdeadline hverdict
  diagnostic := congrArg Verdict.diagnostic? hverdict

namespace Runner

theorem consumed_eq_acquired (rig : Rig σ) (r : Runner σ) (number : ℕ) :
    (r.run rig number).1.tally.consumed = (r.run rig number).1.framesAcquired := by
  obtain ⟨path, taken, f, hcourse⟩ := r.run_course rig number
  rw [hcourse.consumed_eq (RunState.keepsHistory_initial r.rig r.mailbox), hcourse.frames]

/-- **Teardown cannot change the verdict.** Two runs with the same settings that hear the same until
teardown begins end the same way, whatever is answered and announced from there on. -/
theorem verdict_independent (rig : Rig σ) (rig' : Rig τ) (r : Runner σ) (r' : Runner τ)
    (number number' : ℕ) (timed : Bool) (heard : List (Duration × News))
    (hsettings : r'.settings = r.settings) (h : r.HearsDriving rig timed heard)
    (h' : r'.HearsDriving rig' timed heard) :
    (r.run rig number).1.SameWatch (timed = true) (r'.run rig' number').1 ∧
      (Report.ofOutcome (r.run rig number).1).SameVerdict
        (.ofOutcome (r'.run rig' number').1) := by
  obtain ⟨hverdict, hprogress⟩ := judged_of_hearsDriving hsettings h h'
  have hframes : (r.run rig number).1.framesAcquired = (r'.run rig' number').1.framesAcquired :=
    hprogress.frames
  have hdeadline : (r.run rig number).1.frameDeadline = (r'.run rig' number').1.frameDeadline :=
    congrArg RunSettings.frameDeadline hsettings.symm
  refine ⟨⟨hverdict, hframes, ?_, ?_, ?_, fun htimed => ?_, fun htimed => ?_⟩,
    Report.sameVerdict hverdict hdeadline⟩
  · exact hprogress.degraded
  · exact hprogress.lastFrame
  · rw [consumed_eq_acquired, consumed_eq_acquired, hframes]
  · exact congrArg Progress.lastInterval (hprogress.timely htimed)
  · exact congrArg Progress.intervals (hprogress.timely htimed)

theorem verdict_independent_refused :
    ∃ heard, refused.HearsDriving (Script.rigAt 4096) true heard ∧
      (fresh refused.settings Script.willing).HearsDriving (Script.rigAt 8192) true heard ∧
      (refused.run (Script.rigAt 4096) 1).1.SameWatch (true = true)
        ((fresh refused.settings Script.willing).run (Script.rigAt 8192) 1).1 ∧
      (refused.run (Script.rigAt 4096) 1).1.tally.signals = 4 ∧
      ((fresh refused.settings Script.willing).run (Script.rigAt 8192) 1).1.tally.signals = 1 := by
  have h := refused.hears_drivingTape (Script.rigAt 4096) true
  have h' := (fresh refused.settings Script.willing).hears_drivingTape (Script.rigAt 8192) true
  have hsame : (fresh refused.settings Script.willing).drivingTape (Script.rigAt 8192) =
    refused.drivingTape (Script.rigAt 4096) := by decide +kernel
  rw [hsame] at h'
  obtain ⟨hwatch, -⟩ := verdict_independent (Script.rigAt 4096) (Script.rigAt 8192) refused
    (fresh refused.settings Script.willing) 1 1 true _ rfl h h'
  exact ⟨_, h, h', hwatch, by decide +kernel, by decide +kernel⟩

end Runner

end FrameWatch
