import FrameWatch.Proofs.Run.Verdict
import FrameWatch.Report
import FrameWatch.Simulator.Rig

/-!
# Counts of 32 bits

Frames are counted in numbers of 32 bits. `Run.drive?` counts with a check at every sum and fails at
the first that is too large; so does `Report.headline?`, which adds one to the frames of a stalled
run even where the sum is not needed. No run and no report on it fails there.

1. `GoesThrough` says of an action that can fail that it goes like one that cannot.
2. The counters go up together (`Progress.InStep`), so that none of them gets ahead of the frames
   that the loop still wants: `Watch.frames?_goesThrough`.
3. `Runner.counts_fit` puts together what is counted in a run and in its report.
-/

namespace FrameWatch

/-! ## Checked sums -/

/-- Counts are below it. -/
def countBound : ℕ := 2 ^ 32

/-- One more than `n`, if it is a count. -/
def succ? (n : ℕ) : Option ℕ := if n + 1 < countBound then some (n + 1) else none

theorem succ?_of_lt {n : ℕ} (h : n + 1 < countBound) : succ? n = some (n + 1) := if_pos h

/-- The `n`-th part of `d`, unless `n` is zero. -/
def Duration.div? (d : Duration) (n : ℕ) : Option Duration :=
  if n = 0 then none else some (d.div n)

namespace Intervals

/-- One interval more, if that can be counted. -/
def record? (s : Intervals) (d : Duration) : Option Intervals := do
  let count ← succ? s.count
  return { s.record d with count := count }

/-- The mean, unless it is a division by zero. -/
def mean? (s : Intervals) : Option (Option Duration) :=
  if 0 < s.count then (s.total.div? s.count).map some else some none

/-- The mean is no division by zero. -/
theorem mean?_eq (s : Intervals) : s.mean? = some s.mean := by
  unfold mean? mean Duration.div?
  split
  · rename_i hpos
    rw [if_neg (Nat.ne_of_gt hpos), Option.map_some]
  · rfl

end Intervals

/-- One frame more, if all of it can be counted. -/
def Progress.record? (p : Progress) (d : FrameDescriptor) (interval : Duration) :
    Option Progress := do
  let frames ← succ? p.frames
  let degraded ← if d.degraded then succ? p.degraded else some p.degraded
  let intervals ← p.intervals.record? interval
  return ⟨frames, degraded, some interval, intervals, some d⟩

/-! ## Actions that can fail -/

namespace Act

variable {σ α : Type}

/-- The result of checked sums. -/
def checked (x : Option α) : OptionT (Act σ) α := OptionT.mk (pure x)

end Act

open Act (checked)

/-- Takes `remaining` frames more, as `Watch.frames` does, with checked sums. -/
def Watch.frames? {σ : Type} (rig : Rig σ) (settings : RunSettings) :
    ℕ → Duration → Progress → OptionT (Act σ) (Verdict × Progress)
  | 0, _, p => do
    OptionT.lift (Act.log (.targetReached p.frames))
    return (.completed, p)
  | remaining + 1, last, p => do
    match ← OptionT.lift (wait rig settings.frameDeadline) with
    | none =>
      let frame ← checked (succ? p.frames)
      OptionT.lift (Act.log (.deadlineMissed frame p.frames settings.frameDeadline))
      return (.stalled frame, p)
    | some d =>
      let now := rig.clock (← OptionT.lift get).rig
      let p ← checked (p.record? d (now.since last))
      OptionT.lift (reportFrame rig settings p.frames d)
      frames? rig settings remaining now p

/-- Setup and, if it succeeds, the watch, with checked sums. -/
def Run.drive? {σ : Type} (rig : Rig σ) (settings : RunSettings) :
    OptionT (Act σ) (Verdict × Progress) := do
  match ← OptionT.lift (Setup.steps rig settings).run with
  | .error e => return (← OptionT.lift (failSetup rig e), .none)
  | .ok began =>
    OptionT.lift (Act.enter .acquiring)
    let (verdict, progress) ← Watch.frames? rig settings settings.targetFrames began .none
    OptionT.lift (Act.enter (if verdict = .completed then .completed else .stalled))
    return (verdict, progress)

/-- The verdict in one line, with checked sums. A stalled report adds one to its frames whether or
not it names the frame that missed its deadline. -/
def Report.headline? (r : Report) : Option String :=
  match r.status with
  | .stalled => do
    let next ← succ? r.framesAcquired
    return "STALLED at frame " ++ toString (r.stalledAt.getD next) ++ " ("
      ++ toString r.framesAcquired ++ " frames acquired, deadline " ++ r.frameDeadline.spell ++ ")"
  | _ => r.headline

section GoesThrough

variable {σ α β : Type}

/-- From `s`, the action that can fail goes like the one that cannot. -/
def GoesThrough (x? : OptionT (Act σ) α) (x : Act σ α) (s : RunState σ) : Prop :=
  x?.run s = (some (x s).1, (x s).2)

variable {x : Act σ α} {x? : OptionT (Act σ) α} {f : α → Act σ β} {f? : α → OptionT (Act σ) β}
  {s : RunState σ}

theorem goesThrough_lift : GoesThrough (OptionT.lift x) x s := rfl

theorem goesThrough_pure (a : α) : GoesThrough (pure a) (pure a) s := rfl

theorem GoesThrough.bind (hx : GoesThrough x? x s)
    (hf : GoesThrough (f? (x s).1) (f (x s).1) (x s).2) :
    GoesThrough (x? >>= f?) (x >>= f) s := by
  have hrun : (x? >>= f?).run s =
      (x?.run s).1.elim (pure none) (fun a => (f? a).run) (x?.run s).2 := by
    rw [OptionT.run_bind]
    rfl
  unfold GoesThrough
  rw [hrun, hx]
  exact hf

theorem goesThrough_checked {y : Act σ β} {c : Option α} {a : α} (hc : c = some a)
    (hf : GoesThrough (f? a) y s) : GoesThrough (checked c >>= f?) y s := by
  subst hc
  exact hf

end GoesThrough

/-! ## The counters of a watch -/

namespace Progress

/-- Every frame has an interval, and those that are degraded are among the frames. -/
structure Lockstep (p : Progress) : Prop where
  intervals : p.intervals.count = p.frames
  degraded : p.degraded ≤ p.frames

theorem lockstep_none : Lockstep none := ⟨rfl, le_rfl⟩

variable {p : Progress} (h : p.Lockstep) (d : FrameDescriptor) (interval : Duration)

include h

theorem Lockstep.record : (p.record d interval).Lockstep where
  intervals := congrArg (· + 1) h.intervals
  degraded := by
    have hdegraded := h.degraded
    show (if d.degraded then p.degraded + 1 else p.degraded) ≤ p.frames + 1
    split <;> omega

/-- Where the frames can be counted, so can everything else. -/
theorem Lockstep.record?_eq (hfits : p.frames + 1 < countBound) :
    p.record? d interval = some (p.record d interval) := by
  have hintervals : p.intervals.record? interval = some (p.intervals.record interval) := by
    unfold Intervals.record?
    rw [h.intervals, succ?_of_lt hfits, ← h.intervals]
    rfl
  have hdegraded : succ? p.degraded = some (p.degraded + 1) := by
    have hle := h.degraded
    exact succ?_of_lt (by omega)
  unfold Progress.record? Progress.record
  rw [succ?_of_lt hfits, hintervals, hdegraded]
  cases d.degraded <;> rfl

end Progress

namespace Watch

variable {σ : Type} (rig : Rig σ) (settings : RunSettings)

/-- No sum of a watch is too large, if the frames that it wants can be counted. -/
theorem frames?_goesThrough (remaining : ℕ) (last : Duration) {p : Progress} (hp : p.Lockstep)
    (hfits : p.frames + remaining < countBound) (s : RunState σ) :
    GoesThrough (frames? rig settings remaining last p)
      (frames rig settings remaining last p) s := by
  induction remaining generalizing last p s with
  | zero => exact goesThrough_lift.bind (goesThrough_pure _)
  | succ remaining ih =>
    refine goesThrough_lift.bind ?_
    cases (wait rig settings.frameDeadline s).1 with
    | none =>
      exact goesThrough_checked (succ?_of_lt (by omega))
        (goesThrough_lift.bind (goesThrough_pure _))
    | some d =>
      refine goesThrough_lift.bind (goesThrough_checked (hp.record?_eq d _ (by omega)) ?_)
      refine goesThrough_lift.bind (ih _ (hp.record d _) ?_ _)
      show p.frames + 1 + remaining < countBound
      omega

end Watch

/-! ## The counters of a run -/

theorem Run.drive?_goesThrough {σ : Type} (rig : Rig σ) {settings : RunSettings}
    (h : settings.targetFrames < countBound) (s : RunState σ) :
    GoesThrough (drive? rig settings) (drive rig settings) s := by
  refine goesThrough_lift.bind ?_
  cases ((Setup.steps rig settings).run s).1 with
  | error e => exact goesThrough_lift.bind (goesThrough_pure _)
  | ok began =>
    have hfits : Progress.none.frames + settings.targetFrames < countBound := by
      show 0 + settings.targetFrames < countBound
      omega
    have hwatch := Watch.frames?_goesThrough rig settings _ began Progress.lockstep_none hfits
      (Act.enter .acquiring ((Setup.steps rig settings).run s).2).2
    exact goesThrough_lift.bind (hwatch.bind (goesThrough_lift.bind (goesThrough_pure _)))

theorem Report.headline?_eq {r : Report}
    (h : r.status = .stalled → r.framesAcquired + 1 < countBound) :
    r.headline? = some r.headline := by
  unfold headline?
  split
  · rename_i hstatus
    rw [succ?_of_lt (h hstatus)]
    unfold headline
    rw [hstatus]
    rfl
  · rfl

theorem RunCourse.frames_lt_of_stalled {σ : Type} {rig : Rig σ} {settings : RunSettings}
    {s₀ s : RunState σ} {o : Outcome} {path : SetupPath}
    {taken : List (FrameDescriptor × Duration)} {f : TeardownFailures}
    (h : RunCourse rig settings s₀ o s path taken f) (hstalled : o.verdict.status = .stalled) :
    o.framesAcquired < settings.targetFrames := by
  by_cases hpath : path.error? = none
  · rcases h.verdict_cases hpath with ⟨-, hverdict⟩ | ⟨hmissed, -⟩
    · rw [hverdict] at hstalled
      cases hstalled
    · rw [h.frames]
      exact hmissed
  · obtain ⟨e, diagnostic, hverdict⟩ := h.verdict_of_ne_none hpath
    rw [hverdict] at hstalled
    cases hstalled

/-- What is counted in a run and in its report can be counted. -/
structure CountsFit {σ : Type} (rig : Rig σ) (r : Runner σ) (number : ℕ) : Prop where
  /-- All checked sums of the run are the sums of the run. -/
  driven : GoesThrough (Run.drive? rig r.settings) (Run.drive rig r.settings)
    (.initial r.rig r.mailbox.reset)
  /-- The outcome has the verdict and the counts that come out of them. -/
  counted :
    let o := (r.run rig number).1
    let driven := (Run.drive rig r.settings (.initial r.rig r.mailbox.reset)).1
    o.verdict = driven.1 ∧ o.framesAcquired = driven.2.frames ∧
      o.degradedFrames = driven.2.degraded ∧ o.intervals = driven.2.intervals
  mean : (r.run rig number).1.intervals.mean? = some (r.run rig number).1.intervals.mean
  headline : (Report.ofOutcome (r.run rig number).1).headline? =
    some (Report.ofOutcome (r.run rig number).1).headline

namespace Runner

/-- **Counts.** If the frames that a run wants can be counted, no sum of the run or of its report is
too large. -/
theorem counts_fit {σ : Type} (rig : Rig σ) (r : Runner σ) (number : ℕ)
    (h : r.settings.targetFrames < countBound) : CountsFit rig r number where
  driven := Run.drive?_goesThrough rig h _
  counted := by
    rw [(r.run_eq_observe rig number).1]
    exact ⟨rfl, rfl, rfl, rfl⟩
  mean := Intervals.mean?_eq _
  headline := by
    obtain ⟨path, taken, f, hcourse⟩ := r.run_course rig number
    refine Report.headline?_eq fun hstalled => ?_
    have hframes := hcourse.frames_lt_of_stalled hstalled
    show (r.run rig number).1.framesAcquired + 1 < countBound
    omega

/-- A runner that wants as many frames as can be counted, of a camera that stops after two. -/
def insatiable : Runner Simulation :=
  .fresh { RunSettings.standard with targetFrames := countBound - 1, progressEvery := 1 }
    (.fresh (.fresh { SimulatorBehavior.standard with stopAfter := some 2 } true) .none ⟨0, 0⟩)

theorem counts_fit_insatiable :
    insatiable.settings.targetFrames + 1 = countBound ∧
      CountsFit (Simulation.rig Simulation.lockStep fun _ => some 4096) insatiable 1 ∧
      (insatiable.run (Simulation.rig Simulation.lockStep fun _ => some 4096) 1).1.verdict =
        .stalled 3 :=
  ⟨rfl, counts_fit _ _ _ (by decide), by decide +kernel⟩

end Runner

end FrameWatch
