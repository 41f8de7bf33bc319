import FrameWatch.Proofs.Run.Moves

/-!
# The paths of the watch

The watch takes frames until it has as many as it wants or none is there when a wait ends. Which
frames it takes decides everything else about it: its steps (`takenSteps`, `endSteps`), its verdict
and its progress. `Watch.frames_path` says so of every watch.
-/

namespace FrameWatch

open Relation (ReflTransGen)

/-! ## Progress over several frames -/

namespace Progress

/-- Several frames more, each with the time since the one before it. -/
def recordAll (p : Progress) (frames : List (FrameDescriptor × Duration)) : Progress :=
  frames.foldl (fun p x => p.record x.1 x.2) p

variable (p : Progress) (frames : List (FrameDescriptor × Duration))

theorem frames_recordAll : (p.recordAll frames).frames = p.frames + frames.length := by
  unfold recordAll
  induction frames generalizing p with
  | nil => rfl
  | cons x frames ih =>
    rw [List.foldl_cons, ih, List.length_cons]
    show p.frames + 1 + frames.length = _
    omega

theorem degraded_recordAll :
    (p.recordAll frames).degraded = p.degraded + frames.countP (·.1.degraded) := by
  unfold recordAll
  induction frames generalizing p with
  | nil => rfl
  | cons x frames ih =>
    rw [List.foldl_cons, ih, List.countP_cons]
    show (if x.1.degraded then p.degraded + 1 else p.degraded) + _ = _
    split <;> omega

theorem intervals_recordAll :
    (p.recordAll frames).intervals = (frames.map Prod.snd).foldl Intervals.record p.intervals := by
  unfold recordAll
  induction frames generalizing p with
  | nil => rfl
  | cons x frames ih => exact ih (p.record x.1 x.2)

theorem last_recordAll :
    (p.recordAll frames).lastFrame = (frames.getLast?.map Prod.fst).or p.lastFrame ∧
      (p.recordAll frames).lastInterval = (frames.getLast?.map Prod.snd).or p.lastInterval := by
  rcases List.eq_nil_or_concat frames with rfl | ⟨frames, x, rfl⟩
  · exact ⟨rfl, rfl⟩
  · unfold recordAll
    rw [List.concat_eq_append, List.foldl_append, List.getLast?_append]
    exact ⟨rfl, rfl⟩

end Progress

/-! ## The steps of a watch -/

section Steps

variable (settings : RunSettings)

/-- What is logged about frame number `n`. -/
def reportSteps (n : Nat) (d : FrameDescriptor) : List RunStep :=
  (if d.degraded then [.noted (.event (.fetchFailed n d.sequence))] else []) ++
    if Watch.isDue settings.progressEvery n then
      [.noted (.event (.progress n settings.targetFrames))] else []

/-- The steps that take these frames, after `n` others. -/
def takenSteps (n : Nat) : List FrameDescriptor → List RunStep
  | [] => []
  | d :: taken => .waited (some d) :: (reportSteps settings (n + 1) d ++ takenSteps (n + 1) taken)

/-- The steps that end a watch after `n` frames. -/
def endSteps (n : Nat) (reached : Bool) : List RunStep :=
  if reached then [.noted (.event (.targetReached n))]
  else [.waited none, .noted (.event (.deadlineMissed (n + 1) n settings.frameDeadline))]

end Steps

/-- The verdict on a watch that took `n` frames. -/
def watchVerdict (n : Nat) (reached : Bool) : Verdict :=
  if reached then .completed else .stalled (n + 1)

namespace Watch

variable {σ : Type} (rig : Rig σ) (settings : RunSettings) (s : RunState σ)

theorem standing_wait (deadline : Duration) :
    (wait rig deadline s).2.standing = s.standing.did [.waited (wait rig deadline s).1] := by
  unfold wait
  rw [Act.run_bind]
  show RunState.standing (RunState.step _ _) = _
  rw [RunState.standing_step_own _ rfl, ← Act.standing_deliver rig s]
  rfl

theorem standing_report (e : RunEvent) :
    (report rig e s).2.standing = s.standing.did [.noted (.event e)] := by
  unfold report
  rw [Act.run_bind, Act.standing_deliver, Act.standing_log]

theorem standing_reportFrame (n : Nat) (d : FrameDescriptor) :
    (reportFrame rig settings n d s).2.standing = s.standing.did (reportSteps settings n d) := by
  unfold reportFrame reportSteps
  by_cases hd : d.degraded = true <;> by_cases hdue : isDue settings.progressEvery n = true
  · rw [if_pos hd, if_pos hdue, if_pos hd, if_pos hdue, Act.run_bind, standing_report,
      standing_report, Standing.did_did]
  · rw [if_pos hd, if_neg hdue, if_pos hd, if_neg hdue, Act.run_bind, List.append_nil]
    exact standing_report rig s _
  · rw [if_neg hd, if_pos hdue, if_neg hd, if_pos hdue]
    exact standing_report rig s _
  · rw [if_neg hd, if_neg hdue, if_neg hd, if_neg hdue, List.append_nil, Standing.did_nil]
    rfl

theorem frames_zero (last : Duration) (p : Progress) :
    frames rig settings 0 last p s =
      ((.completed, p), (Act.log (.targetReached p.frames) s).2) := rfl

theorem frames_of_none {remaining : ℕ} (last : Duration) (p : Progress)
    (h : (wait rig settings.frameDeadline s).1 = none) :
    frames rig settings (remaining + 1) last p s =
      ((.stalled (p.frames + 1), p),
        (Act.log (.deadlineMissed (p.frames + 1) p.frames settings.frameDeadline)
          (wait rig settings.frameDeadline s).2).2) := by
  rw [frames, Act.run_bind, h]
  rfl

/-- The progress after a frame that a wait took from `s`. -/
def progressAt (last : Duration) (p : Progress) (d : FrameDescriptor) (s : RunState σ) :
    Progress := p.record d ((rig.clock s.rig).since last)

theorem frames_of_some {remaining : ℕ} (last : Duration) (p : Progress) {d : FrameDescriptor}
    (h : (wait rig settings.frameDeadline s).1 = some d) :
    let s₁ := (wait rig settings.frameDeadline s).2
    let p₁ := progressAt rig last p d s₁
    frames rig settings (remaining + 1) last p s =
      frames rig settings remaining (rig.clock s₁.rig) p₁
        (reportFrame rig settings p₁.frames d s₁).2 := by
  rw [frames, Act.run_bind, h]
  rfl

/-- A watch by the frames that it takes. -/
theorem frames_path (remaining : ℕ) (last : Duration) (p : Progress) :
    ∃ taken : List (FrameDescriptor × Duration), taken.length ≤ remaining ∧
      (frames rig settings remaining last p s).1 =
        (watchVerdict (p.frames + taken.length) (taken.length = remaining), p.recordAll taken) ∧
      (frames rig settings remaining last p s).2.standing =
        s.standing.did (takenSteps settings p.frames (taken.map Prod.fst) ++
          endSteps settings (p.frames + taken.length) (taken.length = remaining)) := by
  induction remaining generalizing last p s with
  | zero => exact ⟨[], le_rfl, rfl, by rw [frames_zero, Act.standing_log]; rfl⟩
  | succ remaining ih =>
    cases hwait : (wait rig settings.frameDeadline s).1 with
    | none =>
      refine ⟨[], by simp, ?_, ?_⟩
      · rw [frames_of_none rig settings s last p hwait]
        rfl
      · rw [frames_of_none rig settings s last p hwait, Act.standing_log, standing_wait, hwait,
          Standing.did_did]
        rfl
    | some d =>
      obtain ⟨taken, hlength, hanswer, hst⟩ := ih
        (reportFrame rig settings (p.frames + 1) d (wait rig settings.frameDeadline s).2).2
        (rig.clock (wait rig settings.frameDeadline s).2.rig)
        (progressAt rig last p d (wait rig settings.frameDeadline s).2)
      have hcount : p.frames + 1 + taken.length = p.frames + (taken.length + 1) := by omega
      have hdone : decide (taken.length = remaining) =
          decide (taken.length + 1 = remaining + 1) := by simp
      refine ⟨(d, (rig.clock (wait rig settings.frameDeadline s).2.rig).since last) :: taken,
        by simpa using hlength, ?_, ?_⟩
      · rw [frames_of_some rig settings s last p hwait, List.length_cons, ← hcount, ← hdone]
        exact hanswer
      · rw [frames_of_some rig settings s last p hwait, List.length_cons, ← hcount, ← hdone]
        refine hst.trans ?_
        rw [standing_reportFrame, standing_wait, hwait, Standing.did_did, Standing.did_did]
        simp only [List.map_cons, takenSteps, List.cons_append, List.append_assoc,
          List.nil_append]
        rfl

/-! ## The moves of a watch -/

theorem wait_watches (deadline : Duration) :
    ReflTransGen (WatchMove rig) s (wait rig deadline s).2 :=
  (Act.deliver_watches rig s _).tail (.take _)

theorem report_watches (e : RunEvent) : ReflTransGen (WatchMove rig) s (report rig e s).2 :=
  (Act.log_watches rig s e).trans (Act.deliver_watches rig _ _)

theorem reportFrame_watches (n : ℕ) (d : FrameDescriptor) :
    ReflTransGen (WatchMove rig) s (reportFrame rig settings n d s).2 := by
  unfold reportFrame
  by_cases hd : d.degraded = true <;> by_cases hdue : isDue settings.progressEvery n = true
  · rw [if_pos hd, if_pos hdue, Act.run_bind]
    exact (report_watches rig s _).trans (report_watches rig _ _)
  · rw [if_pos hd, if_neg hdue, Act.run_bind]
    exact report_watches rig s _
  · rw [if_neg hd, if_pos hdue]
    exact report_watches rig s _
  · rw [if_neg hd, if_neg hdue]
    exact .refl

theorem frames_watches (remaining : ℕ) (last : Duration) (p : Progress) :
    ReflTransGen (WatchMove rig) s (frames rig settings remaining last p s).2 := by
  induction remaining generalizing last p s with
  | zero => exact Act.log_watches rig s _
  | succ remaining ih =>
    have hwaited := wait_watches rig s settings.frameDeadline
    cases hwait : (wait rig settings.frameDeadline s).1 with
    | none =>
      rw [frames_of_none rig settings s last p hwait]
      exact hwaited.trans (Act.log_watches rig _ _)
    | some d =>
      rw [frames_of_some rig settings s last p hwait]
      exact (hwaited.trans (reportFrame_watches rig settings _ _ d)).trans (ih _ _ _)

end Watch

end FrameWatch
