import FrameWatch.Proofs.Run.Waits

/-!
# The law of the verdict

A run counts its frames in the progress of its watch, in the intervals between them and in the
mailbox. Late signals reach only the mailbox, and no wait comes after the watch, so that the frames
handed out by the mailbox tell the verdict and every count.

1. `RunCourse.starts_iff`: setup has succeeded where the camera was started.
2. `RunCourse.consumed_eq` and `RunCourse.endsIdle` read the mailbox of a whole run.
3. `RunCourse.verdictLaw` puts the law together, which `Runner.verdict_law` states of every run.
-/

namespace FrameWatch

open MailboxEvent

/-- Whether the camera was started, as the last step of setup. -/
def Starts (steps : List RunStep) : Prop :=
  ∃ camera size, (.start camera size, none) ∈ answers steps

/-- The last wait ends without a frame, where no signal is left that nobody has taken. -/
def MailboxEvent.EndsIdle (es : List MailboxEvent) : Prop :=
  ∃ before after, es = before ++ .timedOut :: after ∧ signals (sinceCleared before) = [] ∧
    after.filterMap taken? = []

/-- The law of the verdict on a run that wants `target` frames and ends in `s`. -/
structure VerdictLaw {σ : Type} (target : ℕ) (s : RunState σ) (o : Outcome) : Prop where
  completed : Starts s.past.toList → (o.verdict = .completed ↔ o.framesAcquired = target)
  stalled : Starts s.past.toList → o.verdict ≠ .completed →
    o.verdict = .stalled (o.framesAcquired + 1) ∧ o.framesAcquired + 1 ≤ target ∧
      EndsIdle s.mailboxEvents
  acquired : o.framesAcquired = (deliveries s.mailboxEvents).length
  consumed : o.tally.consumed = o.framesAcquired
  intervals : o.intervals.count = o.framesAcquired
  degraded : o.degradedFrames = (deliveries s.mailboxEvents).countP (·.degraded)
  degraded_le : o.degradedFrames ≤ o.framesAcquired
  lastFrame : o.lastFrame = (deliveries s.mailboxEvents).getLast?
  isSome_lastFrame : o.lastFrame.isSome ↔ 0 < o.framesAcquired
  isSome_lastInterval : o.lastInterval.isSome ↔ 0 < o.framesAcquired
  setupFailed : ¬ Starts s.past.toList →
    (∃ e diagnostic, o.verdict = .setupFailed e diagnostic) ∧
      waits s.past.toList = [] ∧ deliveries s.mailboxEvents = []
  nothing : ¬ Starts s.past.toList →
    o.framesAcquired = 0 ∧ o.degradedFrames = 0 ∧ o.tally.consumed = 0 ∧ o.intervals.count = 0 ∧
      o.lastInterval = none ∧ o.lastFrame = none

/-! ## Counting -/

theorem Intervals.count_foldl (ds : List Duration) (i : Intervals) :
    (ds.foldl record i).count = i.count + ds.length := by
  induction ds generalizing i with
  | nil => rfl
  | cons d ds ih =>
    rw [List.foldl_cons, ih, List.length_cons]
    show i.count + 1 + ds.length = _
    omega

@[simp] theorem Intervals.count_ofList (ds : List Duration) : (ofList ds).count = ds.length := by
  unfold ofList
  rw [count_foldl]
  exact Nat.zero_add _

theorem Intervals.ofList_concat (ds : List Duration) (d : Duration) :
    ofList (ds ++ [d]) = (ofList ds).record d := by
  unfold ofList
  rw [List.foldl_append]
  rfl

theorem isSome_getLast?_map {α β : Type} (xs : List α) (f : α → β) :
    (xs.getLast?.map f).isSome ↔ 0 < xs.length := by
  rw [Option.isSome_map, List.getLast?_isSome, List.length_pos_iff]

/-! ## The law on a course -/

theorem SetupPath.start_mem_iff (settings : RunSettings) (f : TeardownFailures)
    (path : SetupPath) :
    (∃ camera size, (.start camera size, none) ∈ path.answers settings ++ path.teardownAnswers f) ↔
      path.error? = none := by
  cases path <;> simp [answers, teardownAnswers, error?, Standing.configureCall]

namespace RunCourse

variable {σ : Type} {rig : Rig σ} {settings : RunSettings} {s₀ s : RunState σ} {o : Outcome}
  {path : SetupPath} {taken : List (FrameDescriptor × Duration)} {f : TeardownFailures}

theorem starts_iff (h : RunCourse rig settings s₀ o s path taken f) :
    Starts s.past.toList ↔ path.error? = none := by
  unfold Starts
  rw [h.answers_eq]
  exact path.start_mem_iff settings f

theorem consumed_eq (h : RunCourse rig settings s₀ o s path taken f) (hs₀ : s₀.KeepsHistory) :
    o.tally.consumed = taken.length := by
  have hledger := (h.moves.history hs₀).ledger
  rw [h.tally, hledger.consumed_eq, sinceReset_of_not_mem s.reset_not_mem, h.deliveries_eq,
    List.length_map]

/-- Where the target is missed, the last wait finds nothing to take. -/
theorem endsIdle (h : RunCourse rig settings s₀ o s path taken f) (hs₀ : s₀.KeepsHistory)
    (hpath : path.error? = none) (hmissed : taken.length ≠ settings.targetFrames) :
    EndsIdle s.mailboxEvents := by
  have hwaits := h.waits_driven
  rw [hpath, ← h.waits_eq, ← s.waits_eq, decide_eq_false hmissed] at hwaits
  obtain ⟨before, after, hes, -, hafter⟩ := exists_timedOut_of_taken hwaits
  exact ⟨before, after, hes, (h.moves.history hs₀).idle_of_timedOut hes, hafter⟩

/-- A run that does not complete misses its target. -/
theorem verdict_cases (h : RunCourse rig settings s₀ o s path taken f)
    (hpath : path.error? = none) :
    (taken.length = settings.targetFrames ∧ o.verdict = .completed) ∨
      (taken.length < settings.targetFrames ∧ o.verdict = .stalled (taken.length + 1)) := by
  have hverdict := h.verdict_of_none hpath
  by_cases hreached : taken.length = settings.targetFrames
  · rw [decide_eq_true hreached] at hverdict
    exact .inl ⟨hreached, hverdict⟩
  · rw [decide_eq_false hreached] at hverdict
    exact .inr ⟨lt_of_le_of_ne h.short hreached, hverdict⟩

theorem verdictLaw (h : RunCourse rig settings s₀ o s path taken f) (hs₀ : s₀.KeepsHistory) :
    VerdictLaw settings.targetFrames s o where
  completed hstarts := by
    rw [h.frames]
    rcases h.verdict_cases (h.starts_iff.mp hstarts) with ⟨hn, hv⟩ | ⟨hn, hv⟩
    · exact iff_of_true hv hn
    · exact iff_of_false (by rw [hv]; simp) hn.ne
  stalled hstarts hne := by
    have hpath := h.starts_iff.mp hstarts
    rw [h.frames]
    rcases h.verdict_cases hpath with ⟨-, hv⟩ | ⟨hn, hv⟩
    · exact absurd hv hne
    · exact ⟨hv, hn, h.endsIdle hs₀ hpath hn.ne⟩
  acquired := by rw [h.frames, h.deliveries_eq, List.length_map]
  consumed := by rw [h.consumed_eq hs₀, h.frames]
  intervals := by rw [h.intervals, Intervals.count_ofList, List.length_map, h.frames]
  degraded := by rw [h.degraded, h.deliveries_eq, List.countP_map]; rfl
  degraded_le := by rw [h.degraded, h.frames]; exact List.countP_le_length
  lastFrame := by rw [h.lastFrame, h.deliveries_eq, List.getLast?_map]
  isSome_lastFrame := by rw [h.lastFrame, h.frames, isSome_getLast?_map]
  isSome_lastInterval := by rw [h.lastInterval, h.frames, isSome_getLast?_map]
  setupFailed hstarts := by
    have hpath : path.error? ≠ none := fun hnone => hstarts (h.starts_iff.mpr hnone)
    obtain ⟨e, he⟩ := Option.ne_none_iff_exists'.mp hpath
    refine ⟨h.verdict_of_ne_none hpath, ?_, by rw [h.deliveries_eq, h.unwatched hpath]; rfl⟩
    rw [h.waits_eq, h.waits_driven, he]
  nothing hstarts := by
    have hpath : path.error? ≠ none := fun hnone => hstarts (h.starts_iff.mpr hnone)
    have htaken := h.unwatched hpath
    rw [h.consumed_eq hs₀, h.frames, h.degraded, h.intervals, h.lastInterval, h.lastFrame, htaken]
    exact ⟨rfl, rfl, rfl, rfl, rfl, rfl⟩

end RunCourse

/-- **The verdict.** Every run keeps the law of the verdict: where setup succeeds, the run completes
with as many frames as it wants or stalls at the frame after those it has taken; all its counts are
those of the frames that it has taken; and where setup fails, it has waited for none. -/
theorem Runner.verdict_law {σ : Type} (rig : Rig σ) (r : Runner σ) (number : ℕ) :
    VerdictLaw r.settings.targetFrames (r.run rig number).2.1 (r.run rig number).1 := by
  obtain ⟨path, taken, f, hcourse⟩ := r.run_course rig number
  exact hcourse.verdictLaw (RunState.keepsHistory_initial r.rig r.mailbox)

end FrameWatch
