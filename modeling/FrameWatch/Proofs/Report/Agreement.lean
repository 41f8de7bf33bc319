import FrameWatch.Error
import FrameWatch.Proofs.Run.Verdict
import FrameWatch.Proofs.Text.Keys
import FrameWatch.Report
import Mathlib.Tactic.TFAE

/-!
# Reports, results and verdicts

How a run ended is told three times: by the verdict of its outcome, by its report, which classifies
it for people, scripts and the exit code, and by its result, which is an error or the outcome
itself. `Agreement` says what they have in common, and `Runner.report_agrees` that they agree on
whatever a run can end in.

1. `Agreement.ofOutcome` needs two facts about an outcome: a stall names the frame behind those
   acquired, and there are intervals just if there are frames.
2. `RunCourse.stall_frame` and `RunCourse.isSome_summary` read them off the course of a run.
-/

namespace FrameWatch

/-! ## Optional keys -/

namespace Report

variable (r : Report)

/-- The keys that are left out of the document where there is nothing to say, and whether there
is. -/
def optionalKeys : List (String × Bool) :=
  [("stalled_at_frame", r.stalledAt.isSome), ("failed_stage", r.failedStage.isSome),
    ("error", r.error.isSome), ("sdk_error", r.diagnostic.isSome),
    ("intervals", r.intervals.isSome), ("leaked", !r.leaked.isEmpty)]

/-- The key, if it is there. -/
def keyIf (present : Bool) (key : String) : List String := if present then [key] else []

theorem mem_keyIf {present : Bool} {key name : String} :
    key ∈ keyIf present name ↔ present = true ∧ key = name := by
  cases present <;> simp [keyIf]

theorem keys_toList {α : Type} (x : Option α) (key : String) (value : α → Json) :
    (x.toList.map fun a => (key, value a)).map Prod.fst = keyIf x.isSome key := by
  cases x <;> rfl

/-- The keys of the document in their order. -/
theorem keys_eq :
    r.fields.map Prod.fst =
      ["run", "camera", "started_at", "elapsed", "status", "frames_acquired", "target_frames",
        "frame_deadline"] ++ keyIf r.stalledAt.isSome "stalled_at_frame" ++
      keyIf r.failedStage.isSome "failed_stage" ++ keyIf r.error.isSome "error" ++
      keyIf r.diagnostic.isSome "sdk_error" ++
      ["degraded_frames", "coalesced_signals", "callback_invocations", "gap_events",
        "lost_frames"] ++
      keyIf r.intervals.isSome "intervals" ++ keyIf (!r.leaked.isEmpty) "leaked" := by
  have hleaked : (if r.leaked.isEmpty then []
      else [("leaked", Json.list (r.leaked.map .text))]).map Prod.fst =
      keyIf (!r.leaked.isEmpty) "leaked" := by
    cases r.leaked.isEmpty <;> rfl
  unfold fields
  simp only [List.map_append, keys_toList, hleaked]
  rfl

theorem simple_keyIf {present : Bool} {key : String} (h : Json.Simple key) :
    ∀ k ∈ keyIf present key, Json.Simple k := fun k hk => by
  rwa [(mem_keyIf.mp hk).2]

theorem simple_keys : ∀ f ∈ r.fields, Json.Simple f.1 := by
  have hkeys : ∀ key ∈ r.fields.map Prod.fst, Json.Simple key := by
    rw [keys_eq]
    simp only [List.forall_mem_append]
    refine ⟨⟨⟨⟨⟨⟨⟨?_, simple_keyIf ?_⟩, simple_keyIf ?_⟩, simple_keyIf ?_⟩, simple_keyIf ?_⟩, ?_⟩,
      simple_keyIf ?_⟩, simple_keyIf ?_⟩ <;> decide
  exact fun f hf => hkeys f.1 (List.mem_map_of_mem hf)

/-- An optional key is shown just if there is something to say. -/
theorem shows_optional_iff {key : String} {present : Bool} (h : (key, present) ∈ r.optionalKeys) :
    Json.Shows r.json key ↔ present = true := by
  have hshows : ∀ name, Json.Simple name →
      (Json.Shows r.json name ↔ name ∈ r.fields.map Prod.fst) := fun name hname =>
    Json.shows_object_iff hname r.simple_keys
  simp only [optionalKeys, List.mem_cons, List.not_mem_nil, or_false, Prod.mk.injEq] at h
  rcases h with ⟨rfl, rfl⟩ | ⟨rfl, rfl⟩ | ⟨rfl, rfl⟩ | ⟨rfl, rfl⟩ | ⟨rfl, rfl⟩ | ⟨rfl, rfl⟩ <;>
    rw [hshows _ (by decide), r.keys_eq] <;>
    simp [mem_keyIf]

end Report

/-! ## Summaries of intervals -/

namespace Intervals

theorem isSome_extremes_ofList (ds : List Duration) :
    ((ofList ds).shortest.isSome ↔ 0 < ds.length) ∧
      ((ofList ds).longest.isSome ↔ 0 < ds.length) := by
  rcases List.eq_nil_or_concat ds with rfl | ⟨ds, d, rfl⟩
  · simp [ofList, empty]
  · rw [List.concat_eq_append, ofList_concat]
    simp [record]

theorem isSome_mean (s : Intervals) : s.mean.isSome ↔ 0 < s.count := by
  unfold mean
  split <;> simp_all

end Intervals

theorem IntervalSummary.isSome_of? (o : Outcome) :
    (of? o).isSome ↔ o.intervals.shortest.isSome ∧ o.intervals.longest.isSome ∧
      o.intervals.mean.isSome ∧ o.lastInterval.isSome := by
  unfold of?
  cases o.intervals.shortest <;> cases o.intervals.longest <;> cases o.intervals.mean <;>
    cases o.lastInterval <;> simp

/-! ## Agreement -/

/-- A report, the outcome that it is on, and what that outcome amounts to tell the same. -/
structure Agreement (o : Outcome) (report : Report) : Prop where
  completed : [report.status = .completed, report.exitCode = 0, o.isCompleted = true,
    ∃ x, o.result = .ok x, o.result = .ok o, report.error = none].TFAE
  stalled : [report.status = .stalled, report.exitCode = 1,
    ∃ frame acquired deadline, o.result = .error (.stall frame acquired deadline)].TFAE
  setupFailed : [report.status = .setupFailed, report.exitCode = 2,
    ∃ e, o.result = .error (.setup e)].TFAE
  /-- The frame that missed its deadline is the one behind those acquired, wherever it is named. -/
  stall : report.status = .stalled →
    let frame := o.framesAcquired + 1
    report.stalledAt = some frame ∧
      o.result = .error (.stall frame o.framesAcquired o.frameDeadline) ∧
      report.headline = "STALLED at frame " ++ toString frame ++ " (" ++ toString o.framesAcquired
        ++ " frames acquired, deadline " ++ o.frameDeadline.spell ++ ")" ∧
      report.error = some ("no frame within " ++ o.frameDeadline.spell
        ++ " while waiting for frame " ++ toString frame)
  failure : report.status = .setupFailed → ∃ e, o.result = .error (.setup e) ∧
    report.failedStage = some e.stage ∧ report.error = some (ProbeError.setup e).describe
  diagnostic : ∀ d, report.diagnostic = some d ↔ ∃ e, o.verdict = .setupFailed e (some d)
  intervals : report.intervals.isSome = true ↔ 0 < o.framesAcquired
  leaked : ∀ name, name ∈ report.leaked ↔
    name = "circular_buffer" ∧ o.teardown.bufferLeaked = true ∨
      name = "callback_context" ∧ o.teardown.contextLeaked = true
  leaked_once : report.leaked.Nodup
  keys : ∀ key present, (key, present) ∈ report.optionalKeys →
    (Json.Shows report.json key ↔ present = true)

theorem TeardownSummary.mem_names (s : TeardownSummary) (name : String) :
    name ∈ s.names ↔ name = "circular_buffer" ∧ s.bufferLeaked = true ∨
      name = "callback_context" ∧ s.contextLeaked = true := by
  obtain ⟨buffer, context⟩ := s
  cases buffer <;> cases context <;> simp [names]

theorem TeardownSummary.nodup_names (s : TeardownSummary) : s.names.Nodup := by
  obtain ⟨buffer, context⟩ := s
  cases buffer <;> cases context <;> simp [names]

section Classification

variable (o : Outcome)

theorem Outcome.result_eq :
    o.result = match o.verdict with
      | .completed => .ok o
      | .stalled frame => .error (.stall frame o.framesAcquired o.frameDeadline)
      | .setupFailed e _ => .error (.setup e) := by
  unfold result error?
  cases o.verdict <;> rfl

theorem Report.tfae_completed :
    [(Report.ofOutcome o).status = .completed, (Report.ofOutcome o).exitCode = 0,
      o.isCompleted = true, ∃ x, o.result = .ok x, o.result = .ok o,
      (Report.ofOutcome o).error = none].TFAE := by
  refine List.tfae_of_forall (o.verdict = .completed) _ ?_
  unfold Report.exitCode Report.ofOutcome Outcome.isCompleted
  rw [o.result_eq]
  cases o.verdict <;> simp [Verdict.status, Verdict.error?, RunStatus.exitCode]

theorem Report.tfae_stalled :
    [(Report.ofOutcome o).status = .stalled, (Report.ofOutcome o).exitCode = 1,
      ∃ frame acquired deadline, o.result = .error (.stall frame acquired deadline)].TFAE := by
  refine List.tfae_of_forall (o.verdict.status = .stalled) _ ?_
  unfold Report.exitCode Report.ofOutcome
  rw [o.result_eq]
  cases o.verdict <;> simp [Verdict.status, RunStatus.exitCode]

theorem Report.tfae_setupFailed :
    [(Report.ofOutcome o).status = .setupFailed, (Report.ofOutcome o).exitCode = 2,
      ∃ e, o.result = .error (.setup e)].TFAE := by
  refine List.tfae_of_forall (o.verdict.status = .setupFailed) _ ?_
  unfold Report.exitCode Report.ofOutcome
  rw [o.result_eq]
  cases o.verdict <;> simp [Verdict.status, RunStatus.exitCode]

end Classification

theorem Verdict.of_stalled {v : Verdict} (h : v.status = .stalled) :
    ∃ frame, v = .stalled frame := by
  cases v with
  | stalled frame => exact ⟨frame, rfl⟩
  | _ => cases h

theorem Verdict.of_setupFailed {v : Verdict} (h : v.status = .setupFailed) :
    ∃ e diagnostic, v = .setupFailed e diagnostic := by
  cases v with
  | setupFailed e diagnostic => exact ⟨e, diagnostic, rfl⟩
  | _ => cases h

/-- The verdict decides nearly all of it; the rest is what it says of a stall, and that there are
intervals just if there are frames. -/
theorem Agreement.ofOutcome {o : Outcome}
    (hstall : ∀ frame, o.verdict = .stalled frame → frame = o.framesAcquired + 1)
    (hintervals : (IntervalSummary.of? o).isSome ↔ 0 < o.framesAcquired) :
    Agreement o (.ofOutcome o) where
  completed := Report.tfae_completed o
  stalled := Report.tfae_stalled o
  setupFailed := Report.tfae_setupFailed o
  stall hstatus := by
    obtain ⟨frame, hverdict⟩ := Verdict.of_stalled hstatus
    obtain rfl := hstall frame hverdict
    unfold Report.headline Report.ofOutcome
    rw [o.result_eq, hverdict]
    exact ⟨rfl, rfl, rfl, rfl⟩
  failure hstatus := by
    obtain ⟨e, diagnostic, hverdict⟩ := Verdict.of_setupFailed hstatus
    refine ⟨e, ?_⟩
    unfold Report.ofOutcome
    rw [o.result_eq, hverdict]
    exact ⟨rfl, rfl, rfl⟩
  diagnostic d := by
    show o.verdict.diagnostic? = some d ↔ _
    cases o.verdict <;> simp [Verdict.diagnostic?]
  intervals := hintervals
  leaked := o.teardown.mem_names
  leaked_once := o.teardown.nodup_names
  keys _ _ := Report.shows_optional_iff _

/-! ## Outcomes of runs -/

namespace RunCourse

variable {σ : Type} {rig : Rig σ} {settings : RunSettings} {s₀ s : RunState σ} {o : Outcome}
  {path : SetupPath} {taken : List (FrameDescriptor × Duration)} {f : TeardownFailures}

/-- A stall is at the frame behind those acquired. -/
theorem stall_frame (h : RunCourse rig settings s₀ o s path taken f) {frame : ℕ}
    (hstalled : o.verdict = .stalled frame) : frame = o.framesAcquired + 1 := by
  by_cases hpath : path.error? = none
  · rcases h.verdict_cases hpath with ⟨-, hverdict⟩ | ⟨-, hverdict⟩
    · cases hverdict.symm.trans hstalled
    · obtain rfl := Verdict.stalled.inj (hverdict.symm.trans hstalled)
      rw [h.frames]
  · obtain ⟨e, diagnostic, hverdict⟩ := h.verdict_of_ne_none hpath
    cases hverdict.symm.trans hstalled

/-- There are intervals just if there are frames. -/
theorem isSome_summary (h : RunCourse rig settings s₀ o s path taken f) :
    (IntervalSummary.of? o).isSome ↔ 0 < o.framesAcquired := by
  obtain ⟨hshortest, hlongest⟩ := Intervals.isSome_extremes_ofList (taken.map Prod.snd)
  rw [IntervalSummary.isSome_of?, Intervals.isSome_mean, h.intervals, h.lastInterval, h.frames,
    hshortest, hlongest, Intervals.count_ofList, isSome_getLast?_map, List.length_map]
  simp only [and_self]

end RunCourse

/-- **Agreement.** Whatever a run ends in, its report, its result and its verdict agree. -/
theorem Runner.report_agrees {σ : Type} (rig : Rig σ) (r : Runner σ) (number : ℕ) :
    Agreement (r.run rig number).1 (.ofOutcome (r.run rig number).1) := by
  obtain ⟨path, taken, f, hcourse⟩ := r.run_course rig number
  exact Agreement.ofOutcome (fun _ => hcourse.stall_frame) hcourse.isSome_summary

end FrameWatch
