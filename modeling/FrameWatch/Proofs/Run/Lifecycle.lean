import FrameWatch.Proofs.Run.Protocol

/-!
# The lifecycle of a run

Which phases a run passes through, as it logs them, and how they fit what it ends in and what it
logs besides.

1. `logged` reads the events of a run off its steps, and `transitions` its changes of phase off
   those.
2. Setup, watch and teardown are gone through one by one: what changes of phase each of them logs
   (`SetupPath.transitions_standing`, `SetupPath.logged_driven`), and that only teardown logs that
   something is given back (`Standing.logged_teardown`).
3. `Lifecycle` says what comes out of it, and `Runner.run_lifecycle` that it does of every run.
-/

namespace FrameWatch

open Act (callSteps)

/-! ## Logged events -/

/-- The event that the step logs. -/
def RunStep.event? : RunStep → Option RunEvent
  | noted e => e.event?
  | _ => none

/-- The events logged by some steps, in order. -/
def logged (steps : List RunStep) : List RunEvent := steps.filterMap RunStep.event?

/-- The events that a run has logged, in order. -/
def RunState.events {σ : Type} (s : RunState σ) : List RunEvent :=
  s.record.toList.filterMap RecordEntry.event?

namespace RunEvent

/-- The phases that a run goes from and to. -/
def transition? : RunEvent → Option (Phase × Phase)
  | transition source target => some (source, target)
  | _ => none

/-- Whether the event tells that something is given back, or cannot be. -/
def isTeardown : RunEvent → Bool
  | abortFailed _ | deregisterFailed _ | contextLeaked | bufferReleased _ | bufferLeaked _
  | closeFailed _ | tornDown => true
  | _ => false

end RunEvent

/-- The changes of phase among events, in order. -/
def transitions (events : List RunEvent) : List (Phase × Phase) :=
  events.filterMap RunEvent.transition?

theorem logged_append (xs ys : List RunStep) : logged (xs ++ ys) = logged xs ++ logged ys :=
  List.filterMap_append

theorem transitions_append (xs ys : List RunEvent) :
    transitions (xs ++ ys) = transitions xs ++ transitions ys :=
  List.filterMap_append

theorem RunState.events_eq {σ : Type} (s : RunState σ) : s.events = logged s.trail := by
  have hother : ∀ e : RunStep, e.isOwn = false → e.event? = none := fun e he => by
    obtain ⟨_, rfl⟩ | ⟨_, _, _, rfl⟩ | ⟨_, rfl⟩ := RunStep.eq_of_not_own he <;> rfl
  unfold logged
  rw [s.filterMap_trail hother]
  unfold events record
  rw [Array.toList_filterMap, List.filterMap_filterMap]
  refine congrArg (fun f => List.filterMap f s.past.toList) (funext fun e => ?_)
  cases e <;> rfl

/-! ## Ways through the phases -/

/-- Each phase on a way with the one behind it. -/
def legs (phases : List Phase) : List (Phase × Phase) := phases.zip phases.tail

/-- The ways of a run through the phases. -/
def Phase.lifecycles : List (List Phase) :=
  [[idle, setupFailed, stopped], [idle, configured, setupFailed, stopped],
    [idle, configured, acquiring, completed, stopped],
    [idle, configured, acquiring, stalled, stopped]]

/-- The stages of setup that come before the frame size is agreed. -/
def SetupStage.early : List SetupStage := [openDevice, selectExposureMode, setupAcquisition]

namespace Verdict

/-- The phase that a run with that verdict is in when it comes to its teardown. -/
def phase : Verdict → Phase
  | completed => .completed
  | stalled _ => .stalled
  | setupFailed .. => .setupFailed

/-- The way of a run with that verdict through the phases. -/
def lifecycle : Verdict → List Phase
  | completed => [.idle, .configured, .acquiring, .completed, .stopped]
  | stalled _ => [.idle, .configured, .acquiring, .stalled, .stopped]
  | setupFailed e _ =>
    if e.stage ∈ SetupStage.early then [.idle, .setupFailed, .stopped]
    else [.idle, .configured, .setupFailed, .stopped]

theorem lifecycle_mem (v : Verdict) : v.lifecycle ∈ Phase.lifecycles := by
  unfold lifecycle
  split
  · decide
  · decide
  · split <;> decide

end Verdict

/-- What the log of a run tells of its phases, next to its outcome. -/
structure Lifecycle (o : Outcome) (events : List RunEvent) : Prop where
  path : ∃! phases, phases ∈ Phase.lifecycles ∧ transitions events = legs phases
  /-- The last phase is entered once, from the one that the verdict stands for. -/
  stops : ∀ source, (source, .stopped) ∈ transitions events ↔ source = o.verdict.phase
  /-- Only the first stages of setup fail before the frame size is agreed. -/
  fails : ∀ e diagnostic, o.verdict = .setupFailed e diagnostic → ∀ source,
    (source, .setupFailed) ∈ transitions events ↔
      source = if e.stage ∈ SetupStage.early then .idle else .configured
  /-- Teardown is logged as a whole between the changes to the last two phases. -/
  teardown : ∃ before source torn after,
    events = before ++ .transition source o.verdict.phase ::
      (torn ++ .tornDown :: .transition o.verdict.phase .stopped :: after) ∧
    (∀ e ∈ before ++ after, e.isTeardown = false) ∧
      ∀ e ∈ torn, e.isTeardown = true ∧ e ≠ .tornDown

/-! ## What setup logs -/

namespace SetupPath

variable (settings : RunSettings) (logsOpening : Bool) (path : SetupPath)

theorem transitions_standing :
    transitions (logged (path.standing settings logsOpening).trail) =
      if (path.standing settings logsOpening).phase = .idle then []
      else [(.idle, .configured)] := by
  cases path <;> cases logsOpening <;> rfl

theorem quiet_standing :
    ∀ e ∈ logged (path.standing settings logsOpening).trail, e.isTeardown = false := by
  have hall : (logged (path.standing settings logsOpening).trail).all (!·.isTeardown) = true := by
    cases path <;> cases logsOpening <;> rfl
  simpa using hall

theorem phase_standing_of_none (h : path.error? = none) :
    (path.standing settings logsOpening).phase = .configured := by
  cases path with
  | succeeds => rfl
  | _ => cases h

theorem phase_standing_of_some {e : SetupError} (h : path.error? = some e) :
    (path.standing settings logsOpening).phase =
      if e.stage ∈ SetupStage.early then .idle else .configured := by
  cases path with
  | succeeds => cases h
  | _ =>
    obtain rfl := Option.some.inj h
    rfl

end SetupPath

/-! ## What the watch logs -/

/-- Neither a change of phase nor teardown. -/
def RunEvent.isQuiet (e : RunEvent) : Bool := e.transition?.isNone && !e.isTeardown

section Watch

variable (settings : RunSettings)

theorem quiet_reportSteps (n : ℕ) (d : FrameDescriptor) :
    ∀ e ∈ logged (reportSteps settings n d), e.isQuiet = true := by
  unfold reportSteps
  split <;> split <;> simp [logged, RunStep.event?, RecordEntry.event?, RunEvent.isQuiet,
    RunEvent.transition?, RunEvent.isTeardown]

theorem quiet_takenSteps (n : ℕ) (taken : List FrameDescriptor) :
    ∀ e ∈ logged (takenSteps settings n taken), e.isQuiet = true := by
  induction taken generalizing n with
  | nil => simp [takenSteps, logged]
  | cons d taken ih =>
    have hwaited : logged (takenSteps settings n (d :: taken)) =
        logged (reportSteps settings (n + 1) d) ++ logged (takenSteps settings (n + 1) taken) :=
      logged_append (reportSteps settings (n + 1) d) _
    rw [hwaited, List.forall_mem_append]
    exact ⟨quiet_reportSteps settings _ d, ih _⟩

theorem quiet_endSteps (n : ℕ) (reached : Bool) :
    ∀ e ∈ logged (endSteps settings n reached), e.isQuiet = true := by
  cases reached <;> simp [endSteps, logged, RunStep.event?, RecordEntry.event?,
    RunEvent.isQuiet, RunEvent.transition?, RunEvent.isTeardown]

end Watch

theorem quiet_of_gaps {events : List RunEvent}
    (h : ∀ e ∈ events, ∃ gaps lost, e = .gapsDetected gaps lost) :
    ∀ e ∈ events, e.isQuiet = true := fun e he => by
  obtain ⟨gaps, lost, rfl⟩ := h e he
  rfl

theorem transitions_of_quiet {events : List RunEvent} (h : ∀ e ∈ events, e.isQuiet = true) :
    transitions events = [] := by
  refine List.filterMap_eq_nil_iff.mpr fun e he => ?_
  have hquiet := h e he
  unfold RunEvent.isQuiet at hquiet
  simp_all

/-! ## What is logged between setup and teardown -/

theorem SetupError.logged_steps (e : SetupError) (source : Phase) :
    logged (e.steps source) = [.setupFailed e, .transition source .setupFailed] := by
  obtain ⟨stage, cause⟩ := e
  cases cause <;> rfl

theorem logged_watchSteps (settings : RunSettings) (source : Phase)
    (taken : List FrameDescriptor) : ∃ quiet, (∀ e ∈ quiet, RunEvent.isQuiet e = true) ∧
      logged (watchSteps settings source taken) = .transition source .acquiring :: (quiet ++
        [.transition .acquiring (watchPhase (taken.length = settings.targetFrames))]) := by
  refine ⟨logged (takenSteps settings 0 taken ++ endSteps settings taken.length
    (taken.length = settings.targetFrames)), ?_, ?_⟩
  · rw [logged_append, List.forall_mem_append]
    exact ⟨quiet_takenSteps settings 0 taken, quiet_endSteps settings _ _⟩
  · unfold watchSteps
    rw [← List.singleton_append, logged_append, logged_append]
    rfl

namespace SetupPath

variable (settings : RunSettings) (path : SetupPath) (source : Phase)
  (taken : List FrameDescriptor)

theorem transitions_driven :
    transitions (logged (path.drivenSteps settings taken source)) =
      match path.error? with
      | some _ => [(source, .setupFailed)]
      | none => [(source, .acquiring), (.acquiring, path.drivenPhase settings taken)] := by
  unfold drivenSteps drivenPhase
  cases path.error? with
  | some e =>
    dsimp only
    rw [e.logged_steps]
    rfl
  | none =>
    dsimp only
    obtain ⟨quiet, hquiet, hlogged⟩ := logged_watchSteps settings source taken
    rw [hlogged, ← List.singleton_append, transitions_append, transitions_append,
      transitions_of_quiet hquiet]
    rfl

/-- Setup or watch end with the change to the phase in which teardown begins. -/
theorem logged_driven : ∃ before source',
    logged (path.drivenSteps settings taken source) =
      before ++ [.transition source' (path.drivenPhase settings taken)] ∧
    ∀ e ∈ before, RunEvent.isTeardown e = false := by
  unfold drivenSteps drivenPhase
  cases path.error? with
  | some e => exact ⟨[.setupFailed e], source, e.logged_steps source, by simp [RunEvent.isTeardown]⟩
  | none =>
    obtain ⟨quiet, hquiet, hlogged⟩ := logged_watchSteps settings source taken
    refine ⟨.transition source .acquiring :: quiet, .acquiring, hlogged,
      List.forall_mem_cons.mpr ⟨rfl, fun e he => ?_⟩⟩
    have hnone := hquiet e he
    unfold RunEvent.isQuiet at hnone
    simp_all

end SetupPath

/-! ## What teardown logs -/

/-- The steps log that something is given back or cannot be, and nothing else. -/
def LogsTeardown (steps : List RunStep) : Prop :=
  ∀ e ∈ logged steps, e.isTeardown = true ∧ e ≠ .tornDown

theorem LogsTeardown.append {xs ys : List RunStep} (hxs : LogsTeardown xs)
    (hys : LogsTeardown ys) : LogsTeardown (xs ++ ys) := by
  unfold LogsTeardown
  rw [logged_append, List.forall_mem_append]
  exact ⟨hxs, hys⟩

theorem logsTeardown_nil : LogsTeardown [] := fun _ h => nomatch h

theorem logsTeardown_attempt (c : CameraCall) (failure : Option CameraError)
    {event : CameraError → RunEvent}
    (h : ∀ e, (event e).isTeardown = true ∧ event e ≠ .tornDown) :
    LogsTeardown (attemptSteps c failure event) := by
  cases failure with
  | none => exact logsTeardown_nil
  | some e => exact List.forall_mem_singleton.mpr (h e)

theorem logsTeardown_event {event : RunEvent} (h : event.isTeardown = true ∧ event ≠ .tornDown) :
    LogsTeardown [.noted (.event event)] :=
  List.forall_mem_singleton.mpr h

namespace Standing

variable (s : Standing) (failure : Option CameraError)

theorem logsTeardown_abort : LogsTeardown (s.abortSteps failure) := by
  unfold abortSteps
  cases s.camera with
  | none => exact logsTeardown_nil
  | some camera => exact logsTeardown_attempt _ failure fun _ => ⟨rfl, by simp⟩

theorem logsTeardown_deregister : LogsTeardown (s.deregisterSteps failure) := by
  unfold deregisterSteps
  cases s.camera with
  | none => exact logsTeardown_nil
  | some camera =>
    dsimp only [Option.elim]
    split
    · exact logsTeardown_attempt _ failure fun _ => ⟨rfl, by simp⟩
    · exact logsTeardown_nil

theorem logsTeardown_context : LogsTeardown (s.contextSteps failure) := by
  unfold contextSteps
  split
  · split
    · exact logsTeardown_nil
    · exact logsTeardown_event ⟨rfl, by simp⟩
  · exact logsTeardown_nil

theorem logsTeardown_buffer : LogsTeardown (s.bufferSteps failure) := by
  unfold bufferSteps
  split
  · split
    · exact logsTeardown_event ⟨rfl, by simp⟩
    · exact logsTeardown_event ⟨rfl, by simp⟩
  · exact logsTeardown_nil

theorem logsTeardown_close : LogsTeardown (s.closeSteps failure) := by
  unfold closeSteps
  cases s.camera with
  | none => exact logsTeardown_nil
  | some camera => exact logsTeardown_attempt _ failure fun _ => ⟨rfl, by simp⟩

theorem logged_teardown (f : TeardownFailures) : ∃ torn,
    logged (s.teardownSteps f) = torn ++ [.tornDown] ∧
      ∀ e ∈ torn, e.isTeardown = true ∧ e ≠ .tornDown :=
  ⟨_, logged_append _ [.noted (.event .tornDown)],
    ((((s.logsTeardown_abort _).append (s.logsTeardown_deregister _)).append
      (s.logsTeardown_context _)).append (s.logsTeardown_buffer _)).append
      (s.logsTeardown_close _)⟩

end Standing

theorem transitions_of_teardown {events : List RunEvent} (h : ∀ e ∈ events, e.isTeardown = true) :
    transitions events = [] := by
  refine List.filterMap_eq_nil_iff.mpr fun e he => ?_
  have hteardown := h e he
  cases e <;> first | rfl | cases hteardown

/-! ## What a whole run logs -/

namespace RunCourse

variable {σ : Type} {rig : Rig σ} {settings : RunSettings} {s₀ s : RunState σ} {o : Outcome}
  {path : SetupPath} {taken : List (FrameDescriptor × Duration)} {f : TeardownFailures}

theorem drivenPhase_eq (h : RunCourse rig settings s₀ o s path taken f) :
    path.drivenPhase settings (taken.map Prod.fst) = o.verdict.phase := by
  have hverdict := h.verdict
  unfold SetupPath.drivenPhase
  cases herror : path.error? with
  | some e =>
    rw [herror] at hverdict
    obtain ⟨diagnostic, hverdict⟩ := hverdict
    rw [hverdict]
    rfl
  | none =>
    rw [herror] at hverdict
    dsimp only at hverdict ⊢
    rw [hverdict, List.length_map]
    unfold watchVerdict watchPhase
    split <;> rfl

/-- The events of a run by its course. -/
theorem events_eq (h : RunCourse rig settings s₀ o s path taken f) :
    ∃ gaps : List RunEvent, (∀ e ∈ gaps, ∃ events lost, e = .gapsDetected events lost) ∧
      s.events = logged (path.standing settings rig.logsOpening).trail ++
        logged (path.drivenSteps settings (taken.map Prod.fst)
          (path.standing settings rig.logsOpening).phase) ++
        logged ((path.standing settings rig.logsOpening).teardownSteps f) ++
        .transition o.verdict.phase .stopped :: gaps := by
  obtain ⟨gaps, hgaps, hst⟩ := h.standing
  have htrail : s.trail = _ := congrArg Standing.trail hst
  refine ⟨logged gaps, fun e he => ?_, ?_⟩
  · obtain ⟨step, hstep, he⟩ := List.mem_filterMap.mp he
    obtain ⟨events, lost, rfl⟩ := hgaps step hstep
    exact ⟨events, lost, (Option.some.inj he).symm⟩
  · rw [s.events_eq, htrail, ← h.drivenPhase_eq, ← logged_append, ← logged_append]
    exact logged_append _ _

/-- A run goes the way of its verdict. -/
theorem transitions_eq (h : RunCourse rig settings s₀ o s path taken f) :
    transitions s.events = legs o.verdict.lifecycle := by
  obtain ⟨gaps, hgaps, hevents⟩ := h.events_eq
  obtain ⟨torn, htorn, hteardown⟩ :=
    (path.standing settings rig.logsOpening).logged_teardown f
  have hnone : transitions (torn ++ [.tornDown]) = [] :=
    transitions_of_teardown (List.forall_mem_append.mpr
      ⟨fun e he => (hteardown e he).1, List.forall_mem_singleton.mpr rfl⟩)
  have hlast : transitions (.transition o.verdict.phase .stopped :: gaps) =
      [(o.verdict.phase, .stopped)] := by
    rw [← List.singleton_append, transitions_append, transitions_of_quiet (quiet_of_gaps hgaps)]
    rfl
  rw [hevents, transitions_append, transitions_append, transitions_append, htorn, hnone, hlast,
    path.transitions_standing, path.transitions_driven, h.drivenPhase_eq]
  have hverdict := h.verdict
  cases herror : path.error? with
  | some e =>
    rw [herror] at hverdict
    obtain ⟨diagnostic, hverdict⟩ := hverdict
    rw [path.phase_standing_of_some settings _ herror, hverdict]
    by_cases hearly : e.stage ∈ SetupStage.early <;>
      simp [Verdict.lifecycle, Verdict.phase, hearly, legs]
  | none =>
    rw [path.phase_standing_of_none settings _ herror, h.verdict_of_none herror,
      if_neg (by decide)]
    cases decide (taken.length = settings.targetFrames) <;> rfl

theorem torn_between (h : RunCourse rig settings s₀ o s path taken f) :
    ∃ before source torn after,
      s.events = before ++ .transition source o.verdict.phase ::
        (torn ++ .tornDown :: .transition o.verdict.phase .stopped :: after) ∧
      (∀ e ∈ before ++ after, e.isTeardown = false) ∧
        ∀ e ∈ torn, e.isTeardown = true ∧ e ≠ .tornDown := by
  obtain ⟨gaps, hgaps, hevents⟩ := h.events_eq
  obtain ⟨torn, htorn, hteardown⟩ :=
    (path.standing settings rig.logsOpening).logged_teardown f
  obtain ⟨before, source, hdriven, hbefore⟩ := path.logged_driven settings
    (path.standing settings rig.logsOpening).phase (taken.map Prod.fst)
  rw [h.drivenPhase_eq] at hdriven
  refine ⟨logged (path.standing settings rig.logsOpening).trail ++ before, source, torn, gaps, ?_,
    ?_, hteardown⟩
  · rw [hevents, hdriven, htorn]
    simp only [List.append_assoc, List.cons_append, List.nil_append]
  · simp only [List.forall_mem_append]
    refine ⟨⟨path.quiet_standing settings _, hbefore⟩, fun e he => ?_⟩
    have hquiet := quiet_of_gaps hgaps e he
    unfold RunEvent.isQuiet at hquiet
    simp_all

theorem lifecycle (h : RunCourse rig settings s₀ o s path taken f) : Lifecycle o s.events where
  path := by
    have hunique : ∀ phases ∈ Phase.lifecycles, ∀ phases' ∈ Phase.lifecycles,
        legs phases = legs phases' → phases = phases' := by decide
    have hmem := o.verdict.lifecycle_mem
    rw [h.transitions_eq]
    exact ⟨o.verdict.lifecycle, ⟨hmem, rfl⟩, fun phases ⟨hphases, hlegs⟩ =>
      hunique phases hphases _ hmem hlegs.symm⟩
  stops source := by
    rw [h.transitions_eq]
    cases o.verdict with
    | setupFailed e diagnostic =>
      by_cases hearly : e.stage ∈ SetupStage.early <;>
        simp [Verdict.lifecycle, Verdict.phase, hearly, legs]
    | _ => simp [Verdict.lifecycle, Verdict.phase, legs]
  fails e diagnostic hverdict source := by
    rw [h.transitions_eq, hverdict]
    by_cases hearly : e.stage ∈ SetupStage.early <;> simp [Verdict.lifecycle, hearly, legs]
  teardown := h.torn_between

end RunCourse

/-- **The lifecycle.** Every run goes one of the ways through the phases, the one that its verdict
stands for, and logs its teardown between the last two of them. -/
theorem Runner.run_lifecycle {σ : Type} (rig : Rig σ) (r : Runner σ) (number : ℕ) :
    Lifecycle (r.run rig number).1 (r.run rig number).2.1.events := by
  obtain ⟨path, taken, f, hcourse⟩ := r.run_course rig number
  exact hcourse.lifecycle

end FrameWatch
