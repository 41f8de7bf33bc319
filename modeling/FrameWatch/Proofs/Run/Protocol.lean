import FrameWatch.Proofs.Run.Course

/-!
# The call protocol

Which calls a run makes to the camera, and in which order, whatever the camera answers and whenever
it announces frames.

1. `ownCalls` and `answers` read the calls of the run, and how they ended, off its steps.
2. `CallProtocol` states the protocol, and `Runner.call_protocol` that every run keeps it.
-/

namespace FrameWatch

open Act (callSteps)

namespace RunStep

/-- The call that the run makes; fetches are made by the handler. -/
def ownCall? : RunStep → Option CameraCall
  | noted (.call (.fetch _)) => none
  | noted (.call c) => some c
  | _ => none

/-- The call that returns, with its error if it failed. -/
def answer? : RunStep → Option (CameraCall × Option CameraError)
  | answered c failure => some (c, failure)
  | _ => none

/-- How a wait ends. -/
def wait? : RunStep → Option (Option FrameDescriptor)
  | waited taken => some taken
  | _ => none

end RunStep

/-- The calls made, in order, fetches left out. -/
def ownCalls (steps : List RunStep) : List CameraCall := steps.filterMap RunStep.ownCall?

/-- The calls that have returned, in order, each with its error if it failed. -/
def answers (steps : List RunStep) : List (CameraCall × Option CameraError) :=
  steps.filterMap RunStep.answer?

/-- How the waits have ended, in order: with a frame or without. -/
def waits (steps : List RunStep) : List (Option FrameDescriptor) := steps.filterMap RunStep.wait?

/-- Some `a` comes before some `b`. -/
def Precedes (steps : List RunStep) (a b : RunStep) : Prop := [a, b].Sublist steps

/-- Whether the event is about the buffer. -/
def RunEvent.isBuffer : RunEvent → Bool
  | bufferAllocated _ | bufferReleased _ | bufferLeaked _ => true
  | _ => false

/-! ## The protocol -/

/-- The calls of setup in their order, on a camera that answers with this handle and this mode, and
with a buffer of this size. -/
def setupCalls (settings : RunSettings) (camera : Handle) (mode : NegotiatedMode) (size : ℕ) :
    List CameraCall :=
  [.openCamera settings.camera, .selectMode camera settings.exposureMode,
    .configure camera settings.region mode settings.exposureMs settings.bufferPolicy,
    .register camera, .start camera size]

/-- The question about a failure of setup. -/
def diagnosisCalls : Verdict → List CameraCall
  | .setupFailed ⟨_, .camera _⟩ _ => [.lastError]
  | _ => []

/-- The calls of teardown. -/
def teardownCalls (camera : Handle) (registered : Bool) : List CameraCall :=
  .abort camera :: (if registered then [.deregister camera] else []) ++ [.close camera]

/-- The protocol of a run that made `made` calls of setup. -/
structure CallProtocol (settings : RunSettings) (steps : List RunStep) (verdict : Verdict)
    (camera : Handle) (mode : NegotiatedMode) (size made : ℕ) : Prop where
  calls : ownCalls steps =
    (setupCalls settings camera mode size).take made ++ diagnosisCalls verdict ++
      if (.openCamera settings.camera, none) ∈ answers steps then
        teardownCalls camera ((.register camera, none) ∈ answers steps)
      else []
  once : (ownCalls steps).Nodup
  /-- Every call returns once, in the order of the calls. -/
  returns : (answers steps).map Prod.fst = (ownCalls steps).filter (· ≠ .lastError)
  opens : 0 < made
  /-- A call of setup is made only if those before it succeeded. -/
  succeeds : ∀ c ∈ (setupCalls settings camera mode size).take (made - 1), (c, none) ∈ answers steps
  /-- The handler is registered only once there is a buffer. -/
  buffered : 3 < made → ∃ buffer,
    Precedes steps (.noted (.event (.bufferAllocated buffer))) (.noted (.call (.register camera)))
  /-- Setup ends early only where something fails. -/
  fails : made < 5 →
    (∃ c e, ((setupCalls settings camera mode size).take made).getLast? = some c ∧
      (c, some e) ∈ answers steps) ∨
    made = 3 ∧ ∃ e diagnostic, verdict = .setupFailed ⟨.allocateBuffer, .allocation e⟩ diagnostic
  /-- No wait comes after a call of teardown. -/
  afterWatch : ∀ c ∈ teardownCalls camera true, ∀ taken,
    ¬ Precedes steps (.noted (.call c)) (.waited taken)

/-! ## Reading the steps of a run -/

theorem RunState.filterMap_trail {σ β : Type} (s : RunState σ) {f : RunStep → Option β}
    (hf : ∀ e, e.isOwn = false → f e = none) : s.trail.filterMap f = s.past.toList.filterMap f := by
  unfold trail
  rw [List.filterMap_filter]
  congr 1
  funext e
  by_cases h : e.isOwn = true
  · rw [if_pos h]
  · rw [if_neg h, hf e (by simpa using h)]

theorem RunState.ownCalls_trail {σ : Type} (s : RunState σ) :
    ownCalls s.trail = ownCalls s.past.toList :=
  s.filterMap_trail fun e he => by
    obtain ⟨_, rfl⟩ | ⟨_, _, _, rfl⟩ | ⟨_, rfl⟩ := RunStep.eq_of_not_own he <;> rfl

theorem RunState.answers_trail {σ : Type} (s : RunState σ) :
    answers s.trail = answers s.past.toList :=
  s.filterMap_trail fun e he => by
    obtain ⟨_, rfl⟩ | ⟨_, _, _, rfl⟩ | ⟨_, rfl⟩ := RunStep.eq_of_not_own he <;> rfl

theorem RunState.waits_trail {σ : Type} (s : RunState σ) : waits s.trail = waits s.past.toList :=
  s.filterMap_trail fun e he => by
    obtain ⟨_, rfl⟩ | ⟨_, _, _, rfl⟩ | ⟨_, rfl⟩ := RunStep.eq_of_not_own he <;> rfl

theorem RunState.mem_trail {σ : Type} (s : RunState σ) {e : RunStep} (he : e.isOwn = true) :
    e ∈ s.trail ↔ e ∈ s.past.toList := by
  unfold trail
  rw [List.mem_filter, and_iff_left he]

theorem RunState.precedes_trail {σ : Type} (s : RunState σ) {a b : RunStep}
    (ha : a.isOwn = true) (hb : b.isOwn = true) :
    Precedes s.trail a b ↔ Precedes s.past.toList a b := by
  refine ⟨fun h => h.trans List.filter_sublist, fun h => ?_⟩
  have hkept : [a, b].filter RunStep.isOwn = [a, b] := by simp [ha, hb]
  unfold Precedes RunState.trail
  rw [← hkept]
  exact h.filter RunStep.isOwn

theorem precedes_append {xs ys : List RunStep} {a b : RunStep} (ha : a ∈ xs) (hb : b ∈ ys) :
    Precedes (xs ++ ys) a b :=
  (List.singleton_sublist.mpr ha).append (List.singleton_sublist.mpr hb)

theorem not_precedes_append {xs ys : List RunStep} {a b : RunStep} (ha : a ∉ xs) (hb : b ∉ ys) :
    ¬ Precedes (xs ++ ys) a b := by
  intro h
  obtain ⟨l, r, hlr, hl, hr⟩ := List.sublist_append_iff.mp h
  cases l with
  | nil =>
    rw [List.nil_append] at hlr
    exact hb (hr.subset (by simp [← hlr]))
  | cons x l =>
    obtain ⟨rfl, -⟩ := List.cons.inj hlr
    exact ha (hl.subset (by simp))

/-! ## The calls of each part of a run -/

@[simp] theorem ownCalls_append (xs ys : List RunStep) :
    ownCalls (xs ++ ys) = ownCalls xs ++ ownCalls ys := List.filterMap_append

@[simp] theorem answers_append (xs ys : List RunStep) :
    answers (xs ++ ys) = answers xs ++ answers ys := List.filterMap_append

@[simp] theorem waits_append (xs ys : List RunStep) : waits (xs ++ ys) = waits xs ++ waits ys :=
  List.filterMap_append

theorem mem_ownCalls {steps : List RunStep} {c : CameraCall}
    (hown : (RunStep.noted (.call c)).isOwn)
    (h : .noted (.call c) ∈ steps) : c ∈ ownCalls steps := by
  refine List.mem_filterMap.mpr ⟨_, h, ?_⟩
  cases c with
  | fetch => cases hown
  | _ => rfl

theorem mem_answers {steps : List RunStep} {c : CameraCall} {failure : Option CameraError}
    (h : .answered c failure ∈ steps) : (c, failure) ∈ answers steps :=
  List.mem_filterMap.mpr ⟨_, h, rfl⟩

theorem mem_waits {steps : List RunStep} {taken : Option FrameDescriptor}
    (h : .waited taken ∈ steps) : taken ∈ waits steps := List.mem_filterMap.mpr ⟨_, h, rfl⟩

/-- Waits, and events that are not about the buffer. -/
def Plain (steps : List RunStep) : Prop :=
  ∀ e ∈ steps, (∃ event, e = .noted (.event event) ∧ event.isBuffer = false) ∨
    ∃ taken, e = .waited taken

theorem Plain.ownCalls_eq {steps : List RunStep} (h : Plain steps) : ownCalls steps = [] := by
  refine List.filterMap_eq_nil_iff.mpr fun e he => ?_
  obtain ⟨event, rfl, -⟩ | ⟨taken, rfl⟩ := h e he <;> rfl

theorem Plain.answers_eq {steps : List RunStep} (h : Plain steps) : answers steps = [] := by
  refine List.filterMap_eq_nil_iff.mpr fun e he => ?_
  obtain ⟨event, rfl, -⟩ | ⟨taken, rfl⟩ := h e he <;> rfl

theorem Plain.event_not_mem {steps : List RunStep} (h : Plain steps) {event : RunEvent}
    (hbuffer : event.isBuffer = true) : .noted (.event event) ∉ steps := by
  intro hmem
  obtain ⟨event', he, hother⟩ | ⟨taken, he⟩ := h _ hmem
  · cases he
    rw [hbuffer] at hother
    cases hother
  · cases he

theorem Plain.append {xs ys : List RunStep} (hxs : Plain xs) (hys : Plain ys) :
    Plain (xs ++ ys) := fun e he => (List.mem_append.mp he).elim (hxs e) (hys e)

theorem plain_event {event : RunEvent} (h : event.isBuffer = false) :
    Plain [.noted (.event event)] := fun _ he => .inl ⟨event, List.mem_singleton.mp he, h⟩

theorem plain_waited (taken : Option FrameDescriptor) : Plain [.waited taken] :=
  fun _ he => .inr ⟨taken, List.mem_singleton.mp he⟩

theorem plain_nil : Plain [] := fun _ he => absurd he (by simp)

section Watch

variable (settings : RunSettings)

theorem plain_report (n : ℕ) (d : FrameDescriptor) : Plain (reportSteps settings n d) := by
  unfold reportSteps
  refine Plain.append ?_ ?_
  · split
    · exact plain_event rfl
    · exact plain_nil
  · split
    · exact plain_event rfl
    · exact plain_nil

theorem plain_taken (n : ℕ) (taken : List FrameDescriptor) :
    Plain (takenSteps settings n taken) := by
  induction taken generalizing n with
  | nil => exact plain_nil
  | cons d taken ih =>
    exact (plain_waited (some d)).append ((plain_report settings (n + 1) d).append (ih _))

theorem plain_end (n : ℕ) (reached : Bool) : Plain (endSteps settings n reached) := by
  unfold endSteps
  split
  · exact plain_event rfl
  · exact (plain_waited none).append (plain_event rfl)

theorem plain_watch (source : Phase) (taken : List FrameDescriptor) :
    Plain (watchSteps settings source taken) :=
  (plain_event rfl).append (((plain_taken settings 0 taken).append (plain_end settings _ _)).append
    (plain_event rfl))

end Watch

theorem ownCalls_failure (e : SetupError) (source : Phase) (diagnostic : Option CameraError) :
    ownCalls (e.steps source) = diagnosisCalls (.setupFailed e diagnostic) := by
  obtain ⟨stage, cause⟩ := e
  cases cause <;> rfl

theorem answers_failure (e : SetupError) (source : Phase) : answers (e.steps source) = [] := by
  obtain ⟨stage, cause⟩ := e
  cases cause <;> rfl

theorem not_mem_diagnosis (verdict : Verdict) {c : CameraCall} {camera : Handle}
    (hc : c ∈ teardownCalls camera true) : c ∉ diagnosisCalls verdict := by
  intro hc'
  unfold diagnosisCalls at hc'
  split at hc'
  · obtain rfl := List.mem_singleton.mp hc'
    simp [teardownCalls] at hc
  · cases hc'

namespace Standing

variable (s : Standing) (f : TeardownFailures)

theorem ownCalls_attempt {c : CameraCall} (hc : (RunStep.noted (.call c)).isOwn = true)
    (failure : Option CameraError) (event : CameraError → RunEvent) :
    ownCalls (attemptSteps c failure event) = [c] := by
  cases c with
  | fetch => cases hc
  | _ => cases failure <;> rfl

theorem answers_attempt (c : CameraCall) (failure : Option CameraError)
    (event : CameraError → RunEvent) : answers (attemptSteps c failure event) = [(c, failure)] := by
  cases failure <;> rfl

theorem plain_context (failure : Option CameraError) : Plain (s.contextSteps failure) := by
  unfold contextSteps
  split
  · split
    · exact plain_nil
    · exact plain_event rfl
  · exact plain_nil

theorem ownCalls_buffer (failure : Option CameraError) : ownCalls (s.bufferSteps failure) = [] := by
  unfold bufferSteps
  split
  · split <;> rfl
  · rfl

theorem answers_buffer (failure : Option CameraError) : answers (s.bufferSteps failure) = [] := by
  unfold bufferSteps
  split
  · split <;> rfl
  · rfl

theorem ownCalls_teardown :
    ownCalls (s.teardownSteps f) =
      s.camera.elim [] fun camera => teardownCalls camera s.registered := by
  have hlast : Plain [.noted (.event .tornDown)] := plain_event rfl
  unfold teardownSteps
  simp only [ownCalls_append, (s.plain_context _).ownCalls_eq, s.ownCalls_buffer,
    hlast.ownCalls_eq, List.append_nil]
  unfold abortSteps deregisterSteps closeSteps teardownCalls
  cases s.camera with
  | none => rfl
  | some camera =>
    rw [Option.elim_some, Option.elim_some, Option.elim_some, Option.elim_some,
      ownCalls_attempt rfl, ownCalls_attempt rfl]
    cases s.registered
    · rfl
    · rw [if_pos rfl, if_pos rfl, ownCalls_attempt rfl]
      rfl

theorem answers_teardown :
    answers (s.teardownSteps f) = s.camera.elim [] fun camera =>
      (.abort camera, f.abort) ::
        ((if s.registered then [(.deregister camera, f.deregister)] else []) ++
          [(.close camera, f.close)]) := by
  have hlast : Plain [.noted (.event .tornDown)] := plain_event rfl
  unfold teardownSteps
  simp only [answers_append, (s.plain_context _).answers_eq, s.answers_buffer,
    hlast.answers_eq, List.append_nil]
  unfold abortSteps deregisterSteps closeSteps
  cases s.camera with
  | none => rfl
  | some camera =>
    rw [Option.elim_some, Option.elim_some, Option.elim_some, Option.elim_some, answers_attempt,
      answers_attempt]
    cases s.registered
    · rfl
    · rw [if_pos rfl, if_pos rfl, answers_attempt]
      rfl

theorem waits_attempt (c : CameraCall) (failure : Option CameraError)
    (event : CameraError → RunEvent) : waits (attemptSteps c failure event) = [] := by
  cases failure <;> rfl

theorem waits_teardown : waits (s.teardownSteps f) = [] := by
  have habort : waits (s.abortSteps f.abort) = [] := by
    unfold abortSteps
    cases s.camera with
    | none => rfl
    | some camera => exact waits_attempt _ _ _
  have hderegister : waits (s.deregisterSteps f.deregister) = [] := by
    unfold deregisterSteps
    cases s.camera with
    | none => rfl
    | some camera =>
      rw [Option.elim_some]
      split
      · exact waits_attempt _ _ _
      · rfl
  have hcontext : waits (s.contextSteps f.deregister) = [] := by
    unfold contextSteps
    split
    · split <;> rfl
    · rfl
  have hbuffer : waits (s.bufferSteps f.abort) = [] := by
    unfold bufferSteps
    split
    · split <;> rfl
    · rfl
  have hclose : waits (s.closeSteps f.close) = [] := by
    unfold closeSteps
    cases s.camera with
    | none => rfl
    | some camera => exact waits_attempt _ _ _
  unfold teardownSteps
  simp only [waits_append, habort, hderegister, hcontext, hbuffer, hclose]
  rfl

end Standing

namespace SetupPath

variable (settings : RunSettings) (logsOpening : Bool) (path : SetupPath)

/-- The calls of setup and how they end. -/
def answers : SetupPath → List (CameraCall × Option CameraError)
  | openFails e => [(.openCamera settings.camera, some e)]
  | selectFails camera e =>
    [(.openCamera settings.camera, none), (.selectMode camera settings.exposureMode, some e)]
  | configureFails camera mode e =>
    [(.openCamera settings.camera, none), (.selectMode camera settings.exposureMode, none),
      (Standing.configureCall settings camera mode, some e)]
  | allocateFails camera mode _ _ =>
    [(.openCamera settings.camera, none), (.selectMode camera settings.exposureMode, none),
      (Standing.configureCall settings camera mode, none)]
  | registerFails camera mode _ _ e =>
    [(.openCamera settings.camera, none), (.selectMode camera settings.exposureMode, none),
      (Standing.configureCall settings camera mode, none), (.register camera, some e)]
  | startFails camera mode _ buffer e =>
    [(.openCamera settings.camera, none), (.selectMode camera settings.exposureMode, none),
      (Standing.configureCall settings camera mode, none), (.register camera, none),
      (.start camera buffer.size, some e)]
  | succeeds camera mode _ buffer =>
    [(.openCamera settings.camera, none), (.selectMode camera settings.exposureMode, none),
      (Standing.configureCall settings camera mode, none), (.register camera, none),
      (.start camera buffer.size, none)]

theorem answers_standing :
    FrameWatch.answers (path.standing settings logsOpening).trail = path.answers settings := by
  cases path <;> cases logsOpening <;> rfl

theorem ownCalls_standing :
    ownCalls (path.standing settings logsOpening).trail =
      (path.answers settings).map Prod.fst := by
  cases path <;> cases logsOpening <;> rfl

/-- The calls of teardown and how they end. -/
def teardownAnswers (f : TeardownFailures) : SetupPath → List (CameraCall × Option CameraError)
  | openFails _ => []
  | selectFails camera _ | configureFails camera _ _ | allocateFails camera _ _ _
  | registerFails camera _ _ _ _ => [(.abort camera, f.abort), (.close camera, f.close)]
  | startFails camera _ _ _ _ | succeeds camera _ _ _ =>
    [(.abort camera, f.abort), (.deregister camera, f.deregister), (.close camera, f.close)]

/-- How many calls setup makes. -/
def made : SetupPath → ℕ
  | openFails _ => 1
  | selectFails .. => 2
  | configureFails .. => 3
  | allocateFails .. => 3
  | registerFails .. => 4
  | startFails .. => 5
  | succeeds .. => 5

/-- What the calls of setup name, as far as they are made: the handle, the mode and the size of the
buffer. -/
def named : SetupPath → Handle × NegotiatedMode × ℕ
  | openFails _ => (⟨0⟩, ⟨.cameraDefault, 0⟩, 0)
  | selectFails camera _ => (camera, ⟨.cameraDefault, 0⟩, 0)
  | configureFails camera mode _ | allocateFails camera mode _ _ => (camera, mode, 0)
  | registerFails camera mode _ buffer _ | startFails camera mode _ buffer _
  | succeeds camera mode _ buffer => (camera, mode, buffer.size)

/-- The calls of setup, had it made all of them. -/
def allCalls : List CameraCall :=
  setupCalls settings path.named.1 path.named.2.1 path.named.2.2

theorem made_pos : 0 < path.made := by cases path <;> simp [made]

theorem map_fst_answers :
    (path.answers settings).map Prod.fst = (path.allCalls settings).take path.made := by
  cases path <;> rfl

theorem succeeds_of_mem_take {c : CameraCall}
    (hc : c ∈ (path.allCalls settings).take (path.made - 1)) :
    (c, none) ∈ path.answers settings := by
  revert c
  cases path <;> simp [allCalls, named, made, setupCalls, answers, Standing.configureCall]

theorem fails_of_made_lt (h : path.made < 5) :
    (∃ c e, ((path.allCalls settings).take path.made).getLast? = some c ∧
      (c, some e) ∈ path.answers settings) ∨
    path.made = 3 ∧ ∃ e, path.error? = some ⟨.allocateBuffer, .allocation e⟩ := by
  cases path with
  | openFails e => exact .inl ⟨_, e, rfl, by simp [answers]⟩
  | selectFails camera e => exact .inl ⟨_, e, rfl, by simp [answers, named]⟩
  | configureFails camera mode e =>
    exact .inl ⟨_, e, rfl, by simp [answers, named, Standing.configureCall]⟩
  | allocateFails camera mode frameBytes e => exact .inr ⟨rfl, e, rfl⟩
  | registerFails camera mode frameBytes buffer e =>
    exact .inl ⟨_, e, rfl, by simp [answers, named]⟩
  | startFails => simp [made] at h
  | succeeds => simp [made] at h

theorem buffered_of_lt_made (h : 3 < path.made) : ∃ buffer,
    Precedes (path.standing settings logsOpening).trail
      (.noted (.event (.bufferAllocated buffer))) (.noted (.call (.register path.named.1))) := by
  have key : ∀ camera mode frameBytes buffer failure, Precedes
      ((Standing.afterAllocate settings logsOpening camera mode frameBytes buffer).trail ++
        callSteps (.register camera) failure)
      (.noted (.event (.bufferAllocated buffer))) (.noted (.call (.register camera))) :=
    fun camera mode frameBytes buffer failure => precedes_append
      (by simp [Standing.afterAllocate]) (by simp [callSteps])
  cases path with
  | registerFails camera mode frameBytes buffer e =>
    exact ⟨buffer, key camera mode frameBytes buffer (some e)⟩
  | startFails camera mode frameBytes buffer e =>
    exact ⟨buffer, (key camera mode frameBytes buffer none).trans (List.sublist_append_left _ _)⟩
  | succeeds camera mode frameBytes buffer =>
    exact ⟨buffer, (key camera mode frameBytes buffer none).trans (List.sublist_append_left _ _)⟩
  | _ => simp [made] at h

theorem map_fst_teardownAnswers (f : TeardownFailures) :
    (path.teardownAnswers f).map Prod.fst =
      if (.openCamera settings.camera, none) ∈ path.answers settings ++ path.teardownAnswers f then
        teardownCalls path.named.1
          ((.register path.named.1, none) ∈ path.answers settings ++ path.teardownAnswers f)
      else [] := by
  cases path <;>
    simp [teardownAnswers, teardownCalls, answers, named, Standing.configureCall]

theorem nodup_calls (f : TeardownFailures) (verdict : Verdict) :
    ((path.answers settings).map Prod.fst ++ diagnosisCalls verdict ++
      (path.teardownAnswers f).map Prod.fst).Nodup := by
  unfold diagnosisCalls
  cases path <;> split <;> simp [teardownAnswers, answers, Standing.configureCall]

theorem filter_calls (f : TeardownFailures) (verdict : Verdict) :
    (((path.answers settings).map Prod.fst ++ diagnosisCalls verdict ++
        (path.teardownAnswers f).map Prod.fst).filter (· ≠ .lastError)) =
      (path.answers settings ++ path.teardownAnswers f).map Prod.fst := by
  unfold diagnosisCalls
  cases path <;> split <;> simp [teardownAnswers, answers, Standing.configureCall]

theorem not_mem_teardown {c : CameraCall} {camera : Handle}
    (hc : c ∈ (path.answers settings).map Prod.fst) : c ∉ teardownCalls camera true := by
  intro hc'
  simp only [teardownCalls, if_true, List.cons_append, List.nil_append, List.mem_cons,
    List.not_mem_nil, or_false] at hc'
  rcases hc' with rfl | rfl | rfl <;> cases path <;>
    simp [answers, Standing.configureCall] at hc

theorem answers_teardown (f : TeardownFailures) :
    FrameWatch.answers ((path.standing settings logsOpening).teardownSteps f) =
      path.teardownAnswers f := by
  rw [Standing.answers_teardown]
  cases path <;> rfl

theorem ownCalls_teardown (f : TeardownFailures) :
    ownCalls ((path.standing settings logsOpening).teardownSteps f) =
      (path.teardownAnswers f).map Prod.fst := by
  rw [Standing.ownCalls_teardown]
  cases path <;> rfl

theorem answers_driven (taken : List FrameDescriptor) (source : Phase) :
    FrameWatch.answers (path.drivenSteps settings taken source) = [] := by
  unfold drivenSteps
  cases path.error? with
  | some e => exact answers_failure e source
  | none => exact (plain_watch settings source taken).answers_eq

end SetupPath

namespace RunCourse

variable {σ : Type} {rig : Rig σ} {settings : RunSettings} {s₀ s : RunState σ} {outcome : Outcome}
  {path : SetupPath} {taken : List (FrameDescriptor × Duration)} {f : TeardownFailures}

theorem diagnosis (h : RunCourse rig settings s₀ outcome s path taken f) (source : Phase) :
    ownCalls (path.drivenSteps settings (taken.map Prod.fst) source) =
      diagnosisCalls outcome.verdict := by
  have hverdict := h.verdict
  unfold SetupPath.drivenSteps
  cases herror : path.error? with
  | some e =>
    rw [herror] at hverdict
    obtain ⟨diagnostic, hverdict⟩ := hverdict
    rw [hverdict]
    exact ownCalls_failure e source diagnostic
  | none =>
    rw [herror] at hverdict
    dsimp only at hverdict ⊢
    rw [(plain_watch settings source _).ownCalls_eq, hverdict]
    unfold watchVerdict
    split <;> rfl

/-- The steps of a run by its course. -/
theorem trail_eq (h : RunCourse rig settings s₀ outcome s path taken f) :
    ∃ tail : List RunStep,
      (∀ e ∈ tail, ∃ event, e = .noted (.event event) ∧ event.isBuffer = false) ∧
      s.trail = (path.standing settings rig.logsOpening).trail ++
        path.drivenSteps settings (taken.map Prod.fst)
          (path.standing settings rig.logsOpening).phase ++
        (path.standing settings rig.logsOpening).teardownSteps f ++ tail := by
  obtain ⟨gaps, hgaps, hst⟩ := h.standing
  refine ⟨_, fun e he => ?_, congrArg Standing.trail hst⟩
  rcases List.mem_cons.mp he with rfl | he
  · exact ⟨_, rfl, rfl⟩
  · obtain ⟨events, lost, rfl⟩ := hgaps e he
    exact ⟨_, rfl, rfl⟩

/-- The calls of a run by its course. -/
theorem ownCalls_eq (h : RunCourse rig settings s₀ outcome s path taken f) :
    ownCalls s.past.toList =
      (path.answers settings).map Prod.fst ++ diagnosisCalls outcome.verdict ++
        (path.teardownAnswers f).map Prod.fst := by
  obtain ⟨tail, htail, htrail⟩ := h.trail_eq
  have hplain : Plain tail := fun e he => .inl (htail e he)
  rw [← s.ownCalls_trail, htrail]
  simp only [ownCalls_append, hplain.ownCalls_eq, h.diagnosis, SetupPath.ownCalls_standing,
    List.append_nil, SetupPath.ownCalls_teardown]

/-- How the calls of a run end, by its course. -/
theorem answers_eq (h : RunCourse rig settings s₀ outcome s path taken f) :
    answers s.past.toList =
      path.answers settings ++ path.teardownAnswers f := by
  obtain ⟨tail, htail, htrail⟩ := h.trail_eq
  have hplain : Plain tail := fun e he => .inl (htail e he)
  rw [← s.answers_trail, htrail]
  simp only [answers_append, hplain.answers_eq, SetupPath.answers_standing,
    SetupPath.answers_driven, SetupPath.answers_teardown, List.append_nil]

/-- No wait comes after a call of teardown. -/
theorem not_precedes_wait (h : RunCourse rig settings s₀ outcome s path taken f)
    {camera : Handle} {c : CameraCall} (hc : c ∈ teardownCalls camera true)
    (frame : Option FrameDescriptor) :
    ¬ Precedes s.past.toList (.noted (.call c)) (.waited frame) := by
  obtain ⟨tail, htail, htrail⟩ := h.trail_eq
  have hown : (RunStep.noted (.call c)).isOwn = true := by
    simp only [teardownCalls, if_true, List.cons_append, List.nil_append, List.mem_cons,
      List.not_mem_nil, or_false] at hc
    rcases hc with rfl | rfl | rfl <;> rfl
  rw [← s.precedes_trail hown rfl, htrail, List.append_assoc]
  refine not_precedes_append (fun hmem => ?_) fun hmem => ?_
  · have hmem := mem_ownCalls hown hmem
    rw [ownCalls_append, SetupPath.ownCalls_standing, h.diagnosis] at hmem
    rcases List.mem_append.mp hmem with hmem | hmem
    · exact path.not_mem_teardown settings hmem hc
    · exact not_mem_diagnosis outcome.verdict hc hmem
  · have hmem := mem_waits hmem
    rw [waits_append, Standing.waits_teardown, List.nil_append] at hmem
    obtain ⟨e, he, hwait⟩ := List.mem_filterMap.mp hmem
    obtain ⟨event, rfl, -⟩ := htail e he
    cases hwait

/-- A run keeps the protocol on its course. -/
theorem protocol (h : RunCourse rig settings s₀ outcome s path taken f) :
    CallProtocol settings s.past.toList outcome.verdict path.named.1 path.named.2.1 path.named.2.2
      path.made where
  calls := by
    rw [h.ownCalls_eq, h.answers_eq, path.map_fst_answers, path.map_fst_teardownAnswers settings]
    rfl
  once := by
    rw [h.ownCalls_eq]
    exact path.nodup_calls settings f outcome.verdict
  returns := by
    rw [h.ownCalls_eq, h.answers_eq]
    exact (path.filter_calls settings f outcome.verdict).symm
  opens := path.made_pos
  succeeds c hc := by
    rw [h.answers_eq]
    exact List.mem_append_left _ (path.succeeds_of_mem_take settings hc)
  buffered hmade := by
    obtain ⟨buffer, hbuffer⟩ := path.buffered_of_lt_made settings rig.logsOpening hmade
    obtain ⟨tail, -, htrail⟩ := h.trail_eq
    refine ⟨buffer, (s.precedes_trail rfl rfl).mp ?_⟩
    rw [htrail, List.append_assoc, List.append_assoc]
    exact hbuffer.trans (List.sublist_append_left _ _)
  fails hmade := by
    rw [h.answers_eq]
    rcases path.fails_of_made_lt settings hmade with ⟨c, e, hc, he⟩ | ⟨hthree, e, he⟩
    · exact .inl ⟨c, e, hc, List.mem_append_left _ he⟩
    · have hverdict := h.verdict
      rw [he] at hverdict
      obtain ⟨diagnostic, hverdict⟩ := hverdict
      exact .inr ⟨hthree, e, diagnostic, hverdict⟩
  afterWatch _ hc frame := h.not_precedes_wait hc frame

end RunCourse

/-- **The call protocol.** Every run keeps it, and what goes out of scope at the end of the run
makes no call any more, nor does it do anything else. -/
theorem Runner.call_protocol {σ : Type} (rig : Rig σ) (r : Runner σ) (number : ℕ) :
    (∃ camera mode size made, CallProtocol r.settings (r.run rig number).2.1.past.toList
      (r.run rig number).1.verdict camera mode size made) ∧
    (r.run rig number).2.1 =
      (Run.observe rig r.settings number (.initial r.rig r.mailbox.reset)).2 := by
  obtain ⟨path, taken, f, hcourse⟩ := r.run_course rig number
  refine ⟨⟨_, _, _, _, hcourse.protocol⟩, ?_⟩
  have hobserved := Run.steps_eq_observe rig r.settings (.initial r.rig r.mailbox.reset) number rfl
  exact congrArg Prod.snd hobserved

end FrameWatch
