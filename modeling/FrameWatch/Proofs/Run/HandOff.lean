import FrameWatch.Proofs.Run.Protocol

/-!
# Handing resources back

A run shares two things with the camera: the buffer that the camera writes to, and the context that
its notifications reach. `HandOff` says that each of them is given back exactly where the camera can
do no harm with it any more, and lost to the run everywhere else; `Runner.hand_off` says so of every
run, whatever calls fail and whenever the camera announces frames.
-/

namespace FrameWatch

/-- The call succeeded, for some camera. -/
def Succeeds (steps : List RunStep) (call : Handle → CameraCall) : Prop :=
  ∃ camera, (call camera, none) ∈ answers steps

/-- The call failed, for some camera. -/
def Fails (steps : List RunStep) (call : Handle → CameraCall) : Prop :=
  ∃ camera e, (call camera, some e) ∈ answers steps

/-- The buffer was allocated, and the context with it. -/
def Allocates (steps : List RunStep) (buffer : FrameBuffer) : Prop :=
  .noted (.event (.bufferAllocated buffer)) ∈ steps

/-- What has become of buffer and context in a run that ends in `s`. -/
structure HandOff {σ : Type} (steps : List RunStep) (s : RunState σ) (teardown : TeardownSummary) :
    Prop where
  /-- No notification of a registered handler found its context gone. -/
  sheltered : ∀ n, .strayed n ∉ steps
  bufferAbsent : s.buffer = .absent ↔ ∀ buffer, ¬ Allocates steps buffer
  /-- A buffer that was allocated is either released or leaked, as the camera was aborted or not. -/
  bufferReleased : s.buffer = .released ↔ (∃ buffer, Allocates steps buffer) ∧ Succeeds steps .abort
  bufferLeaked : ∀ buffer, s.buffer = .leaked buffer ↔ Allocates steps buffer ∧ Fails steps .abort
  bufferSettled : ∀ buffer, s.buffer ≠ .held buffer
  /-- Before the buffer is released, the camera has been aborted. -/
  releasedLate : ∀ bytes, .noted (.event (.bufferReleased bytes)) ∈ steps → ∃ camera,
    Precedes steps (.answered (.abort camera) none) (.noted (.event (.bufferReleased bytes)))
  /-- After the camera has been aborted, it is not started. -/
  neverRestarted : ∀ camera camera' size,
    ¬ Precedes steps (.answered (.abort camera) none) (.noted (.call (.start camera' size)))
  contextAbsent : s.context = .absent ↔ ∀ buffer, ¬ Allocates steps buffer
  /-- The context is dropped if the handler was never registered or is deregistered again. -/
  contextReleased : s.context = .released ↔
    (∃ buffer, Allocates steps buffer) ∧ (Succeeds steps .register → Succeeds steps .deregister)
  contextLeaked : (∃ handler, s.context = .leaked handler) ↔ Fails steps .deregister
  contextSettled : ∀ handler, s.context ≠ .held handler
  reportsBuffer : teardown.bufferLeaked = true ↔
    (∃ buffer, Allocates steps buffer) ∧ Fails steps .abort
  reportsContext : teardown.contextLeaked = true ↔ Fails steps .deregister
  clean : teardown.isClean = true ↔
    ((∃ buffer, Allocates steps buffer) → Succeeds steps .abort) ∧
      (Succeeds steps .register → Succeeds steps .deregister)

theorem Custody.map_eq_released {α β : Type} {f : α → β} {c : Custody α} :
    c.map f = .released ↔ c = .released := by
  cases c <;> simp [map]

theorem Custody.exists_map_eq_leaked {α β : Type} {f : α → β} {c : Custody α} :
    (∃ b, c.map f = .leaked b) ↔ ∃ a, c = .leaked a := by
  cases c <;> simp [map]

theorem Custody.map_ne_held {α β : Type} {f : α → β} {c : Custody α} (h : ∀ b, c.map f ≠ .held b)
    (a : α) : c ≠ .held a := by
  rintro rfl
  exact h (f a) rfl

section Settle

variable {α : Type} (free : Bool) (a : α)

theorem Custody.settle_held_ne_absent : (held a).settle free ≠ .absent := by
  cases free <;> simp [settle]

theorem Custody.settle_held_ne_held (b : α) : (held a).settle free ≠ .held b := by
  cases free <;> simp [settle]

theorem Custody.settle_held_eq_released : (held a).settle free = .released ↔ free = true := by
  cases free <;> simp [settle]

theorem Custody.settle_held_eq_leaked (b : α) :
    (held a).settle free = .leaked b ↔ b = a ∧ free = false := by
  cases free <;> simp [settle, eq_comm]

end Settle

/-! ## What the steps of a run tell about its resources -/

namespace SetupPath

variable (settings : RunSettings) (logsOpening : Bool) (path : SetupPath) (f : TeardownFailures)

theorem mem_trail_allocated (buffer : FrameBuffer) :
    .noted (.event (.bufferAllocated buffer)) ∈ (path.standing settings logsOpening).trail ↔
      (path.standing settings logsOpening).buffer = .held buffer := by
  cases path <;> cases logsOpening <;>
    simp [standing, Standing.fresh, Standing.afterOpen, Standing.afterSelect,
      Standing.afterConfigure, Standing.afterAllocate, Standing.afterRegister, Standing.afterStart,
      Act.callSteps, eq_comm]

theorem released_not_mem_trail (bytes : ℕ) :
    .noted (.event (.bufferReleased bytes)) ∉ (path.standing settings logsOpening).trail := by
  cases path <;> cases logsOpening <;>
    simp [standing, Standing.fresh, Standing.afterOpen, Standing.afterSelect,
      Standing.afterConfigure, Standing.afterAllocate, Standing.afterRegister, Standing.afterStart,
      Act.callSteps]

/-- Buffer and context come together, and only then is the handler registered. -/
theorem resources_standing :
    ((path.standing settings logsOpening).buffer = .absent ∧
      (path.standing settings logsOpening).context = .absent ∧
      (path.standing settings logsOpening).registered = false) ∨
    ∃ buffer handler, (path.standing settings logsOpening).buffer = .held buffer ∧
      (path.standing settings logsOpening).context = .held handler := by
  cases path with
  | registerFails => exact .inr ⟨_, _, rfl, rfl⟩
  | startFails => exact .inr ⟨_, _, rfl, rfl⟩
  | succeeds => exact .inr ⟨_, _, rfl, rfl⟩
  | _ => exact .inl ⟨rfl, rfl, rfl⟩

theorem camera_of_held {buffer : FrameBuffer}
    (hheld : (path.standing settings logsOpening).buffer = .held buffer) :
    ∃ camera, (path.standing settings logsOpening).camera = some camera := by
  cases path with
  | openFails => cases hheld
  | _ => exact ⟨_, rfl⟩

theorem abort_answer {buffer : FrameBuffer}
    (hheld : (path.standing settings logsOpening).buffer = .held buffer)
    (failure : Option CameraError) :
    (∃ camera, (.abort camera, failure) ∈ path.answers settings ++ path.teardownAnswers f) ↔
      failure = f.abort := by
  cases path with
  | openFails => cases hheld
  | _ => simp [answers, teardownAnswers, Standing.configureCall]

/-- Whether the handler gets registered. -/
def registers : SetupPath → Bool
  | startFails .. | succeeds .. => true
  | _ => false

theorem registered_standing :
    (path.standing settings logsOpening).registered = path.registers := by
  cases path <;> rfl

theorem deregister_answer (failure : Option CameraError) :
    (∃ camera, (.deregister camera, failure) ∈ path.answers settings ++ path.teardownAnswers f) ↔
      (path.standing settings logsOpening).registered = true ∧ failure = f.deregister := by
  rw [registered_standing]
  cases path <;> simp [answers, teardownAnswers, Standing.configureCall, registers]

theorem register_answer :
    (∃ camera, (.register camera, none) ∈ path.answers settings ++ path.teardownAnswers f) ↔
      (path.standing settings logsOpening).registered = true := by
  rw [registered_standing]
  cases path <;> simp [answers, teardownAnswers, Standing.configureCall, registers]

theorem event_not_mem_driven {event : RunEvent} (he : event.isBuffer = true)
    (taken : List FrameDescriptor) (source : Phase) :
    .noted (.event event) ∉ path.drivenSteps settings taken source := by
  unfold drivenSteps
  cases path.error? with
  | some e =>
    obtain ⟨stage, cause⟩ := e
    intro hmem
    cases cause <;> simp [SetupError.steps, SetupCause.diagnosis] at hmem <;>
      rcases hmem with rfl | rfl <;> cases he
  | none => exact (plain_watch settings source taken).event_not_mem he

end SetupPath

namespace Standing

variable (s : Standing) (f : TeardownFailures)

theorem of_released_mem {bytes : ℕ} {failure : Option CameraError}
    (h : .noted (.event (.bufferReleased bytes)) ∈ s.bufferSteps failure) :
    (∃ buffer, s.buffer = .held buffer) ∧ failure = none := by
  unfold bufferSteps at h
  split at h
  next buffer hheld =>
    split at h
    next hnone => exact ⟨⟨buffer, hheld⟩, hnone⟩
    · simp at h
  · cases h

theorem event_mem_attempt {event : RunEvent} (he : event.isBuffer = true) (c : CameraCall)
    (failure : Option CameraError) {report : CameraError → RunEvent}
    (hreport : ∀ e, (report e).isBuffer = false) :
    .noted (.event event) ∉ attemptSteps c failure report := by
  intro hmem
  cases failure with
  | none => simp [attemptSteps, Act.callSteps] at hmem
  | some e =>
    simp [attemptSteps, Act.callSteps] at hmem
    have hother := hreport e
    rw [← hmem, he] at hother
    cases hother

theorem event_mem_teardown {event : RunEvent} (he : event.isBuffer = true) :
    .noted (.event event) ∈ s.teardownSteps f ↔ .noted (.event event) ∈ s.bufferSteps f.abort := by
  have habort : .noted (.event event) ∉ s.abortSteps f.abort := by
    unfold abortSteps
    cases s.camera with
    | none => exact List.not_mem_nil
    | some camera => exact event_mem_attempt he _ _ fun _ => rfl
  have hderegister : .noted (.event event) ∉ s.deregisterSteps f.deregister := by
    unfold deregisterSteps
    cases s.camera with
    | none => exact List.not_mem_nil
    | some camera =>
      rw [Option.elim_some]
      split
      · exact event_mem_attempt he _ _ fun _ => rfl
      · exact List.not_mem_nil
  have hclose : .noted (.event event) ∉ s.closeSteps f.close := by
    unfold closeSteps
    cases s.camera with
    | none => exact List.not_mem_nil
    | some camera => exact event_mem_attempt he _ _ fun _ => rfl
  have hcontext := (s.plain_context f.deregister).event_not_mem he
  have hlast : .noted (.event event) ∉ [RunStep.noted (.event .tornDown)] :=
    (plain_event rfl).event_not_mem he
  unfold teardownSteps
  simp only [List.mem_append, habort, hderegister, hcontext, hclose, hlast, false_or, or_false]

end Standing

namespace RunCourse

variable {σ : Type} {rig : Rig σ} {settings : RunSettings} {s₀ s : RunState σ} {outcome : Outcome}
  {path : SetupPath} {taken : List (FrameDescriptor × Duration)} {f : TeardownFailures}

theorem event_mem_past (h : RunCourse rig settings s₀ outcome s path taken f) {event : RunEvent}
    (he : event.isBuffer = true) :
    .noted (.event event) ∈ s.past.toList ↔
      .noted (.event event) ∈ (path.standing settings rig.logsOpening).trail ∨
        .noted (.event event) ∈ (path.standing settings rig.logsOpening).bufferSteps f.abort := by
  obtain ⟨tail, htail, htrail⟩ := h.trail_eq
  have hplain : Plain tail := fun e he => .inl (htail e he)
  rw [← s.mem_trail rfl, htrail]
  simp only [List.mem_append, path.event_not_mem_driven settings he, hplain.event_not_mem he,
    Standing.event_mem_teardown _ f he, or_false]

theorem allocates_iff (h : RunCourse rig settings s₀ outcome s path taken f)
    (buffer : FrameBuffer) :
    Allocates s.past.toList buffer ↔
      (path.standing settings rig.logsOpening).buffer = .held buffer := by
  have hnone : .noted (.event (.bufferAllocated buffer)) ∉
      (path.standing settings rig.logsOpening).bufferSteps f.abort := by
    unfold Standing.bufferSteps
    split
    · split <;> simp
    · exact List.not_mem_nil
  unfold FrameWatch.Allocates
  rw [h.event_mem_past rfl, path.mem_trail_allocated, or_iff_left hnone]

theorem released_iff (h : RunCourse rig settings s₀ outcome s path taken f) (bytes : ℕ) :
    .noted (.event (.bufferReleased bytes)) ∈ s.past.toList ↔
      .noted (.event (.bufferReleased bytes)) ∈
        (path.standing settings rig.logsOpening).bufferSteps f.abort := by
  rw [h.event_mem_past rfl, or_iff_right (path.released_not_mem_trail settings _ bytes)]

theorem buffer_eq (h : RunCourse rig settings s₀ outcome s path taken f) :
    s.buffer = (path.standing settings rig.logsOpening).buffer.settle f.abort.isNone := by
  obtain ⟨gaps, -, hst⟩ := h.standing
  exact congrArg Standing.buffer hst

theorem context_eq (h : RunCourse rig settings s₀ outcome s path taken f) :
    s.context.map Handler.pristine =
      (path.standing settings rig.logsOpening).context.settle f.deregister.isNone := by
  obtain ⟨gaps, -, hst⟩ := h.standing
  exact congrArg Standing.context hst

theorem succeeds_abort (h : RunCourse rig settings s₀ outcome s path taken f)
    {buffer : FrameBuffer}
    (hheld : (path.standing settings rig.logsOpening).buffer = .held buffer) :
    Succeeds s.past.toList .abort ↔ f.abort = none := by
  unfold Succeeds
  rw [h.answers_eq, path.abort_answer settings rig.logsOpening f hheld, eq_comm]

theorem fails_abort (h : RunCourse rig settings s₀ outcome s path taken f)
    {buffer : FrameBuffer}
    (hheld : (path.standing settings rig.logsOpening).buffer = .held buffer) :
    Fails s.past.toList .abort ↔ f.abort ≠ none := by
  unfold Fails
  rw [h.answers_eq, exists_comm, Option.ne_none_iff_exists]
  refine exists_congr fun e => ?_
  rw [path.abort_answer settings rig.logsOpening f hheld]

theorem succeeds_register (h : RunCourse rig settings s₀ outcome s path taken f) :
    Succeeds s.past.toList .register ↔
      (path.standing settings rig.logsOpening).registered = true := by
  unfold Succeeds
  rw [h.answers_eq, path.register_answer settings rig.logsOpening f]

theorem succeeds_deregister (h : RunCourse rig settings s₀ outcome s path taken f) :
    Succeeds s.past.toList .deregister ↔
      (path.standing settings rig.logsOpening).registered = true ∧ f.deregister = none := by
  unfold Succeeds
  rw [h.answers_eq, path.deregister_answer settings rig.logsOpening f, eq_comm (a := none)]

theorem fails_deregister (h : RunCourse rig settings s₀ outcome s path taken f) :
    Fails s.past.toList .deregister ↔ f.deregister ≠ none := by
  unfold Fails
  rw [h.answers_eq, exists_comm, Option.ne_none_iff_exists]
  refine exists_congr fun e => ?_
  rw [path.deregister_answer settings rig.logsOpening f]
  refine and_iff_right_of_imp fun he => ?_
  by_contra hreg
  have hnone := h.admits.deregister (by simpa using hreg)
  rw [hnone] at he
  cases he

/-- Before the buffer is released, the camera has been aborted. -/
theorem precedes_release (h : RunCourse rig settings s₀ outcome s path taken f) {bytes : ℕ}
    (hmem : .noted (.event (.bufferReleased bytes)) ∈ s.past.toList) :
    ∃ camera, Precedes s.past.toList (.answered (.abort camera) none)
      (.noted (.event (.bufferReleased bytes))) := by
  rw [h.released_iff] at hmem
  obtain ⟨tail, -, htrail⟩ := h.trail_eq
  obtain ⟨⟨buffer, hheld⟩, habort⟩ := Standing.of_released_mem _ hmem
  obtain ⟨camera, hcamera⟩ := path.camera_of_held settings rig.logsOpening hheld
  refine ⟨camera, (s.precedes_trail rfl rfl).mp ?_⟩
  have hanswered : .answered (.abort camera) none ∈
      (path.standing settings rig.logsOpening).abortSteps f.abort := by
    rw [habort, Standing.abortSteps, hcamera]
    simp [attemptSteps, Act.callSteps]
  have hteardown : Precedes ((path.standing settings rig.logsOpening).teardownSteps f)
      (.answered (.abort camera) none) (.noted (.event (.bufferReleased bytes))) := by
    unfold Standing.teardownSteps
    simp only [List.append_assoc]
    exact precedes_append hanswered (by simp [hmem])
  rw [htrail]
  exact (hteardown.trans (List.sublist_append_right _ _)).trans (List.sublist_append_left _ _)

/-- After the camera has been aborted, it is not started. -/
theorem not_precedes_start (h : RunCourse rig settings s₀ outcome s path taken f)
    (camera camera' : Handle) (size : ℕ) :
    ¬ Precedes s.past.toList (.answered (.abort camera) none)
      (.noted (.call (.start camera' size))) := by
  obtain ⟨tail, htail, htrail⟩ := h.trail_eq
  have hplain : Plain tail := fun e he => .inl (htail e he)
  rw [← s.precedes_trail rfl rfl, htrail, List.append_assoc]
  refine not_precedes_append (fun hmem => ?_) fun hmem => ?_
  · have hmem := mem_answers hmem
    rw [answers_append, SetupPath.answers_standing, SetupPath.answers_driven,
      List.append_nil] at hmem
    cases path <;> simp [SetupPath.answers, Standing.configureCall] at hmem
  · have hmem := mem_ownCalls rfl hmem
    rw [ownCalls_append, SetupPath.ownCalls_teardown, hplain.ownCalls_eq, List.append_nil] at hmem
    cases path <;> simp [SetupPath.teardownAnswers] at hmem

/-- A run that comes to no buffer has nothing to hand back. -/
theorem handOff_of_absent (h : RunCourse rig settings s₀ outcome s path taken f)
    (hs₀ : s₀.Sheltered) (hnone : (path.standing settings rig.logsOpening).buffer = .absent)
    (hnone' : (path.standing settings rig.logsOpening).context = .absent)
    (hreg : (path.standing settings rig.logsOpening).registered = false) :
    HandOff s.past.toList s outcome.teardown := by
  have hno : ∀ buffer, ¬ Allocates s.past.toList buffer := by
    intro buffer hbuffer
    rw [h.allocates_iff, hnone] at hbuffer
    cases hbuffer
  have hbuffer : s.buffer = .absent := by rw [h.buffer_eq, hnone]; rfl
  have hcontext : s.context = .absent :=
    Custody.map_eq_absent.mp (by rw [h.context_eq, hnone']; rfl)
  have hmade : f.deregister = none := h.admits.deregister hreg
  have hclean : outcome.teardown = .clean := by
    rw [h.teardown, Standing.leaks, SetupPath.buffer_driven, SetupPath.context_driven, hnone,
      hnone']
    rfl
  have hkept : ¬ Fails s.past.toList .deregister := by rw [h.fails_deregister]; simp [hmade]
  have hunregistered : ¬ Succeeds s.past.toList .register := by
    rw [h.succeeds_register]; simp [hreg]
  refine ⟨(h.moves.sheltered hs₀).past, ?_, ?_, ?_, ?_, fun _ => h.precedes_release,
    h.not_precedes_start, ?_, ?_, ?_, ?_, ?_, ?_, ?_⟩
  all_goals simp [hbuffer, hcontext, hno, hclean, hkept, hunregistered, TeardownSummary.clean,
    TeardownSummary.isClean]

/-- A run that comes to a buffer gives it back, and the context with it, if the camera lets go. -/
theorem handOff_of_held (h : RunCourse rig settings s₀ outcome s path taken f)
    (hs₀ : s₀.Sheltered) {buffer : FrameBuffer} {handler : Handler}
    (hheld : (path.standing settings rig.logsOpening).buffer = .held buffer)
    (hheld' : (path.standing settings rig.logsOpening).context = .held handler) :
    HandOff s.past.toList s outcome.teardown := by
  have hallocates : ∀ buffer', Allocates s.past.toList buffer' ↔ buffer' = buffer := by
    intro buffer'
    rw [h.allocates_iff, hheld, Custody.held.injEq, eq_comm]
  have hbuffer := h.buffer_eq
  rw [hheld] at hbuffer
  have hcontext := h.context_eq
  rw [hheld'] at hcontext
  have hleaks : outcome.teardown = ⟨f.abort.isSome, f.deregister.isSome⟩ := by
    rw [h.teardown, Standing.leaks, SetupPath.buffer_driven, SetupPath.context_driven, hheld,
      hheld']
    rfl
  have hderegistered : (Succeeds s.past.toList .register → Succeeds s.past.toList .deregister) ↔
      f.deregister = none := by
    rw [h.succeeds_register, h.succeeds_deregister]
    refine ⟨fun himp => ?_, fun hmade hreg => ⟨hreg, hmade⟩⟩
    by_cases hreg : (path.standing settings rig.logsOpening).registered = true
    · exact (himp hreg).2
    · exact h.admits.deregister (by simpa using hreg)
  have hyes : ∃ buffer', Allocates s.past.toList buffer' := ⟨buffer, (hallocates buffer).mpr rfl⟩
  constructor
  case sheltered => exact (h.moves.sheltered hs₀).past
  case bufferAbsent =>
    exact iff_of_false (hbuffer ▸ Custody.settle_held_ne_absent _ _)
      fun hno => hno _ hyes.choose_spec
  case bufferReleased =>
    rw [hbuffer, Custody.settle_held_eq_released, h.succeeds_abort hheld, and_iff_right hyes,
      Option.isNone_iff_eq_none]
  case bufferLeaked =>
    intro buffer'
    rw [hbuffer, Custody.settle_held_eq_leaked, hallocates, h.fails_abort hheld]
    simp [Option.ne_none_iff_isSome]
  case bufferSettled => exact fun buffer' => hbuffer ▸ Custody.settle_held_ne_held _ _ buffer'
  case releasedLate => exact fun _ => h.precedes_release
  case neverRestarted => exact h.not_precedes_start
  case contextAbsent =>
    refine iff_of_false (fun habsent => ?_) fun hno => hno _ hyes.choose_spec
    rw [Custody.map_eq_absent.mpr habsent] at hcontext
    exact Custody.settle_held_ne_absent _ _ hcontext.symm
  case contextReleased =>
    rw [← Custody.map_eq_released, hcontext, Custody.settle_held_eq_released, and_iff_right hyes,
      hderegistered, Option.isNone_iff_eq_none]
  case contextLeaked =>
    rw [← Custody.exists_map_eq_leaked, hcontext, h.fails_deregister]
    simp [Custody.settle_held_eq_leaked, Option.ne_none_iff_isSome]
  case contextSettled =>
    refine Custody.map_ne_held (f := Handler.pristine) fun handler' => ?_
    rw [hcontext]
    exact Custody.settle_held_ne_held _ _ handler'
  case reportsBuffer =>
    rw [hleaks, and_iff_right hyes, h.fails_abort hheld, Option.ne_none_iff_isSome]
  case reportsContext => rw [hleaks, h.fails_deregister, Option.ne_none_iff_isSome]
  case clean =>
    rw [hleaks, h.succeeds_abort hheld, hderegistered, forall_prop_of_true hyes]
    simp [TeardownSummary.isClean]

/-- A run hands its resources back on its course. -/
theorem handOff (h : RunCourse rig settings s₀ outcome s path taken f) (hs₀ : s₀.Sheltered) :
    HandOff s.past.toList s outcome.teardown := by
  rcases path.resources_standing settings rig.logsOpening with
    ⟨hnone, hnone', hreg⟩ | ⟨buffer, handler, hheld, hheld'⟩
  · exact h.handOff_of_absent hs₀ hnone hnone' hreg
  · exact h.handOff_of_held hs₀ hheld hheld'

end RunCourse

/-- **Handing resources back.** -/
theorem Runner.hand_off {σ : Type} (rig : Rig σ) (r : Runner σ) (number : ℕ) :
    HandOff (r.run rig number).2.1.past.toList (r.run rig number).2.1
      (r.run rig number).1.teardown := by
  obtain ⟨path, taken, f, hcourse⟩ := r.run_course rig number
  exact hcourse.handOff ⟨fun hreg => absurd hreg (by simp [RunState.initial]),
    by simp [RunState.initial]⟩

end FrameWatch
