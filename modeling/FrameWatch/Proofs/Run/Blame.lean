import FrameWatch.Proofs.Run.Protocol

/-!
# Which stage of setup is to blame

A run whose setup fails tells which stage has failed and why. `SetupReplies` keeps what the stages
of a setup came to, as the camera and the allocator said it; `SetupReplies.Blames` says how the
verdict follows from that, and `Runner.blames` that it does in every run.

1. `Setup.FailsWith` says what holds when a step of setup fails.
2. `Setup.allocation?` tells what allocating the buffer comes to, and `Setup.steps_allots` that the
   path of setup goes by it.
-/

namespace FrameWatch

open Act (failure?)

/-- The stage of setup that a call belongs to. -/
def CameraCall.stage? : CameraCall → Option SetupStage
  | openCamera _ => some .openDevice
  | selectMode .. => some .selectExposureMode
  | configure .. => some .setupAcquisition
  | register _ => some .registerCallback
  | start .. => some .startAcquisition
  | _ => none

/-- The stages before a stage. -/
def SetupStage.before (stage : SetupStage) : List SetupStage := all.takeWhile (· ≠ stage)

/-! ## Replies -/

/-- What the stages of a setup came to. -/
structure SetupReplies where
  /-- The calls that have returned, in order, each with its error if it failed. -/
  answers : List (CameraCall × Option CameraError)
  /-- What came of allocating the buffer, if setup got so far. -/
  allocation? : Option (Except AllocationError FrameBuffer)

namespace SetupReplies

variable (t : SetupReplies)

/-- A stage has failed. -/
inductive Fails : SetupStage → SetupCause → Prop
  | call {c : CameraCall} {stage : SetupStage} {e : CameraError} (hstage : c.stage? = some stage)
      (h : (c, some e) ∈ t.answers) : Fails stage (.camera e)
  | allocation {e : AllocationError} (h : t.allocation? = some (.error e)) :
      Fails .allocateBuffer (.allocation e)

/-- A stage has succeeded. -/
inductive Passes : SetupStage → Prop
  | call {c : CameraCall} {stage : SetupStage} (hstage : c.stage? = some stage)
      (h : (c, none) ∈ t.answers) : Passes stage
  | allocation {buffer : FrameBuffer} (h : t.allocation? = some (.ok buffer)) :
      Passes .allocateBuffer

/-- The verdict tells the first stage that has failed and the error that it has failed with, and as
diagnostic the error that the camera keeps at that moment. -/
structure Blames (lastError : CameraError) (verdict : Verdict) : Prop where
  fails : (∃ e diagnostic, verdict = .setupFailed e diagnostic) ↔
    ∃ stage cause, t.Fails stage cause
  blamed : ∀ {e diagnostic}, verdict = .setupFailed e diagnostic → t.Fails e.stage e.cause
  /-- No stage is made before those in front of it have succeeded. -/
  first : ∀ {e diagnostic}, verdict = .setupFailed e diagnostic →
    ∀ stage ∈ e.stage.before, t.Passes stage
  only : ∀ {e diagnostic}, verdict = .setupFailed e diagnostic →
    ∀ stage cause, t.Fails stage cause → e = ⟨stage, cause⟩
  passes : (∀ e diagnostic, verdict ≠ .setupFailed e diagnostic) → ∀ stage, t.Passes stage
  diagnostic : ∀ {stage e diagnostic}, verdict = .setupFailed ⟨stage, .camera e⟩ diagnostic →
    diagnostic = if lastError.code = 0 then none else some lastError
  undiagnosed : ∀ {stage e diagnostic},
    verdict = .setupFailed ⟨stage, .allocation e⟩ diagnostic → diagnostic = none

end SetupReplies

/-! ## Steps that fail -/

namespace Setup

variable {σ α β : Type}

/-- Whatever `x` fails with from `s`, `E` holds of the error and of the state after it. -/
def FailsWith (x : Step σ α) (s : RunState σ) (E : SetupError → RunState σ → Prop) : Prop :=
  ∀ e, (x s).1 = .error e → E e (x s).2

section FailsWith

variable {rig : Rig σ} {s : RunState σ} {E : SetupError → RunState σ → Prop}

theorem FailsWith.bind {x : Step σ α} {f : α → Step σ β} {Q : α → RunState σ → Prop}
    (hx : FailsWith x s E) (hQ : Answers x s Q) (hf : ∀ a s', Q a s' → FailsWith (f a) s' E) :
    FailsWith (x >>= f) s E := by
  intro e he
  cases h : (x s).1 with
  | error e' =>
    rw [bind_of_error h] at he ⊢
    cases he
    exact hx _ h
  | ok a =>
    rw [bind_of_ok h] at he ⊢
    exact hf a _ (hQ a h) e he

theorem answers_true (x : Step σ α) : Answers x s fun _ _ => True := fun _ _ => trivial

theorem fails_pure {a : α} : FailsWith (pure a : Step σ α) s E := fun _ he => by cases he

theorem fails_sure {action : Act σ α} : FailsWith (sure action) s E := fun _ he => by cases he

theorem fails_call {stage : SetupStage} {c : CameraCall} {effect : StateM σ (Except CameraError α)}
    (h : ∀ e, (Act.call rig c effect s).1 = .error e →
      E ⟨stage, .camera e⟩ (Act.call rig c effect s).2) :
    FailsWith (call rig stage c effect) s E := by
  intro e he
  cases hcall : (Act.call rig c effect s).1 with
  | error e' =>
    rw [call_of_error hcall] at he ⊢
    cases he
    exact h e' hcall
  | ok a => rw [call_of_ok hcall] at he; cases he

end FailsWith

/-! ## Up to the size of a frame -/

variable (rig : Rig σ) (settings : RunSettings) (s : RunState σ)

/-- Setup up to the size of a frame, with the camera that has been opened. -/
def size : Step σ (Handle × ℕ) := do
  let camera ← openCamera rig settings
  let frameBytes ← configure rig settings camera
  return (camera, frameBytes)

/-- Setup from the size of a frame on. -/
def fromSize (agreed : Handle × ℕ) : Step σ Duration := do
  let buffer ← allocate rig settings agreed.1 agreed.2
  register rig agreed.1
  start rig settings agreed.1 buffer

/-- What comes of allocating the buffer, if setup gets so far. -/
def allocation? : Option (Except AllocationError FrameBuffer) :=
  match (size rig settings s).1 with
  | .error _ => none
  | .ok agreed =>
    some (FrameBuffer.allocate (fun bytes => (rig.reserve bytes (size rig settings s).2.rig).1)
      agreed.2 settings.bufferFrames settings.bufferLimit)

theorem steps_eq_size : steps rig settings = size rig settings >>= fromSize rig settings := by
  unfold steps size fromSize
  simp only [bind_assoc, pure_bind]

theorem size_fails : FailsWith (size rig settings) s fun e _ =>
    e.stage ∈ [SetupStage.openDevice, .selectExposureMode, .setupAcquisition] := by
  refine FailsWith.bind ?_ (answers_true _) fun camera s₁ _ => ?_
  · exact (fails_call fun e _ => by simp).bind (answers_true _) fun camera s₁ _ =>
      fails_sure.bind (answers_true _) fun _ _ _ => fails_pure
  refine FailsWith.bind ?_ (answers_true _) fun frameBytes s₂ _ => fails_pure
  exact (fails_call fun e _ => by simp).bind (answers_true _) fun mode s₂ _ =>
    (fails_call fun e _ => by simp).bind (answers_true _) fun frameBytes s₃ _ =>
      fails_sure.bind (answers_true _) fun _ _ _ => fails_pure

theorem register_fails (camera : Handle) : FailsWith (register rig camera) s fun e _ =>
    e.stage = .registerCallback :=
  (fails_call fun _ _ => rfl).bind (answers_true _) fun _ _ _ => fails_sure

theorem start_fails (camera : Handle) (buffer : FrameBuffer) :
    FailsWith (start rig settings camera buffer) s fun e _ => e.stage = .startAcquisition :=
  fails_sure.bind (answers_true _) fun _ _ _ =>
    (fails_call fun _ _ => rfl).bind (answers_true _) fun _ _ _ =>
      fails_sure.bind (answers_true _) fun _ _ _ => fails_pure

/-- The buffer is allocated from what the rig grants. -/
theorem allocate_eq (camera : Handle) (frameBytes : ℕ) :
    (allocate rig settings camera frameBytes s).1 =
      (FrameBuffer.allocate (fun bytes => (rig.reserve bytes s.rig).1) frameBytes
        settings.bufferFrames settings.bufferLimit).mapError
          fun e => ⟨.allocateBuffer, .allocation e⟩ := by
  cases hsize : FrameBuffer.checkSize frameBytes settings.bufferFrames settings.bufferLimit with
  | error e =>
    rw [allocate_of_error rig settings camera s hsize]
    unfold FrameBuffer.allocate
    rw [hsize]
    rfl
  | ok total =>
    rw [allocate_of_ok rig settings camera s hsize]
    unfold FrameBuffer.allocate
    rw [hsize]
    cases hbase : (rig.reserve total s.rig).1 with
    | none => simp only [bind, Except.bind, hbase]; rfl
    | some base => simp only [bind, Except.bind, hbase]; rfl

end Setup

/-- What allocating the buffer has come to on a path. -/
def SetupPath.Allots (a : Option (Except AllocationError FrameBuffer)) : SetupPath → Prop
  | openFails _ | selectFails .. | configureFails .. => a = none
  | allocateFails _ _ _ e => a = some (.error e)
  | registerFails .. | startFails .. | succeeds .. => ∃ buffer, a = some (.ok buffer)

namespace Setup

variable {σ : Type} (rig : Rig σ) (settings : RunSettings) (s : RunState σ)

/-- From the size of a frame on, a refused buffer is all that setup comes to. -/
theorem fromSize_of_refused {agreed : Handle × ℕ} {e : AllocationError}
    (h : FrameBuffer.allocate (fun bytes => (rig.reserve bytes s.rig).1) agreed.2
      settings.bufferFrames settings.bufferLimit = .error e) :
    (fromSize rig settings agreed s).1 = .error ⟨.allocateBuffer, .allocation e⟩ := by
  have hallocate := allocate_eq rig settings s agreed.1 agreed.2
  rw [h] at hallocate
  unfold fromSize
  rw [bind_of_error hallocate]

/-- With the buffer there, only the last two stages are left to fail. -/
theorem fromSize_fails {agreed : Handle × ℕ} {buffer : FrameBuffer}
    (h : FrameBuffer.allocate (fun bytes => (rig.reserve bytes s.rig).1) agreed.2
      settings.bufferFrames settings.bufferLimit = .ok buffer) :
    FailsWith (fromSize rig settings agreed) s fun e _ =>
      e.stage = .registerCallback ∨ e.stage = .startAcquisition := by
  have hallocate := allocate_eq rig settings s agreed.1 agreed.2
  rw [h] at hallocate
  refine FailsWith.bind (fun e he => ?_) (answers_true _) fun _ _ _ =>
    FailsWith.bind (fun e he => .inl (register_fails rig _ _ e he)) (answers_true _)
      fun _ _ _ e he => .inr (start_fails rig settings _ _ _ e he)
  rw [hallocate] at he
  cases he

/-- The path that setup takes goes by what comes of allocating the buffer. -/
theorem steps_allots {path : SetupPath}
    (hpath : failure? (steps rig settings s).1 = path.error?) :
    path.Allots (allocation? rig settings s) := by
  unfold allocation?
  rw [steps_eq_size] at hpath
  cases hsize : (size rig settings s).1 with
  | error e =>
    have hstage := size_fails rig settings s e hsize
    rw [bind_of_error hsize] at hpath
    cases path with
    | openFails | selectFails | configureFails => rfl
    | succeeds => cases hpath
    | _ => cases hpath; simp at hstage
  | ok agreed =>
    rw [bind_of_ok hsize] at hpath
    dsimp only
    cases ha : FrameBuffer.allocate
        (fun bytes => (rig.reserve bytes (size rig settings s).2.rig).1) agreed.2
        settings.bufferFrames settings.bufferLimit with
    | error e =>
      rw [fromSize_of_refused rig settings _ ha] at hpath
      cases path with
      | allocateFails => cases hpath; rfl
      | _ => cases hpath
    | ok buffer =>
      cases hrest : (fromSize rig settings agreed (size rig settings s).2).1 with
      | error e =>
        have hstage := fromSize_fails rig settings _ ha e hrest
        rw [hrest] at hpath
        cases path with
        | registerFails | startFails | succeeds => exact ⟨buffer, rfl⟩
        | _ => cases hpath; simp at hstage
      | ok began =>
        rw [hrest] at hpath
        cases path with
        | succeeds => exact ⟨buffer, rfl⟩
        | _ => cases hpath

end Setup

/-! ## By the path of setup -/

namespace SetupPath

variable (settings : RunSettings) (path : SetupPath)

/-- The call that fails on a path is the one that the error tells of. -/
theorem error?_of_failed {c : CameraCall} {stage : SetupStage} {e : CameraError}
    (hstage : c.stage? = some stage) (h : (c, some e) ∈ path.answers settings) :
    path.error? = some ⟨stage, .camera e⟩ := by
  cases path <;> simp [answers] at h
  all_goals
    obtain ⟨rfl, rfl⟩ := h
    cases hstage
    rfl

theorem failed_of_error? {stage : SetupStage} {e : CameraError}
    (h : path.error? = some ⟨stage, .camera e⟩) :
    ∃ c : CameraCall, c.stage? = some stage ∧ (c, some e) ∈ path.answers settings := by
  cases path with
  | allocateFails => cases h
  | succeeds => cases h
  | _ => cases h; exact ⟨_, rfl, by simp [answers]; rfl⟩

theorem stage?_teardown {f : TeardownFailures} {c : CameraCall} {failure : Option CameraError}
    (h : (c, failure) ∈ path.teardownAnswers f) : c.stage? = none := by
  have hc : c ∈ (path.teardownAnswers f).map Prod.fst := List.mem_map_of_mem h
  cases path with
  | openFails => cases hc
  | selectFails | configureFails | allocateFails | registerFails =>
    simp only [teardownAnswers, List.map_cons, List.map_nil, List.mem_cons, List.not_mem_nil,
      or_false] at hc
    rcases hc with rfl | rfl <;> rfl
  | startFails | succeeds =>
    simp only [teardownAnswers, List.map_cons, List.map_nil, List.mem_cons, List.not_mem_nil,
      or_false] at hc
    rcases hc with rfl | rfl | rfl <;> rfl

end SetupPath

namespace SetupReplies

variable {settings : RunSettings} {path : SetupPath} {f : TeardownFailures} {t : SetupReplies}
  {stage : SetupStage} {cause : SetupCause}

/-- The replies are those on a path. -/
structure OnPath (settings : RunSettings) (path : SetupPath) (f : TeardownFailures)
    (t : SetupReplies) : Prop where
  answers : t.answers = path.answers settings ++ path.teardownAnswers f
  allots : path.Allots t.allocation?

namespace OnPath

variable (h : OnPath settings path f t)

include h

theorem mem_answers {c : CameraCall} {failure : Option CameraError}
    (hmem : (c, failure) ∈ path.answers settings) : (c, failure) ∈ t.answers := by
  rw [h.answers]
  exact List.mem_append_left _ hmem

theorem mem_of_stage {c : CameraCall} {failure : Option CameraError}
    (hstage : c.stage? = some stage) (hmem : (c, failure) ∈ t.answers) :
    (c, failure) ∈ path.answers settings := by
  rw [h.answers, List.mem_append] at hmem
  refine hmem.resolve_right fun hteardown => ?_
  rw [path.stage?_teardown hteardown] at hstage
  cases hstage

theorem error?_of_fails (hfails : t.Fails stage cause) : path.error? = some ⟨stage, cause⟩ := by
  have hallots := h.allots
  cases hfails with
  | call hstage hmem => exact path.error?_of_failed settings hstage (h.mem_of_stage hstage hmem)
  | allocation ha =>
    cases path with
    | openFails | selectFails | configureFails => cases hallots.symm.trans ha
    | allocateFails => cases hallots.symm.trans ha; rfl
    | _ =>
      obtain ⟨buffer, hbuffer⟩ := hallots
      cases hbuffer.symm.trans ha

theorem fails_of_error? (herror : path.error? = some ⟨stage, cause⟩) : t.Fails stage cause := by
  have hallots := h.allots
  cases cause with
  | camera e =>
    obtain ⟨c, hstage, hmem⟩ := path.failed_of_error? settings herror
    exact .call hstage (h.mem_answers hmem)
  | allocation e =>
    cases path <;> cases herror
    exact .allocation hallots

/-- The stages in front of the one that fails have succeeded; all have where none fails. -/
theorem passes (hstage : ∀ e, path.error? = some e → stage ∈ e.stage.before) :
    t.Passes stage := by
  have hpassed : ∀ {c : CameraCall}, c.stage? = some stage → (c, none) ∈ path.answers settings →
      t.Passes stage := fun hc hmem => .call hc (h.mem_answers hmem)
  have hlate : ∀ {e : SetupError}, path.error? = some e → stage ∉ e.stage.before → False :=
    fun he hnot => hnot (hstage _ he)
  have hallots := h.allots
  cases stage with
  | allocateBuffer =>
    cases path with
    | registerFails | startFails | succeeds =>
      obtain ⟨buffer, hbuffer⟩ := hallots
      exact .allocation hbuffer
    | _ => exact (hlate rfl (by simp [SetupStage.before, SetupStage.all])).elim
  | openDevice =>
    cases path with
    | openFails => exact (hlate rfl (by simp [SetupStage.before, SetupStage.all])).elim
    | _ => exact hpassed rfl (List.mem_cons_self ..)
  | selectExposureMode =>
    cases path with
    | openFails | selectFails =>
      exact (hlate rfl (by simp [SetupStage.before, SetupStage.all])).elim
    | _ => exact hpassed rfl (.tail _ (.head _))
  | setupAcquisition =>
    cases path with
    | openFails | selectFails | configureFails =>
      exact (hlate rfl (by simp [SetupStage.before, SetupStage.all])).elim
    | _ => exact hpassed rfl (.tail _ (.tail _ (.head _)))
  | registerCallback =>
    cases path with
    | startFails | succeeds => exact hpassed rfl (.tail _ (.tail _ (.tail _ (.head _))))
    | _ => exact (hlate rfl (by simp [SetupStage.before, SetupStage.all])).elim
  | startAcquisition =>
    cases path with
    | succeeds => exact hpassed rfl (.tail _ (.tail _ (.tail _ (.tail _ (.head _)))))
    | _ => exact (hlate rfl (by simp [SetupStage.before, SetupStage.all])).elim

end OnPath

end SetupReplies

/-! ## Every run -/

namespace Run

variable {σ : Type} (rig : Rig σ) (settings : RunSettings) (s : RunState σ)

/-- A run that fails in setup says what setup says, and what the camera adds to it. -/
theorem drive_failed {e : SetupError} {diagnostic : Option CameraError}
    (h : (drive rig settings s).1.1 = .setupFailed e diagnostic) :
    (Setup.steps rig settings s).1 = .error e ∧
      diagnostic = match e.cause with
        | .camera _ =>
          let last := (rig.lastError (Setup.steps rig settings s).2.rig).1
          if last.code = 0 then none else some last
        | .allocation _ => none := by
  cases hsteps : (Setup.steps rig settings s).1 with
  | error e' =>
    rw [drive_of_error rig settings s hsteps] at h
    obtain ⟨stage, cause⟩ := e'
    cases cause with
    | camera e' => cases h; exact ⟨rfl, rfl⟩
    | allocation e' => cases h; exact ⟨rfl, rfl⟩
  | ok began =>
    obtain ⟨taken, -, hanswer, -⟩ := Watch.frames_path rig settings
      (Act.enter .acquiring (Setup.steps rig settings s).2).2 settings.targetFrames began .none
    rw [drive_of_ok rig settings s hsteps] at h
    dsimp only at h
    rw [hanswer] at h
    unfold watchVerdict at h
    split at h <;> cases h

end Run

/-- The path of a run tells what its setup has returned. -/
theorem RunCourse.setup_error {σ : Type} {rig : Rig σ} {settings : RunSettings}
    {s₀ s : RunState σ} {outcome : Outcome} {path : SetupPath}
    {taken : List (FrameDescriptor × Duration)} {f : TeardownFailures}
    (h : RunCourse rig settings s₀ outcome s path taken f) :
    failure? (Setup.steps rig settings s₀).1 = path.error? := by
  have hverdict := h.verdict
  cases herror : path.error? with
  | some e =>
    rw [herror] at hverdict
    obtain ⟨diagnostic, hverdict⟩ := hverdict
    rw [(Run.drive_failed rig settings s₀ (h.judged.symm.trans hverdict)).1]
    rfl
  | none =>
    cases hsteps : (Setup.steps rig settings s₀).1 with
    | ok began => rfl
    | error e =>
      obtain ⟨⟨diagnostic, hfailed⟩, -⟩ :=
        Run.failSetup_path rig (Setup.steps rig settings s₀).2 e
      have hwatched := h.judged.symm.trans (h.verdict_of_none herror)
      rw [Run.drive_of_error rig settings s₀ hsteps, hfailed] at hwatched
      unfold watchVerdict at hwatched
      split at hwatched <;> cases hwatched

namespace Runner

variable {σ : Type} (rig : Rig σ) (r : Runner σ) (number : ℕ)

/-- The state in which the next run begins. -/
def start : RunState σ := .initial r.rig r.mailbox.reset

/-- What the stages of setup come to in the next run. -/
def replies : SetupReplies where
  answers := answers (r.run rig number).2.1.past.toList
  allocation? := Setup.allocation? rig r.settings r.start

/-- The error that the camera keeps when setup has failed in the next run. -/
def lastErrorAfterSetup : CameraError :=
  (rig.lastError (Setup.steps rig r.settings r.start).2.rig).1

/-- In every run, the first stage that fails is to blame. -/
theorem blames :
    (r.replies rig number).Blames (r.lastErrorAfterSetup rig) (r.run rig number).1.verdict := by
  obtain ⟨path, taken, f, hcourse⟩ := r.run_course rig number
  have hsetup : failure? (Setup.steps rig r.settings r.start).1 = path.error? :=
    hcourse.setup_error
  have hpath : SetupReplies.OnPath r.settings path f (r.replies rig number) :=
    ⟨hcourse.answers_eq, Setup.steps_allots rig r.settings r.start hsetup⟩
  have hfailed : ∀ {e diagnostic}, (r.run rig number).1.verdict = .setupFailed e diagnostic →
      path.error? = some e ∧ diagnostic = match e.cause with
        | .camera _ =>
          let last := r.lastErrorAfterSetup rig
          if last.code = 0 then none else some last
        | .allocation _ => none := by
    intro e diagnostic h
    obtain ⟨hsteps, hdiagnostic⟩ :=
      Run.drive_failed rig r.settings r.start (hcourse.judged.symm.trans h)
    rw [hsteps] at hsetup
    exact ⟨hsetup.symm, hdiagnostic⟩
  refine ⟨⟨?_, ?_⟩, fun h => ?_, fun h stage hstage => ?_, fun h stage cause hfails => ?_,
    fun h stage => ?_, fun h => (hfailed h).2, fun h => (hfailed h).2⟩
  · rintro ⟨e, diagnostic, h⟩
    exact ⟨e.stage, e.cause, hpath.fails_of_error? (hfailed h).1⟩
  · rintro ⟨stage, cause, hfails⟩
    have herror := hpath.error?_of_fails hfails
    exact hcourse.verdict_of_ne_none (by rw [herror]; simp)
  · exact hpath.fails_of_error? (hfailed h).1
  · refine hpath.passes fun e he => ?_
    rw [(hfailed h).1] at he
    cases he
    exact hstage
  · have herror := hpath.error?_of_fails hfails
    rw [(hfailed h).1] at herror
    exact Option.some.inj herror
  · refine hpath.passes fun e he => ?_
    obtain ⟨e', diagnostic, h'⟩ := hcourse.verdict_of_ne_none (by rw [he]; simp)
    exact absurd h' (h e' diagnostic)

end Runner

end FrameWatch
