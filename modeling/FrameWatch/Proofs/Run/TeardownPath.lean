import FrameWatch.Proofs.Run.Moves

/-!
# The path of teardown

Teardown makes its calls whatever comes of the others. How they fail decides where it leads:
`Standing.givenBack` says what the run then holds and which steps it has made, and
`Teardown.steps_path` that every teardown leads there. Asked for once more, teardown does nothing
(`Teardown.steps_of_tornDown`).
-/

namespace FrameWatch

open Act (callSteps)

/-- What becomes of a resource at the end: it is given back if it can be. -/
def Custody.settle {α : Type} (free : Bool) : Custody α → Custody α
  | held item => if free then released else leaked item
  | absent => absent
  | released => released
  | leaked item => leaked item

/-- The resource, as long as it is held. -/
def Custody.held? {α : Type} : Custody α → Option α
  | held item => some item
  | _ => none

@[simp] theorem Custody.isSome_held?_map {α β : Type} (f : α → β) (c : Custody α) :
    (c.map f).held?.isSome = c.held?.isSome := by
  cases c <;> rfl

/-- How the calls of a teardown fail, where they are made and fail. -/
structure TeardownFailures where
  abort : Option CameraError
  deregister : Option CameraError
  close : Option CameraError

/-- The steps of a call whose error is logged. -/
def attemptSteps (c : CameraCall) (failure : Option CameraError) (event : CameraError → RunEvent) :
    List RunStep :=
  callSteps c failure ++ (failure.map fun e => .noted (.event (event e))).toList

namespace Standing

section Steps

variable (s : Standing) (failure : Option CameraError)

def abortSteps : List RunStep :=
  s.camera.elim [] fun camera => attemptSteps (.abort camera) failure .abortFailed

def deregisterSteps : List RunStep :=
  s.camera.elim [] fun camera =>
    if s.registered then attemptSteps (.deregister camera) failure .deregisterFailed else []

/-- What is logged about the context, after the handler was deregistered or not. -/
def contextSteps : List RunStep :=
  match s.context with
  | .held _ => if failure = none then [] else [.noted (.event .contextLeaked)]
  | _ => []

/-- What is logged about the buffer, after acquisition was aborted or not. -/
def bufferSteps : List RunStep :=
  match s.buffer with
  | .held buffer =>
    if failure = none then [.noted (.event (.bufferReleased buffer.size))]
    else [.noted (.event (.bufferLeaked buffer.size))]
  | _ => []

def closeSteps : List RunStep :=
  s.camera.elim [] fun camera => attemptSteps (.close camera) failure .closeFailed

end Steps

variable (s : Standing) (f : TeardownFailures)

/-- The steps of a teardown. -/
def teardownSteps : List RunStep :=
  s.abortSteps f.abort ++ s.deregisterSteps f.deregister ++ s.contextSteps f.deregister ++
    s.bufferSteps f.abort ++ s.closeSteps f.close ++ [.noted (.event .tornDown)]

/-- Everything is given back, as far as the failures of the calls allow. -/
def givenBack : Standing where
  camera := none
  registered := f.deregister.isSome
  context := s.context.settle f.deregister.isNone
  buffer := s.buffer.settle f.abort.isNone
  phase := s.phase
  tornDown := s.tornDown
  trail := s.trail ++ s.teardownSteps f

/-- The failures are of calls that are made. -/
structure Admits : Prop where
  abort : s.camera = none → f.abort = none
  deregister : s.registered = false → f.deregister = none

/-- What cannot be given back. -/
def leaks : TeardownSummary where
  bufferLeaked := s.buffer.held?.isSome && f.abort.isSome
  contextLeaked := s.context.held?.isSome && f.deregister.isSome

end Standing

namespace Teardown

variable {σ : Type} (rig : Rig σ) (s : RunState σ)

theorem attempt_eq (c : CameraCall) (effect : StateM σ (Except CameraError Unit))
    (event : CameraError → RunEvent) :
    attempt rig c effect event s = match (Act.call rig c effect s).1 with
      | .ok () => (true, (Act.call rig c effect s).2)
      | .error e => (false, (Act.call rig c effect s).2.log (event e)) := by
  unfold attempt
  rw [Act.run_bind]
  cases (Act.call rig c effect s).1 <;> rfl

theorem attempt_path (c : CameraCall) (effect : StateM σ (Except CameraError Unit))
    (event : CameraError → RunEvent) (hc : (RunStep.noted (.call c)).isOwn = true) :
    ∃ failure : Option CameraError, (attempt rig c effect event s).1 = failure.isNone ∧
      (attempt rig c effect event s).2.standing =
        s.standing.did (attemptSteps c failure event) ∧
      Moves rig s (attempt rig c effect event s).2 := by
  have hst := Act.standing_call rig s c effect hc
  have hmoves := Act.call_moves rig s c effect hc
  rw [attempt_eq]
  cases h : (Act.call rig c effect s).1 with
  | ok =>
    rw [h] at hst
    refine ⟨none, rfl, ?_, hmoves⟩
    rw [attemptSteps, Option.map_none, Option.toList_none, List.append_nil]
    exact hst
  | error e =>
    rw [h] at hst
    refine ⟨some e, rfl, ?_, hmoves.trans (Act.log_moves rig _ (event e))⟩
    show (Act.log (event e) (Act.call rig c effect s).2).2.standing = _
    rw [Act.standing_log, hst, Standing.did_did]
    rfl

theorem abort_path :
    ∃ failure : Option CameraError, (s.camera = none → failure = none) ∧
      (abort rig s).1 = failure.isNone ∧
      (abort rig s).2.standing = s.standing.did (s.standing.abortSteps failure) ∧
      Moves rig s (abort rig s).2 := by
  unfold abort
  rw [Act.run_bind, Act.run_get]
  cases hcamera : s.camera with
  | none =>
    refine ⟨none, fun _ => rfl, rfl, ?_, .refl⟩
    simp [Standing.abortSteps, hcamera, Act.run_pure]
  | some camera =>
    obtain ⟨failure, hanswer, hst, hmoves⟩ :=
      attempt_path rig s (.abort camera) (rig.abort camera) .abortFailed rfl
    refine ⟨failure, by simp, hanswer, ?_, hmoves⟩
    simpa [Standing.abortSteps, hcamera] using hst

theorem deregister_of_unregistered (h : s.registered = false) : deregister rig s = (true, s) := by
  unfold deregister
  rw [Act.run_bind, Act.run_get]
  cases hcamera : s.camera with
  | none => rfl
  | some camera =>
    dsimp only
    rw [h]
    rfl

theorem deregister_of_registered {camera : Handle} (hcamera : s.camera = some camera)
    (hreg : s.registered = true) :
    deregister rig s =
      let r := attempt rig (.deregister camera) (rig.deregister camera) .deregisterFailed s
      (r.1, if r.1 then { r.2 with registered := false } else r.2) := by
  unfold deregister
  rw [Act.run_bind, Act.run_get]
  dsimp only
  rw [hcamera]
  dsimp only
  rw [if_pos hreg, Act.run_bind]
  cases (attempt rig (.deregister camera) (rig.deregister camera) .deregisterFailed s).1 <;> rfl

theorem deregister_path (hcamera : s.camera = none → s.registered = false) :
    ∃ failure : Option CameraError, (s.registered = false → failure = none) ∧
      (deregister rig s).1 = failure.isNone ∧
      (deregister rig s).2.standing =
        { s.standing.did (s.standing.deregisterSteps failure) with
          registered := failure.isSome } ∧
      Moves rig s (deregister rig s).2 := by
  by_cases hreg : s.registered = true
  · obtain ⟨camera, hopen⟩ : ∃ camera, s.camera = some camera := by
      cases h : s.camera with
      | none => rw [hcamera h] at hreg; cases hreg
      | some camera => exact ⟨camera, rfl⟩
    obtain ⟨failure, hanswer, hst, hmoves⟩ :=
      attempt_path rig s (.deregister camera) (rig.deregister camera) .deregisterFailed rfl
    have hsteps : s.standing.deregisterSteps failure =
        attemptSteps (.deregister camera) failure .deregisterFailed := by
      simp [Standing.deregisterSteps, hopen, hreg]
    refine ⟨failure, by simp [hreg], ?_⟩
    rw [deregister_of_registered rig s hopen hreg, hsteps, ← hst]
    refine ⟨hanswer, ?_⟩
    dsimp only
    rw [hanswer]
    cases failure with
    | none => exact ⟨rfl, hmoves.tail (.deregister _)⟩
    | some e =>
      rw [if_neg (by simp)]
      refine ⟨?_, hmoves⟩
      have hkept : (attempt rig (.deregister camera) (rig.deregister camera) .deregisterFailed
          s).2.standing.registered = true := by rw [hst]; exact hreg
      rw [Option.isSome_some, ← hkept]
  · have hreg : s.registered = false := by simpa using hreg
    have hsteps : s.standing.deregisterSteps none = [] := by
      cases h : s.camera <;> simp [Standing.deregisterSteps, h, hreg]
    rw [deregister_of_unregistered rig s hreg]
    refine ⟨none, fun _ => rfl, rfl, ?_, .refl⟩
    rw [hsteps, Standing.did_nil, Option.isSome_none, ← hreg]
    rfl

theorem dropContext_path {failure : Option CameraError}
    (hreg : s.registered = failure.isSome) :
    (dropContext failure.isNone s).1.2 =
        (s.context.held?.isSome && failure.isSome) ∧
      (dropContext failure.isNone s).2.standing =
        { s.standing.did (s.standing.contextSteps failure) with
          context := s.standing.context.settle failure.isNone } ∧
      Moves rig s (dropContext failure.isNone s).2 := by
  unfold dropContext
  rw [Act.run_bind, Act.run_get]
  cases hcontext : s.context with
  | held handler =>
    cases failure with
    | none =>
      refine ⟨rfl, ?_, .single (.dropContext s hreg)⟩
      simp only [Standing.contextSteps, RunState.context_standing, hcontext, Custody.map]
      rw [if_pos trivial, Standing.did_nil]
      rfl
    | some e =>
      refine ⟨rfl, ?_, (Act.log_moves rig s .contextLeaked).tail (.leakContext _ hcontext)⟩
      simp only [Standing.contextSteps, RunState.context_standing, hcontext, Custody.map,
        reduceCtorEq, if_false]
      rw [← s.standing_log]
      rfl
  | _ =>
    refine ⟨rfl, ?_, .refl⟩
    simp [RunState.standing, Standing.did, Standing.contextSteps, hcontext, Custody.map,
      Custody.settle, Act.run_pure]

theorem dropBuffer_path (failure : Option CameraError) :
    (dropBuffer failure.isNone s).1 = (s.buffer.held?.isSome && failure.isSome) ∧
      (dropBuffer failure.isNone s).2.standing =
        { s.standing.did (s.standing.bufferSteps failure) with
          buffer := s.buffer.settle failure.isNone } ∧
      Moves rig s (dropBuffer failure.isNone s).2 := by
  unfold dropBuffer
  rw [Act.run_bind, Act.run_get]
  cases hbuffer : s.buffer with
  | held buffer =>
    cases failure with
    | none =>
      refine ⟨rfl, ?_, (Act.log_moves rig s _).tail (.giveBuffer _ .released)⟩
      simp only [Standing.bufferSteps, RunState.buffer_standing, hbuffer]
      rw [if_pos trivial, ← s.standing_log]
      rfl
    | some e =>
      refine ⟨rfl, ?_, (Act.log_moves rig s _).tail (.giveBuffer _ (.leaked buffer))⟩
      simp only [Standing.bufferSteps, RunState.buffer_standing, hbuffer, reduceCtorEq, if_false]
      rw [← s.standing_log]
      rfl
  | _ =>
    refine ⟨rfl, ?_, .refl⟩
    simp [RunState.standing, Standing.did, Standing.bufferSteps, hbuffer, Custody.settle,
      Act.run_pure]

theorem close_path :
    ∃ failure : Option CameraError,
      (close rig s).2.standing =
        { s.standing.did (s.standing.closeSteps failure) with camera := none } ∧
      Moves rig s (close rig s).2 := by
  unfold close
  rw [Act.run_bind, Act.run_get]
  cases hcamera : s.camera with
  | none =>
    refine ⟨none, ?_, .refl⟩
    simp only [Standing.closeSteps, RunState.camera_standing, hcamera, Option.elim_none,
      Standing.did_nil]
    rw [← hcamera]
    rfl
  | some camera =>
    obtain ⟨failure, -, hst, hmoves⟩ :=
      attempt_path rig s (.close camera) (rig.close camera) .closeFailed rfl
    refine ⟨failure, ?_, hmoves.tail (.hold _ none)⟩
    simp only [Standing.closeSteps, RunState.camera_standing, hcamera, Option.elim_some]
    rw [← hst]
    rfl

/-- Where giving everything back leads. -/
theorem giveBack_path (hcamera : s.camera = none → s.registered = false) :
    ∃ f : TeardownFailures, s.standing.Admits f ∧
      (giveBack rig s).1.2 = s.standing.leaks f ∧
      (giveBack rig s).2.standing = s.standing.givenBack f ∧
      Moves rig s (giveBack rig s).2 := by
  obtain ⟨a, hmade, habort, h₁, hmoves₁⟩ := abort_path rig s
  have hcamera₁ : (abort rig s).2.camera = s.camera := congrArg Standing.camera h₁
  have hreg₁ : (abort rig s).2.registered = s.registered := congrArg Standing.registered h₁
  obtain ⟨d, hmade', hderegister, h₂, hmoves₂⟩ :=
    deregister_path rig (abort rig s).2 (by rw [hcamera₁, hreg₁]; exact hcamera)
  set s₂ := (deregister rig (abort rig s).2).2 with hs₂
  have hreg₂ : s₂.registered = d.isSome := congrArg Standing.registered h₂
  obtain ⟨hcontext, h₃, hmoves₃⟩ := dropContext_path rig s₂ hreg₂
  set s₃ := (dropContext d.isNone s₂).2 with hs₃
  obtain ⟨hbuffer, h₄, hmoves₄⟩ := dropBuffer_path rig s₃ a
  set s₄ := (dropBuffer a.isNone s₃).2 with hs₄
  obtain ⟨c, h₅, hmoves₅⟩ := close_path rig s₄
  have hrun : giveBack rig s =
      (((dropContext d.isNone s₂).1.1,
          ⟨(dropBuffer a.isNone s₃).1, (dropContext d.isNone s₂).1.2⟩),
        (Act.log .tornDown (close rig s₄).2).2) := by
    rw [hs₄, hs₃, hs₂, ← habort, ← hderegister]
    rfl
  rw [hrun]
  refine ⟨⟨a, d, c⟩, ⟨hmade, ?_⟩, ?_, ?_, ?_⟩
  · rw [hreg₁] at hmade'
    exact hmade'
  · have hbuffer₃ : s₃.buffer = s.buffer := by
      show s₃.standing.buffer = s.standing.buffer
      rw [h₃, h₂, h₁]
      rfl
    have hcontext₂ : s₂.standing.context = s.standing.context := by rw [h₂, h₁]; rfl
    rw [hcontext, hbuffer, hbuffer₃, ← Custody.isSome_held?_map Handler.pristine s₂.context]
    rw [RunState.context_standing] at hcontext₂
    rw [hcontext₂]
    rfl
  · have hbuffer₃ : s₃.standing.buffer = s.standing.buffer := by rw [h₃, h₂, h₁]; rfl
    rw [RunState.buffer_standing] at hbuffer₃
    rw [Act.standing_log, h₅, h₄, hbuffer₃, h₃, h₂, h₁]
    unfold Standing.givenBack Standing.teardownSteps Standing.did
    simp only [List.append_assoc]
    rfl
  · exact (((((hmoves₁.trans hmoves₂).trans hmoves₃).trans hmoves₄).trans hmoves₅).trans
      (Act.log_moves rig _ .tornDown))

theorem steps_of_tornDown (h : s.tornDown = true) :
    steps rig s = ((.zero, .clean), s) := by
  unfold steps
  rw [Act.run_bind, Act.run_get, if_pos h]
  rfl

theorem steps_of_standing (h : s.tornDown = false) :
    steps rig s = giveBack rig { s with tornDown := true } := by
  unfold steps
  rw [Act.run_bind, Act.run_get, if_neg (by simp [h])]
  rfl

/-- Where the first teardown of a run leads. -/
theorem steps_path (hcamera : s.camera = none → s.registered = false)
    (hdue : s.tornDown = false) :
    ∃ f : TeardownFailures, s.standing.Admits f ∧
      (steps rig s).1.2 = s.standing.leaks f ∧
      (steps rig s).2.standing = { s.standing.givenBack f with tornDown := true } ∧
      Moves rig s (steps rig s).2 := by
  rw [steps_of_standing rig s hdue]
  obtain ⟨f, ⟨habort, hderegister⟩, hleaks, hst, hmoves⟩ :=
    giveBack_path rig { s with tornDown := true } hcamera
  exact ⟨f, ⟨habort, hderegister⟩, hleaks, hst, .head (.tearDown s) hmoves⟩

end Teardown

end FrameWatch
