import FrameWatch.Proofs.Run.Moves

/-!
# The paths of setup

Setup leaves by one of seven exits: one for each step that can fail, and one for success.
`SetupPath` names the exits with what was answered on the way, and `Setup.steps_path` says that a
run has come by one of them: which steps it has made, what it holds, and what setup returns.
-/

namespace FrameWatch

open Act (callSteps)

/-- An exit of setup, with the answers that lead to it. -/
inductive SetupPath
  | openFails (e : CameraError)
  | selectFails (camera : Handle) (e : CameraError)
  | configureFails (camera : Handle) (mode : NegotiatedMode) (e : CameraError)
  | allocateFails (camera : Handle) (mode : NegotiatedMode) (frameBytes : Nat)
      (e : AllocationError)
  | registerFails (camera : Handle) (mode : NegotiatedMode) (frameBytes : Nat)
      (buffer : FrameBuffer) (e : CameraError)
  | startFails (camera : Handle) (mode : NegotiatedMode) (frameBytes : Nat)
      (buffer : FrameBuffer) (e : CameraError)
  | succeeds (camera : Handle) (mode : NegotiatedMode) (frameBytes : Nat) (buffer : FrameBuffer)

/-- Where a run begins. -/
def Standing.fresh : Standing := ⟨none, false, .absent, .absent, .idle, false, []⟩

/-! ## Where each step of setup leads -/

namespace Standing

variable (settings : RunSettings) (logsOpening : Bool)

/-- The call that agrees on the size of a frame. -/
def configureCall (camera : Handle) (mode : NegotiatedMode) : CameraCall :=
  .configure camera settings.region mode settings.exposureMs settings.bufferPolicy

/-- The camera is open. -/
def afterOpen (camera : Handle) : Standing :=
  { fresh.did (callSteps (.openCamera settings.camera) none ++
      if logsOpening then [.noted (.event (.cameraOpened settings.camera camera))] else []) with
    camera := some camera }

/-- The exposure mode is agreed on. -/
def afterSelect (camera : Handle) : Standing :=
  (afterOpen settings logsOpening camera).did
    (callSteps (.selectMode camera settings.exposureMode) none)

/-- The size of a frame is agreed on. -/
def afterConfigure (camera : Handle) (mode : NegotiatedMode) (frameBytes : Nat) : Standing :=
  { (afterSelect settings logsOpening camera).did
      (callSteps (configureCall settings camera mode) none ++
        [.noted (.event (.configured mode frameBytes)),
          .noted (.event (.transition .idle .configured))]) with
    phase := .configured }

/-- The buffer is allocated, and the handler's context with it. -/
def afterAllocate (camera : Handle) (mode : NegotiatedMode) (frameBytes : Nat)
    (buffer : FrameBuffer) : Standing :=
  { (afterConfigure settings logsOpening camera mode frameBytes).did
      [.noted (.event (.bufferAllocated buffer))] with
    buffer := .held buffer
    context := .held (.ofBuffer camera buffer) }

/-- The handler is registered. -/
def afterRegister (camera : Handle) (mode : NegotiatedMode) (frameBytes : Nat)
    (buffer : FrameBuffer) : Standing :=
  { (afterAllocate settings logsOpening camera mode frameBytes buffer).did
      (callSteps (.register camera) none) with
    registered := true }

/-- The camera is started. -/
def afterStart (camera : Handle) (mode : NegotiatedMode) (frameBytes : Nat)
    (buffer : FrameBuffer) : Standing :=
  (afterRegister settings logsOpening camera mode frameBytes buffer).did
    (callSteps (.start camera buffer.size) none ++
      [.noted (.event (.started settings.targetFrames settings.frameDeadline buffer.size))])

end Standing

namespace SetupPath

/-- The error that setup ends with. -/
def error? : SetupPath → Option SetupError
  | openFails e => some ⟨.openDevice, .camera e⟩
  | selectFails _ e => some ⟨.selectExposureMode, .camera e⟩
  | configureFails _ _ e => some ⟨.setupAcquisition, .camera e⟩
  | allocateFails _ _ _ e => some ⟨.allocateBuffer, .allocation e⟩
  | registerFails _ _ _ _ e => some ⟨.registerCallback, .camera e⟩
  | startFails _ _ _ _ e => some ⟨.startAcquisition, .camera e⟩
  | succeeds .. => none

/-- Where the run stands when setup is left. -/
def standing (settings : RunSettings) (logsOpening : Bool) : SetupPath → Standing
  | openFails e => Standing.fresh.did (callSteps (.openCamera settings.camera) (some e))
  | selectFails camera e =>
    (Standing.afterOpen settings logsOpening camera).did
      (callSteps (.selectMode camera settings.exposureMode) (some e))
  | configureFails camera mode e =>
    (Standing.afterSelect settings logsOpening camera).did
      (callSteps (Standing.configureCall settings camera mode) (some e))
  | allocateFails camera mode frameBytes _ =>
    Standing.afterConfigure settings logsOpening camera mode frameBytes
  | registerFails camera mode frameBytes buffer e =>
    (Standing.afterAllocate settings logsOpening camera mode frameBytes buffer).did
      (callSteps (.register camera) (some e))
  | startFails camera mode frameBytes buffer e =>
    (Standing.afterRegister settings logsOpening camera mode frameBytes buffer).did
      (callSteps (.start camera buffer.size) (some e))
  | succeeds camera mode frameBytes buffer =>
    Standing.afterStart settings logsOpening camera mode frameBytes buffer

/-- What allocating the buffer came to, on the paths that get so far. -/
def Allocates (settings : RunSettings) : SetupPath → Prop
  | allocateFails _ _ frameBytes e =>
    ∃ base, FrameBuffer.allocate (fun _ => base) frameBytes settings.bufferFrames
      settings.bufferLimit = .error e
  | registerFails _ _ frameBytes buffer _ | startFails _ _ frameBytes buffer _
  | succeeds _ _ frameBytes buffer =>
    ∃ base, FrameBuffer.allocate (fun _ => base) frameBytes settings.bufferFrames
      settings.bufferLimit = .ok buffer
  | _ => True

end SetupPath

/-! ## The steps of setup -/

namespace Setup

variable {σ α β : Type}

/-- Whatever `x` answers from `s`, `Q` holds of the answer and of the state after it. -/
def Answers (x : Step σ α) (s : RunState σ) (Q : α → RunState σ → Prop) : Prop :=
  ∀ a, (x s).1 = .ok a → Q a (x s).2

/-- From `s`, `x` is made of moves of the run, and fails as `E` says or answers as `Q` says. -/
structure Leads (rig : Rig σ) (x : Step σ α) (s : RunState σ)
    (E : SetupError → RunState σ → Prop) (Q : α → RunState σ → Prop) : Prop where
  moves : Moves rig s (x s).2
  fails : ∀ e, (x s).1 = .error e → E e (x s).2
  answers : Answers x s Q

section Leads

variable {rig : Rig σ} {s : RunState σ} {E : SetupError → RunState σ → Prop}

/-- The second step is made from where the first one answers. -/
theorem bind_of_ok {x : Step σ α} {f : α → Step σ β} {a : α} (h : (x s).1 = .ok a) :
    (x >>= f) s = f a (x s).2 := by
  have hrun : (x >>= f) s = ExceptT.bindCont f (x s).1 (x s).2 := rfl
  rw [hrun, h]
  rfl

theorem bind_of_error {x : Step σ α} {f : α → Step σ β} {e : SetupError}
    (h : (x s).1 = .error e) : (x >>= f) s = (.error e, (x s).2) := by
  have hrun : (x >>= f) s = ExceptT.bindCont f (x s).1 (x s).2 := rfl
  rw [hrun, h]
  rfl

theorem Answers.bind {x : Step σ α} {f : α → Step σ β} {Q : α → RunState σ → Prop}
    {R : β → RunState σ → Prop} (hx : Answers x s Q)
    (hf : ∀ a s', Q a s' → Answers (f a) s' R) : Answers (x >>= f) s R := by
  intro b hb
  cases h : (x s).1 with
  | error e => rw [bind_of_error h] at hb; cases hb
  | ok a =>
    rw [bind_of_ok h] at hb ⊢
    exact hf a _ (hx a h) b hb

/-- What the first step leaves behind, and the second one where there is one, is left by both. -/
theorem Answers.ends {x : Step σ α} {f : α → Step σ β} {Q : α → RunState σ → Prop}
    {I : RunState σ → Prop} (hanswers : Answers x s Q) (hx : I (x s).2)
    (hf : ∀ a s', Q a s' → I (f a s').2) : I ((x >>= f) s).2 := by
  cases h : (x s).1 with
  | error e => rw [bind_of_error h]; exact hx
  | ok a => rw [bind_of_ok h]; exact hf a _ (hanswers a h)

theorem ends_bind {x : Step σ α} {f : α → Step σ β} {I : RunState σ → Prop} (hx : I (x s).2)
    (hf : ∀ a s', I s' → I (f a s').2) : I ((x >>= f) s).2 :=
  Answers.ends (Q := fun _ => I) (fun _ _ => hx) hx hf

theorem Leads.bind {x : Step σ α} {f : α → Step σ β} {Q : α → RunState σ → Prop}
    {R : β → RunState σ → Prop} (hx : Leads rig x s E Q)
    (hf : ∀ a s', Q a s' → Leads rig (f a) s' E R) : Leads rig (x >>= f) s E R where
  moves := by
    cases h : (x s).1 with
    | error e => rw [bind_of_error h]; exact hx.moves
    | ok a => rw [bind_of_ok h]; exact hx.moves.trans (hf a _ (hx.answers a h)).moves
  fails e he := by
    cases h : (x s).1 with
    | error e' =>
      rw [bind_of_error h] at he ⊢
      cases he
      exact hx.fails e h
    | ok a =>
      rw [bind_of_ok h] at he ⊢
      exact (hf a _ (hx.answers a h)).fails e he
  answers := hx.answers.bind fun a s' ha => (hf a s' ha).answers

theorem answers_pure {a : α} {Q : α → RunState σ → Prop} (h : Q a s) :
    Answers (pure a : Step σ α) s Q := fun _ ha => by cases ha; exact h

theorem answers_sure {action : Act σ α} {Q : α → RunState σ → Prop}
    (h : Q (action s).1 (action s).2) : Answers (sure action) s Q := fun _ ha => by
  cases ha; exact h

theorem leads_pure {a : α} {Q : α → RunState σ → Prop} (h : Q a s) :
    Leads rig (pure a : Step σ α) s E Q where
  moves := .refl
  fails _ he := by cases he
  answers := answers_pure h

theorem leads_throw {e : SetupError} {Q : α → RunState σ → Prop} (h : E e s) :
    Leads rig (throw e : Step σ α) s E Q where
  moves := .refl
  fails _ he := by cases he; exact h
  answers _ ha := by cases ha

theorem leads_sure {action : Act σ α} {Q : α → RunState σ → Prop}
    (hmoves : Moves rig s (action s).2) (h : Q (action s).1 (action s).2) :
    Leads rig (sure action) s E Q where
  moves := hmoves
  fails _ he := by cases he
  answers := answers_sure h

section Call

variable {stage : SetupStage} {c : CameraCall} {effect : StateM σ (Except CameraError α)}

/-- A call answers as the camera does, with an error put down to the stage. -/
theorem call_eq : call rig stage c effect s =
    ((Act.call rig c effect s).1.mapError fun e => ⟨stage, .camera e⟩,
      (Act.call rig c effect s).2) := by
  simp only [call, ExceptT.mk, bind, StateT.bind]
  rcases Act.call rig c effect s with ⟨e | a, after⟩ <;> rfl

theorem call_of_error {e : CameraError} (h : (Act.call rig c effect s).1 = .error e) :
    call rig stage c effect s = (.error ⟨stage, .camera e⟩, (Act.call rig c effect s).2) := by
  rw [call_eq, h]
  rfl

theorem call_of_ok {a : α} (h : (Act.call rig c effect s).1 = .ok a) :
    call rig stage c effect s = (.ok a, (Act.call rig c effect s).2) := by
  rw [call_eq, h]
  rfl

/-- Setup goes on from where the call has led, whichever way it was answered. -/
theorem call_state : (call rig stage c effect s).2 = (Act.call rig c effect s).2 := by
  rw [call_eq]

theorem answers_call {Q : α → RunState σ → Prop}
    (h : ∀ a, (Act.call rig c effect s).1 = .ok a → Q a (Act.call rig c effect s).2) :
    Answers (call rig stage c effect) s Q := by
  intro a ha
  cases hcall : (Act.call rig c effect s).1 with
  | error e => rw [call_of_error hcall] at ha; cases ha
  | ok a' =>
    rw [call_of_ok hcall] at ha ⊢
    cases ha
    exact h a hcall

theorem leads_call {Q : α → RunState σ → Prop} (hc : (RunStep.noted (.call c)).isOwn = true)
    (hE : ∀ e s', s'.standing = s.standing.did (callSteps c (some e)) →
      E ⟨stage, .camera e⟩ s')
    (hQ : ∀ a s', s'.standing = s.standing.did (callSteps c none) → Q a s') :
    Leads rig (call rig stage c effect) s E Q := by
  have hst := Act.standing_call rig s c effect hc
  have hmoves := Act.call_moves rig s c effect hc
  refine ⟨?_, fun e he => ?_, answers_call fun a ha => hQ a _ (by rw [hst, ha]; rfl)⟩
  · rw [call_state]
    exact hmoves
  · cases h : (Act.call rig c effect s).1 with
    | error e' =>
      rw [call_of_error h] at he ⊢
      cases he
      exact hE e' _ (by rw [hst, h]; rfl)
    | ok a => rw [call_of_ok h] at he; cases he

end Call

end Leads

/-! ## Setup by its paths -/

variable (rig : Rig σ) (settings : RunSettings) {s : RunState σ}

/-- Setup has failed with `e` on one of its paths. -/
def FailsOnPath (e : SetupError) (s : RunState σ) : Prop :=
  ∃ path : SetupPath, path.error? = some e ∧ path.Allocates settings ∧
    s.standing = path.standing settings rig.logsOpening

theorem openCamera_leads (hs : s.standing = .fresh) :
    Leads rig (openCamera rig settings) s (FailsOnPath rig settings)
      fun camera s' => s'.standing = .afterOpen settings rig.logsOpening camera := by
  refine Leads.bind (Q := fun _ s' =>
    s'.standing = Standing.fresh.did (callSteps (.openCamera settings.camera) none))
    (leads_call rfl (fun e s' h => ⟨.openFails e, rfl, trivial, by rw [h, hs]; rfl⟩)
      fun _ s' h => by rw [h, hs]) fun camera s' h => ?_
  refine Leads.bind (Q := fun _ s' => s'.standing = .afterOpen settings rig.logsOpening camera)
    ?_ fun _ s' h => leads_pure h
  unfold Standing.afterOpen
  by_cases hlog : rig.logsOpening = true
  · rw [if_pos hlog, if_pos hlog, ← Standing.did_did, ← h, ← s'.standing_log]
    exact leads_sure ((Act.log_moves rig s' _).tail (.hold _ (some camera))) rfl
  · rw [if_neg hlog, if_neg hlog, List.append_nil, ← h]
    exact leads_sure (.single (.hold s' (some camera))) rfl

theorem configure_leads {camera : Handle}
    (hs : s.standing = .afterOpen settings rig.logsOpening camera) :
    Leads rig (configure rig settings camera) s (FailsOnPath rig settings) fun frameBytes s' =>
      ∃ mode, s'.standing =
        .afterConfigure settings rig.logsOpening camera mode frameBytes := by
  refine Leads.bind (Q := fun _ s' =>
    s'.standing = .afterSelect settings rig.logsOpening camera)
    (leads_call rfl (fun e s' h => ⟨.selectFails camera e, rfl, trivial, by rw [h, hs]; rfl⟩)
      fun _ s' h => by rw [h, hs]; rfl) fun mode s' h => ?_
  refine Leads.bind (Q := fun _ s'' => s''.standing = s'.standing.did
    (callSteps (Standing.configureCall settings camera mode) none))
    (leads_call rfl
      (fun e s' h' => ⟨.configureFails camera mode e, rfl, trivial, by rw [h', h]; rfl⟩)
      fun _ s' h => h) fun frameBytes s'' h' => ?_
  refine Leads.bind (Q := fun _ s' =>
    s'.standing = .afterConfigure settings rig.logsOpening camera mode frameBytes)
    (leads_sure ((Act.log_moves rig s'' _).trans (Act.enter_moves rig _ _)) ?_)
    fun _ s' h => leads_pure ⟨mode, h⟩
  rw [Act.run_bind, Act.standing_enter, Act.standing_log, h', h]
  have hphase : (Act.log (.configured mode frameBytes) s'').2.phase = .idle := by
    show s''.standing.phase = .idle
    rw [h', h]
    rfl
  rw [hphase, Standing.did_did, Standing.did_did]
  rfl

theorem reserve_standing (frameBytes : Nat) :
    (reserve rig settings frameBytes s).2.standing = s.standing := by
  unfold reserve
  cases FrameBuffer.checkSize frameBytes settings.bufferFrames settings.bufferLimit <;> rfl

theorem reserve_moves (frameBytes : Nat) :
    Moves rig s (reserve rig settings frameBytes s).2 := by
  unfold reserve
  cases FrameBuffer.checkSize frameBytes settings.bufferFrames settings.bufferLimit with
  | error e => exact .refl
  | ok total => exact Act.ask_moves rig s _

theorem allocate_leads {camera : Handle} {mode : NegotiatedMode} {frameBytes : Nat}
    (hs : s.standing = .afterConfigure settings rig.logsOpening camera mode frameBytes) :
    Leads rig (allocate rig settings camera frameBytes) s (FailsOnPath rig settings)
      fun buffer s' =>
        (∃ base, FrameBuffer.allocate (fun _ => base) frameBytes settings.bufferFrames
          settings.bufferLimit = .ok buffer) ∧
        s'.standing =
          .afterAllocate settings rig.logsOpening camera mode frameBytes buffer := by
  refine Leads.bind (Q := fun _ s' => s'.standing = s.standing)
    (leads_sure (reserve_moves rig settings frameBytes) (reserve_standing rig settings frameBytes))
    fun base s₁ h₁ => ?_
  cases hbuffer : FrameBuffer.allocate (fun _ => base) frameBytes settings.bufferFrames
      settings.bufferLimit with
  | error e =>
    exact leads_throw
      ⟨.allocateFails camera mode frameBytes e, rfl, ⟨base, hbuffer⟩, h₁.trans hs⟩
  | ok buffer =>
    have hreg : s₁.registered = false := congrArg Standing.registered (h₁.trans hs)
    have habsent : s₁.context = .absent :=
      Custody.map_eq_absent.mp (congrArg Standing.context (h₁.trans hs))
    have hdue : s₁.tornDown = false := congrArg Standing.tornDown (h₁.trans hs)
    refine Leads.bind (Q := fun _ s' =>
      s'.standing = .afterAllocate settings rig.logsOpening camera mode frameBytes buffer)
      (leads_sure
        ((Act.log_moves rig s₁ _).tail (.allocate _ camera buffer hreg habsent hdue)) ?_)
      fun _ s' h => leads_pure ⟨⟨base, hbuffer⟩, h⟩
    unfold Standing.afterAllocate
    rw [← hs, ← h₁, ← s₁.standing_log]
    rfl

theorem register_leads {camera : Handle} {mode : NegotiatedMode} {frameBytes : Nat}
    {buffer : FrameBuffer}
    (hbuffer : (SetupPath.succeeds camera mode frameBytes buffer).Allocates settings)
    (hs : s.standing =
      .afterAllocate settings rig.logsOpening camera mode frameBytes buffer) :
    Leads rig (register rig camera) s (FailsOnPath rig settings) fun _ s' =>
      s'.standing =
        .afterRegister settings rig.logsOpening camera mode frameBytes buffer := by
  refine Leads.bind (Q := fun _ s' =>
    s'.standing = s.standing.did (callSteps (.register camera) none))
    (leads_call rfl (fun e s' h =>
      ⟨.registerFails camera mode frameBytes buffer e, rfl, hbuffer, by rw [h, hs]; rfl⟩)
      fun _ s' h => h) fun _ s' h => ?_
  have hlive : s'.standing.context.live? = some (.ofBuffer camera buffer) := by rw [h, hs]; rfl
  refine leads_sure (.single (.register s' fun hdead => ?_)) ?_
  · change (s'.context.map Handler.pristine).live? = _ at hlive
    rw [Custody.live?_map, hdead] at hlive
    cases hlive
  · unfold Standing.afterRegister
    rw [← hs, ← h]
    rfl

theorem start_leads {camera : Handle} {mode : NegotiatedMode} {frameBytes : Nat}
    {buffer : FrameBuffer}
    (hbuffer : (SetupPath.succeeds camera mode frameBytes buffer).Allocates settings)
    (hs : s.standing =
      .afterRegister settings rig.logsOpening camera mode frameBytes buffer) :
    Leads rig (start rig settings camera buffer) s (FailsOnPath rig settings) fun _ s' =>
      s'.standing = .afterStart settings rig.logsOpening camera mode frameBytes buffer := by
  refine Leads.bind (Q := fun now s' => now = s ∧ s' = s) (leads_sure .refl ⟨rfl, rfl⟩)
    fun now s₁ h₁ => ?_
  obtain ⟨-, rfl⟩ := h₁
  refine Leads.bind (Q := fun _ s' =>
    s'.standing = s₁.standing.did (callSteps (.start camera buffer.size) none))
    (leads_call rfl (fun e s' h =>
      ⟨.startFails camera mode frameBytes buffer e, rfl, hbuffer, by rw [h, hs]; rfl⟩)
      fun _ s' h => h) fun _ s' h => ?_
  refine Leads.bind (Q := fun _ s' =>
    s'.standing = .afterStart settings rig.logsOpening camera mode frameBytes buffer)
    (leads_sure (Act.log_moves rig s' _) ?_) fun _ s' h => leads_pure h
  rw [Act.standing_log, h, hs, Standing.did_did]
  rfl

/-- Setup leaves a fresh run by one of its paths. -/
theorem steps_leads (hs : s.standing = .fresh) :
    Leads rig (steps rig settings) s (FailsOnPath rig settings) fun _ s' =>
      ∃ path : SetupPath, path.error? = none ∧ path.Allocates settings ∧
        s'.standing = path.standing settings rig.logsOpening := by
  refine (openCamera_leads rig settings hs).bind fun camera s₁ h₁ => ?_
  refine (configure_leads rig settings h₁).bind fun frameBytes s₂ ⟨mode, h₂⟩ => ?_
  refine (allocate_leads rig settings h₂).bind fun buffer s₃ ⟨hbuffer, h₃⟩ => ?_
  refine (register_leads rig settings hbuffer h₃).bind fun _ s₄ h₄ => ?_
  have hstart := start_leads rig settings hbuffer h₄
  exact ⟨hstart.moves, hstart.fails, fun began h =>
    ⟨.succeeds camera mode frameBytes buffer, rfl, hbuffer, hstart.answers began h⟩⟩

/-- What setup returns and where the run stands then follow from the path that it took. -/
theorem steps_path (hs : s.standing = .fresh) :
    ∃ path : SetupPath, Act.failure? (steps rig settings s).1 = path.error? ∧
      path.Allocates settings ∧
      (steps rig settings s).2.standing = path.standing settings rig.logsOpening := by
  have h := steps_leads rig settings hs
  cases hrun : (steps rig settings s).1 with
  | error e =>
    obtain ⟨path, herror, hbuffer, hst⟩ := h.fails e hrun
    exact ⟨path, herror.symm, hbuffer, hst⟩
  | ok began =>
    obtain ⟨path, herror, hbuffer, hst⟩ := h.answers began hrun
    exact ⟨path, herror.symm, hbuffer, hst⟩

/-! ## What allocating comes to -/

section Allocate

variable (rig : Rig σ) (settings : RunSettings) (camera : Handle) {frameBytes total : ℕ}
  (s : RunState σ)

/-- Without memory being asked for, there is no buffer. -/
theorem allocate_of_error {e : AllocationError}
    (hsize : FrameBuffer.checkSize frameBytes settings.bufferFrames settings.bufferLimit =
      .error e) :
    allocate rig settings camera frameBytes s =
      (.error ⟨.allocateBuffer, .allocation e⟩, s) := by
  have hreserve : reserve rig settings frameBytes = pure none := by
    unfold reserve
    rw [hsize]
  have hallocate : FrameBuffer.allocate (fun _ => none) frameBytes settings.bufferFrames
      settings.bufferLimit = .error e := by
    unfold FrameBuffer.allocate
    rw [hsize]
    rfl
  unfold allocate
  rw [hreserve, bind_of_ok (a := none) rfl, hallocate]
  rfl

/-- The buffer comes to lie in the memory that is granted. -/
theorem allocate_of_ok
    (hsize : FrameBuffer.checkSize frameBytes settings.bufferFrames settings.bufferLimit =
      .ok total) :
    allocate rig settings camera frameBytes s =
      match (rig.reserve total s.rig).1 with
      | none => (.error ⟨.allocateBuffer, .allocation (.outOfMemory total)⟩,
        { s with rig := (rig.reserve total s.rig).2 })
      | some base =>
        let b : FrameBuffer := ⟨base, frameBytes, settings.bufferFrames⟩
        (.ok b, { s.log (.bufferAllocated b) with
          rig := (rig.reserve total s.rig).2
          buffer := .held b
          context := .held (.ofBuffer camera b) }) := by
  have hreserve : reserve rig settings frameBytes = Act.ask (rig.reserve total) := by
    unfold reserve
    rw [hsize]
  unfold allocate
  rw [hreserve, bind_of_ok (a := (rig.reserve total s.rig).1) rfl]
  cases hbase : (rig.reserve total s.rig).1 with
  | none =>
    have hallocate : FrameBuffer.allocate (fun _ => none) frameBytes settings.bufferFrames
        settings.bufferLimit = .error (.outOfMemory total) := by
      unfold FrameBuffer.allocate
      rw [hsize]
      rfl
    rw [hallocate]
    rfl
  | some base =>
    have hallocate : FrameBuffer.allocate (fun _ => some base) frameBytes settings.bufferFrames
        settings.bufferLimit = .ok ⟨base, frameBytes, settings.bufferFrames⟩ := by
      unfold FrameBuffer.allocate
      rw [hsize]
      rfl
    rw [hallocate]
    rfl

end Allocate

end Setup

end FrameWatch
