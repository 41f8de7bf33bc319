import FrameWatch.Proofs.Run.SideBySide

/-!
# Runs that keep more

A rig may keep more in its states than another one and give the same answers. What it keeps more is
left out by a `view` of its states. Seen through that, a run on the one rig is the run on the other
one, step by step (`Rig.Shows.run`): whatever is known of the one is known of the other.
-/

namespace FrameWatch

open Relation (ReflTransGen)

variable {σ τ α β : Type}

/-- Seen through `view`, `x` is `y`. -/
def Shows (view : τ → σ) (x : StateM τ α) (y : StateM σ α) : Prop :=
  ∀ s, y (view s) = ((x s).1, view (x s).2)

/-- The state of a run with a view of its rig. -/
def RunState.seen (view : τ → σ) (s : RunState τ) : RunState σ :=
  ⟨view s.rig, s.mailbox, s.phase, s.camera, s.context, s.buffer, s.registered, s.tornDown, s.past⟩

/-- Every answer of `rig'` is that of `rig`, seen through `view`. -/
structure Rig.Shows (view : τ → σ) (rig' : Rig τ) (rig : Rig σ) : Prop where
  logsOpening : rig.logsOpening = rig'.logsOpening
  clock : ∀ x, rig.clock (view x) = rig'.clock x
  date : ∀ x, rig.date (view x) = rig'.date x
  openCamera : ∀ name, FrameWatch.Shows view (rig'.openCamera name) (rig.openCamera name)
  selectMode : ∀ camera mode,
    FrameWatch.Shows view (rig'.selectMode camera mode) (rig.selectMode camera mode)
  configure : ∀ camera region mode ms policy,
    FrameWatch.Shows view (rig'.configure camera region mode ms policy)
      (rig.configure camera region mode ms policy)
  register : ∀ camera, FrameWatch.Shows view (rig'.register camera) (rig.register camera)
  start : ∀ camera buffer,
    FrameWatch.Shows view (rig'.start camera buffer) (rig.start camera buffer)
  abort : ∀ camera, FrameWatch.Shows view (rig'.abort camera) (rig.abort camera)
  deregister : ∀ camera, FrameWatch.Shows view (rig'.deregister camera) (rig.deregister camera)
  close : ∀ camera, FrameWatch.Shows view (rig'.close camera) (rig.close camera)
  fetch : ∀ camera, FrameWatch.Shows view (rig'.fetch camera) (rig.fetch camera)
  lastError : FrameWatch.Shows view rig'.lastError rig.lastError
  reserve : ∀ bytes, FrameWatch.Shows view (rig'.reserve bytes) (rig.reserve bytes)
  arrivals : ∀ m, FrameWatch.Shows view (rig'.arrivals m) (rig.arrivals m)
  tick : FrameWatch.Shows view rig'.tick rig.tick

/-! ## What actions are made of -/

namespace Shows

variable {view : τ → σ}

theorem pure (a : α) : Shows view (Pure.pure a) (Pure.pure a) := fun _ => rfl

theorem bind {x : StateM τ α} {y : StateM σ α} {f : α → StateM τ β} {g : α → StateM σ β}
    (hx : Shows view x y) (hf : ∀ a, Shows view (f a) (g a)) : Shows view (x >>= f) (y >>= g) := by
  intro s
  show g (y (view s)).1 (y (view s)).2 = _
  rw [hx s]
  exact hf _ _

theorem ite {c : Prop} [Decidable c] {x x' : StateM τ α} {y y' : StateM σ α}
    (hx : Shows view x y) (hx' : Shows view x' y') :
    Shows view (if c then x else x') (if c then y else y') := by
  split
  · exact hx
  · exact hx'

theorem ask {x : StateM τ α} {y : StateM σ α} (h : Shows view x y) :
    Shows (RunState.seen view) (Act.ask x) (Act.ask y) := by
  intro s
  show ((y (view s.rig)).1, { s.seen view with rig := (y (view s.rig)).2 }) = _
  rw [h s.rig]
  rfl

theorem log (e : RunEvent) : Shows (RunState.seen view) (Act.log e) (Act.log e) := fun _ => rfl

theorem enter (p : Phase) : Shows (RunState.seen view) (Act.enter p) (Act.enter p) := fun _ => rfl

theorem update {f : RunState τ → RunState τ} {g : RunState σ → RunState σ}
    (h : ∀ s, g (s.seen view) = (f s).seen view) :
    Shows (RunState.seen view) (modify f : Act τ Unit) (modify g : Act σ Unit) := fun s => by
  show ((), g (s.seen view)) = ((), (f s).seen view)
  rw [h]

end Shows

/-! Steps of setup are actions that answer with an error or a value. -/

theorem Shows.bindStep {view : τ → σ} {x : Setup.Step τ α} {y : Setup.Step σ α}
    {f : α → Setup.Step τ β} {g : α → Setup.Step σ β}
    (hx : Shows (RunState.seen view) x.run y.run)
    (hf : ∀ a, Shows (RunState.seen view) (f a).run (g a).run) :
    Shows (RunState.seen view) (x >>= f).run (y >>= g).run := by
  refine Shows.bind (f := ExceptT.bindCont f) (g := ExceptT.bindCont g) hx fun answer => ?_
  cases answer with
  | ok a => exact hf a
  | error e => exact .pure _

/-- What is known of the answers of the one step is known of the other one. -/
theorem Shows.answers {view : τ → σ} {x : Setup.Step τ α} {y : Setup.Step σ α}
    (hxy : Shows (RunState.seen view) x.run y.run) {s : RunState τ} {Q : α → RunState σ → Prop}
    (hy : Setup.Answers y (s.seen view) Q) :
    Setup.Answers x s fun a s' => Q a (s'.seen view) := by
  intro a ha
  have hrun : y (s.seen view) = ((x s).1, (x s).2.seen view) := hxy s
  have hanswer := hy a (by rw [hrun]; exact ha)
  rw [hrun] at hanswer
  exact hanswer

theorem Shows.sure {view : τ → σ} {x : Act τ α} {y : Act σ α}
    (hx : Shows (RunState.seen view) x y) :
    Shows (RunState.seen view) (Setup.sure x).run (Setup.sure y).run :=
  Shows.bind (f := fun a => Pure.pure (Except.ok a)) (g := fun a => Pure.pure (Except.ok a)) hx
    fun a => .pure (Except.ok a)

namespace Rig.Shows

variable {view : τ → σ} {rig' : Rig τ} {rig : Rig σ} (h : rig'.Shows view rig)

include h

/-! ## Notifications and calls -/

theorem fetchFor (handler : Handler) (n : Notification) :
    FrameWatch.Shows (RunState.seen view) (Act.fetchFor rig' handler n)
      (Act.fetchFor rig handler n) :=
  .bind (.bind (.update fun _ => rfl) fun _ => .ask (h.fetch _)) fun _ =>
    .bind (.update fun _ => rfl) fun _ => .pure _

theorem receive (n : Notification) :
    FrameWatch.Shows (RunState.seen view) (Act.receive rig' n) (Act.receive rig n) := by
  intro s
  have hfetch := h.fetchFor (n := n)
  obtain ⟨rig, mailbox, phase, camera, context, buffer, registered, tornDown, past⟩ := s
  obtain ⟨info, hasContext⟩ := n
  unfold Act.receive RunState.seen
  dsimp only
  cases registered with
  | false => rfl
  | true =>
    rw [if_pos rfl, if_pos rfl]
    cases context.live? with
    | none => rfl
    | some handler =>
      cases info with
      | none => rfl
      | some info =>
        cases hasContext with
        | false => rfl
        | true =>
          have hfetched := hfetch handler
            ⟨rig, mailbox, phase, camera, context, buffer, true, tornDown, past⟩
          unfold RunState.seen at hfetched
          unfold Receiver.receive
          dsimp only at hfetched ⊢
          rw [hfetched]
          rfl

theorem deliverTick :
    FrameWatch.Shows (RunState.seen view) (Act.deliverTick rig') (Act.deliverTick rig) := by
  refine .bind (.ask h.tick) fun announced => ?_
  cases announced with
  | none => exact .pure ()
  | some n => exact h.receive n

theorem deliverTicks (n : ℕ) :
    FrameWatch.Shows (RunState.seen view) (Act.deliverTicks rig' n) (Act.deliverTicks rig n) := by
  induction n with
  | zero => exact .pure ()
  | succ n ih => exact h.deliverTick.bind fun _ => ih

theorem deliver (m : Moment) :
    FrameWatch.Shows (RunState.seen view) (Act.deliver rig' m) (Act.deliver rig m) :=
  .bind (.ask (h.arrivals m)) fun n => h.deliverTicks n

theorem call (c : CameraCall) {x : StateM τ (Except CameraError α)}
    {y : StateM σ (Except CameraError α)} (hx : FrameWatch.Shows view x y) :
    FrameWatch.Shows (RunState.seen view) (Act.call rig' c x) (Act.call rig c y) :=
  .bind (.update fun _ => rfl) fun _ => .bind (h.deliver _) fun _ => .bind hx.ask fun _ =>
    .bind (h.deliver _) fun _ => .bind (.update fun _ => rfl) fun _ => .pure _

/-! ## Setup -/

theorem setupCall (stage : SetupStage) (c : CameraCall) {x : StateM τ (Except CameraError α)}
    {y : StateM σ (Except CameraError α)} (hx : FrameWatch.Shows view x y) :
    FrameWatch.Shows (RunState.seen view) (Setup.call rig' stage c x).run
      (Setup.call rig stage c y).run := by
  refine .bind (h.call c hx) fun answer => ?_
  cases answer <;> exact .pure _

theorem openCamera_step (settings : RunSettings) :
    FrameWatch.Shows (RunState.seen view) (Setup.openCamera rig' settings).run
      (Setup.openCamera rig settings).run := by
  refine .bindStep (h.setupCall _ _ (h.openCamera _)) fun camera => ?_
  refine .bindStep (.sure ?_) fun _ => .pure _
  rw [h.logsOpening]
  cases rig'.logsOpening with
  | true => exact .bind (.log _) fun _ => .update fun _ => rfl
  | false => exact .update fun _ => rfl

theorem configure_step (settings : RunSettings) (camera : Handle) :
    FrameWatch.Shows (RunState.seen view) (Setup.configure rig' settings camera).run
      (Setup.configure rig settings camera).run :=
  .bindStep (h.setupCall _ _ (h.selectMode _ _)) fun _ =>
    .bindStep (h.setupCall _ _ (h.configure _ _ _ _ _)) fun _ =>
      .bindStep (.sure (.bind (.log _) fun _ => .enter _)) fun _ => .pure _

theorem allocate_step (settings : RunSettings) (camera : Handle) (frameBytes : ℕ) :
    FrameWatch.Shows (RunState.seen view) (Setup.allocate rig' settings camera frameBytes).run
      (Setup.allocate rig settings camera frameBytes).run := by
  refine .bindStep (.sure ?_) fun base => ?_
  · unfold Setup.reserve
    cases FrameBuffer.checkSize frameBytes settings.bufferFrames settings.bufferLimit with
    | error e => exact .pure _
    | ok total => exact .ask (h.reserve total)
  · cases FrameBuffer.allocate (fun _ => base) frameBytes settings.bufferFrames
        settings.bufferLimit with
    | error e => exact .pure _
    | ok buffer =>
      exact .bindStep (.sure (.bind (.log _) fun _ => .update fun _ => rfl)) fun _ => .pure _

theorem register_step (camera : Handle) :
    FrameWatch.Shows (RunState.seen view) (Setup.register rig' camera).run
      (Setup.register rig camera).run :=
  .bindStep (h.setupCall _ _ (h.register _)) fun _ => .sure (.update fun _ => rfl)

theorem start_step (settings : RunSettings) (camera : Handle) (buffer : FrameBuffer) :
    FrameWatch.Shows (RunState.seen view) (Setup.start rig' settings camera buffer).run
      (Setup.start rig settings camera buffer).run := by
  intro s
  have hclock : rig.clock (s.seen view).rig = rig'.clock s.rig := h.clock s.rig
  have hstart := h.setupCall .startAcquisition (.start camera buffer.size) (h.start camera buffer)
  show (Setup.startAt rig settings camera buffer (rig.clock (s.seen view).rig)).run _ =
    (((Setup.startAt rig' settings camera buffer (rig'.clock s.rig)).run s).1, _)
  rw [hclock]
  exact Shows.bindStep hstart (fun _ => .bindStep (.sure (.log _)) fun _ => .pure _) s

theorem setup (settings : RunSettings) :
    FrameWatch.Shows (RunState.seen view) (Setup.steps rig' settings).run
      (Setup.steps rig settings).run :=
  .bindStep (h.openCamera_step settings) fun camera =>
    .bindStep (h.configure_step settings camera) fun frameBytes =>
      .bindStep (h.allocate_step settings camera frameBytes) fun buffer =>
        .bindStep (h.register_step camera) fun _ => h.start_step settings camera buffer

/-! ## The watch -/

theorem wait (deadline : Duration) :
    FrameWatch.Shows (RunState.seen view) (Watch.wait rig' deadline) (Watch.wait rig deadline) :=
  .bind (h.deliver _) fun _ _ => rfl

theorem report (e : RunEvent) :
    FrameWatch.Shows (RunState.seen view) (Watch.report rig' e) (Watch.report rig e) :=
  .bind (.log e) fun _ => h.deliver _

theorem reportFrame (settings : RunSettings) (frames : ℕ) (d : FrameDescriptor) :
    FrameWatch.Shows (RunState.seen view) (Watch.reportFrame rig' settings frames d)
      (Watch.reportFrame rig settings frames d) := by
  have hprogress : FrameWatch.Shows (RunState.seen view)
      (if Watch.isDue settings.progressEvery frames then
        Watch.report rig' (.progress frames settings.targetFrames) else Pure.pure ())
      (if Watch.isDue settings.progressEvery frames then
        Watch.report rig (.progress frames settings.targetFrames) else Pure.pure ()) :=
    .ite (h.report _) (.pure ())
  exact .ite (.bind (h.report _) fun _ => hprogress) hprogress

theorem frames (settings : RunSettings) (remaining : ℕ) (last : Duration) (p : Progress) :
    FrameWatch.Shows (RunState.seen view) (Watch.frames rig' settings remaining last p)
      (Watch.frames rig settings remaining last p) := by
  induction remaining generalizing last p with
  | zero => exact .bind (.log _) fun _ => .pure _
  | succ remaining ih =>
    refine .bind (h.wait _) fun taken => ?_
    cases taken with
    | none => exact .bind (.log _) fun _ => .pure _
    | some d =>
      intro s
      have hclock : rig.clock (s.seen view).rig = rig'.clock s.rig := h.clock s.rig
      show Watch.resume rig settings remaining last p d (rig.clock (s.seen view).rig) _ =
        ((Watch.resume rig' settings remaining last p d (rig'.clock s.rig) s).1, _)
      rw [hclock]
      exact Shows.bind (h.reportFrame settings _ d) (fun _ => ih _ _) s

/-! ## Teardown -/

theorem attempt (c : CameraCall) {x : StateM τ (Except CameraError Unit)}
    {y : StateM σ (Except CameraError Unit)} (hx : FrameWatch.Shows view x y)
    (event : CameraError → RunEvent) :
    FrameWatch.Shows (RunState.seen view) (Teardown.attempt rig' c x event)
      (Teardown.attempt rig c y event) := by
  refine .bind (h.call c hx) fun answer => ?_
  cases answer with
  | ok => exact .pure _
  | error e => exact .bind (.log _) fun _ => .pure _

theorem abort_step :
    FrameWatch.Shows (RunState.seen view) (Teardown.abort rig') (Teardown.abort rig) := by
  intro s
  rw [Teardown.run_abort, Teardown.run_abort]
  show Teardown.abortFor rig s.camera _ = _
  cases s.camera with
  | none => rfl
  | some camera => exact h.attempt _ (h.abort camera) _ s

theorem deregister_step :
    FrameWatch.Shows (RunState.seen view) (Teardown.deregister rig') (Teardown.deregister rig) := by
  intro s
  rw [Teardown.run_deregister, Teardown.run_deregister]
  show Teardown.deregisterFor rig (s.camera, s.registered) _ = _
  cases s.camera with
  | none => rfl
  | some camera =>
    cases s.registered with
    | false => rfl
    | true =>
      refine Shows.bind (h.attempt _ (h.deregister camera) _) (fun gone => ?_) s
      cases gone with
      | true => exact .bind (.update fun _ => rfl) fun _ => .pure _
      | false => exact .pure _

theorem close_step :
    FrameWatch.Shows (RunState.seen view) (Teardown.close rig') (Teardown.close rig) := by
  intro s
  rw [Teardown.run_close, Teardown.run_close]
  show Teardown.closeFor rig s.camera _ = _
  cases s.camera with
  | none => rfl
  | some camera =>
    exact Shows.bind (h.attempt _ (h.close camera) _) (fun _ => .update fun _ => rfl) s

omit h in
theorem dropContext (gone : Bool) :
    FrameWatch.Shows (RunState.seen view) (Teardown.dropContext gone)
      (Teardown.dropContext gone) := by
  intro s
  obtain ⟨rig, mailbox, phase, camera, context, buffer, registered, tornDown, past⟩ := s
  cases context <;> cases gone <;> rfl

omit h in
theorem dropBuffer (aborted : Bool) :
    FrameWatch.Shows (RunState.seen view) (Teardown.dropBuffer aborted)
      (Teardown.dropBuffer aborted) := by
  intro s
  obtain ⟨rig, mailbox, phase, camera, context, buffer, registered, tornDown, past⟩ := s
  cases buffer <;> cases aborted <;> rfl

theorem teardown :
    FrameWatch.Shows (RunState.seen view) (Teardown.steps rig') (Teardown.steps rig) := by
  intro s
  rw [Teardown.run_steps, Teardown.run_steps]
  show Teardown.stepsFor rig s.tornDown _ = _
  cases s.tornDown with
  | true => rfl
  | false =>
    refine Shows.bind (Shows.update (f := fun s => { s with tornDown := true })
      (g := fun s => { s with tornDown := true }) fun _ => rfl) (fun _ => ?_) s
    refine .bind h.abort_step fun aborted => .bind h.deregister_step fun gone => ?_
    exact .bind (dropContext gone) fun _ => .bind (dropBuffer aborted) fun _ =>
      .bind h.close_step fun _ => .bind (.log _) fun _ => .pure _

/-! ## Whole runs -/

theorem failSetup (e : SetupError) :
    FrameWatch.Shows (RunState.seen view) (Run.failSetup rig' e) (Run.failSetup rig e) := by
  have hrest (diagnostic : Option CameraError) : FrameWatch.Shows (RunState.seen view)
      (do
        Act.log (.setupFailed e)
        Act.enter .setupFailed
        return Verdict.setupFailed e diagnostic)
      (do
        Act.log (.setupFailed e)
        Act.enter .setupFailed
        return Verdict.setupFailed e diagnostic) :=
    .bind (.log _) fun _ => .bind (.enter _) fun _ => .pure _
  unfold Run.failSetup
  cases e.cause with
  | camera reason =>
    exact .bind (.update fun _ => rfl) fun _ => .bind (.ask h.lastError) fun _ => hrest _
  | allocation reason => exact hrest none

theorem drive (settings : RunSettings) :
    FrameWatch.Shows (RunState.seen view) (Run.drive rig' settings) (Run.drive rig settings) := by
  refine .bind (h.setup settings) fun began => ?_
  cases began with
  | error e => exact .bind (h.failSetup e) fun _ => .pure _
  | ok began =>
    exact .bind (.enter _) fun _ => .bind (h.frames settings _ _ _) fun _ =>
      .bind (.enter _) fun _ => .pure _

omit h in
theorem stop (counters : HandlerCounters) :
    FrameWatch.Shows (RunState.seen view) (Run.stop counters) (Run.stop counters) :=
  .bind (.enter _) fun _ => .ite (.log _) (.pure ())

theorem observe (settings : RunSettings) (number : ℕ) :
    FrameWatch.Shows (RunState.seen view) (Run.observe rig' settings number)
      (Run.observe rig settings number) := by
  intro s
  unfold Run.observe
  simp only [Act.run_bind, Act.run_get, Act.run_pure]
  rw [h.drive settings s]
  dsimp only
  rw [h.teardown]
  dsimp only
  rw [stop]
  dsimp only [RunState.seen]
  rw [h.date, h.clock, h.clock]

/-- **Views.** A run on a rig that keeps more is, apart from what is kept, the run on the other. -/
theorem run (settings : RunSettings) (mailbox : Mailbox) (x : τ) (number : ℕ) :
    Runner.run rig ⟨settings, mailbox, view x⟩ number =
      let (outcome, s, r) := Runner.run rig' ⟨settings, mailbox, x⟩ number
      (outcome, s.seen view, ⟨r.settings, r.mailbox, view r.rig⟩) := by
  have hsteps : FrameWatch.Shows (RunState.seen view) (Run.steps rig' settings number)
      (Run.steps rig settings number) :=
    .bind (h.observe settings number) fun _ => .bind h.teardown fun _ => .pure _
  have hrun := hsteps (.initial x mailbox.reset)
  unfold Runner.run
  dsimp only at hrun ⊢
  rw [show RunState.initial (view x) mailbox.reset =
    (RunState.initial x mailbox.reset).seen view from rfl, hrun]
  rfl

/-- What happens during a watch, seen through the view. -/
theorem watches {s s' : RunState τ} (hs : ReflTransGen (WatchMove rig') s s') :
    ReflTransGen (WatchMove rig) (s.seen view) (s'.seen view) := by
  induction hs with
  | refl => exact .refl
  | @tail s₁ _ _ hmove ih =>
    refine ih.tail ?_
    cases hmove with
    | arrive m =>
      have harrive : WatchMove rig (s₁.seen view)
        { s₁.seen view with rig := (rig.arrivals m (view s₁.rig)).2 } := .arrive _ m
      rw [h.arrivals m s₁.rig] at harrive
      exact harrive
    | tick =>
      have htick : WatchMove rig (s₁.seen view) (Act.deliverTick rig (s₁.seen view)).2 := .tick _
      rw [h.deliverTick s₁] at htick
      exact htick
    | did e hown hwait => exact .did (s₁.seen view) e hown hwait
    | take => exact .take (s₁.seen view)

end Rig.Shows

end FrameWatch
