import FrameWatch.Proofs.Run.InStep
import FrameWatch.Proofs.Run.SetupPath

/-!
# Runs side by side

`Comparison.Holds` is what two rigs have to fulfil for runs on them to go alike: their answers agree
question by question, and what they announce is handled alike. The sections after it carry this from
the questions to the parts of a run, up to `observe_agrees`: the outcomes are the same, apart from
what a clock has measured, and that too where the clocks are compared.
-/

namespace FrameWatch

variable {σ τ α β : Type}

/-! ## What is compared of results -/

/-- The intervals without their lengths. -/
def Intervals.untimed (i : Intervals) : Intervals := { Intervals.empty with count := i.count }

/-- The progress without the times between the frames. -/
def Progress.untimed (p : Progress) : Progress :=
  { p with lastInterval := p.lastInterval.map fun _ => .zero, intervals := p.intervals.untimed }

/-- What the progress of two watches has in common. -/
structure Progress.Agrees (timed : Prop) (p p' : Progress) : Prop where
  untimed : p.untimed = p'.untimed
  timely : Timely timed p p'

namespace Progress.Agrees

variable {timed : Prop} {p p' : Progress}

theorem refl (p : Progress) : p.Agrees timed p := ⟨rfl, fun _ => rfl⟩

theorem frames (h : p.Agrees timed p') : p.frames = p'.frames := by
  have hframes := congrArg Progress.frames h.untimed
  exact hframes

theorem degraded (h : p.Agrees timed p') : p.degraded = p'.degraded := by
  have hdegraded := congrArg Progress.degraded h.untimed
  exact hdegraded

theorem lastFrame (h : p.Agrees timed p') : p.lastFrame = p'.lastFrame := by
  have hlast := congrArg Progress.lastFrame h.untimed
  exact hlast

theorem record (h : p.Agrees timed p') (d : FrameDescriptor) {last last' now now' : Duration}
    (hlast : Timely timed last last') (hnow : Timely timed now now') :
    (p.record d (now.since last)).Agrees timed (p'.record d (now'.since last')) where
  untimed := by
    have hcount := congrArg (Intervals.count ∘ Progress.intervals) h.untimed
    change p.intervals.count = p'.intervals.count at hcount
    unfold Progress.record Progress.untimed Intervals.untimed Intervals.record
    simp [h.frames, h.degraded, hcount]
  timely htimed := by rw [h.timely htimed, hlast htimed, hnow htimed]

end Progress.Agrees

/-- What the results of two watches have in common. -/
def Judged (timed : Prop) (r r' : Verdict × Progress) : Prop :=
  r.1 = r'.1 ∧ r.2.Agrees timed r'.2

instance (timed : Prop) : Std.Refl (Judged timed) where
  refl r := ⟨rfl, .refl r.2⟩

/-- The outcome without what was measured by a clock. -/
def Outcome.untimed (o : Outcome) : Outcome where
  __ := o
  startedAt := ⟨0, 0⟩
  elapsed := .zero
  lastInterval := o.lastInterval.map fun _ => .zero
  intervals := o.intervals.untimed

/-- What the outcomes of two runs have in common. -/
structure Outcome.Agrees (timed : Prop) (o o' : Outcome) : Prop where
  untimed : o.untimed = o'.untimed
  lastInterval : timed → o.lastInterval = o'.lastInterval
  intervals : timed → o.intervals = o'.intervals

/-! ## What runs go by -/

/-- The settings of a run that wants so many frames. -/
def RunSettings.wanting (settings : RunSettings) (target : ℕ) : RunSettings :=
  { settings with targetFrames := target }

/-- Starts the camera at a moment that has been noted. -/
def Setup.startAt (rig : Rig σ) (settings : RunSettings) (camera : Handle) (buffer : FrameBuffer)
    (began : Duration) : Setup.Step σ Duration := do
  call rig .startAcquisition (.start camera buffer.size) (rig.start camera buffer)
  sure (Act.log (.started settings.targetFrames settings.frameDeadline buffer.size))
  return began

/-- The watch from a frame on that has come at a moment that has been noted. -/
def Watch.resume (rig : Rig σ) (settings : RunSettings) (remaining : ℕ) (last : Duration)
    (p : Progress) (d : FrameDescriptor) (now : Duration) : Act σ (Verdict × Progress) := do
  reportFrame rig settings (p.record d (now.since last)).frames d
  frames rig settings remaining now (p.record d (now.since last))

namespace Teardown

variable (rig : Rig σ) (s : RunState σ)

/-- Aborts the camera that is open. -/
def abortFor : Option Handle → Act σ Bool
  | none => pure true
  | some camera => attempt rig (.abort camera) (rig.abort camera) .abortFailed

theorem run_abort : abort rig s = abortFor rig s.camera s := by
  unfold abort
  rw [Act.run_bind, Act.run_get]
  cases s.camera <;> rfl

/-- Deregisters the handler that is registered at the camera that is open. -/
def deregisterFor : Option Handle × Bool → Act σ Bool
  | (some camera, true) => do
    let gone ← attempt rig (.deregister camera) (rig.deregister camera) .deregisterFailed
    if gone then modify fun s => { s with registered := false }
    return gone
  | _ => pure true

theorem run_deregister : deregister rig s = deregisterFor rig (s.camera, s.registered) s := by
  unfold deregister
  rw [Act.run_bind, Act.run_get]
  cases s.camera <;> cases s.registered <;> rfl

/-- Closes the camera that is open. -/
def closeFor : Option Handle → Act σ Unit
  | none => pure ()
  | some camera => do
    let _ ← attempt rig (.close camera) (rig.close camera) .closeFailed
    modify fun s => { s with camera := none }

theorem run_close : close rig s = closeFor rig s.camera s := by
  unfold close
  rw [Act.run_bind, Act.run_get]
  cases s.camera <;> rfl

/-- Gives everything back that has not been given back before. -/
def stepsFor : Bool → Act σ (HandlerCounters × TeardownSummary)
  | true => pure (.zero, .clean)
  | false => do
    modify fun s => { s with tornDown := true }
    giveBack rig

theorem run_steps : steps rig s = stepsFor rig s.tornDown s := by
  unfold steps
  rw [Act.run_bind, Act.run_get]
  cases s.tornDown <;> rfl

@[simp] theorem rig_dropContext (gone : Bool) : (dropContext gone s).2.rig = s.rig := by
  unfold dropContext
  rw [Act.run_bind, Act.run_get]
  cases s.context <;> cases gone <;> rfl

@[simp] theorem rig_dropBuffer (aborted : Bool) : (dropBuffer aborted s).2.rig = s.rig := by
  unfold dropBuffer
  rw [Act.run_bind, Act.run_get]
  cases s.buffer <;> cases aborted <;> rfl

end Teardown

/-! ## What is asked of rigs -/

/-- What two rigs fulfil that grant memory alike. -/
structure Comparison.Reserves (c : Comparison σ τ) (rig : Rig σ) (rig' : Rig τ) : Prop where
  left : ∀ bytes x, c.left (rig.reserve bytes x).2 → c.left x
  right : ∀ bytes y, c.right (rig'.reserve bytes y).2 → c.right y
  step : ∀ bytes p q x y, c.alike p q x y → c.left (rig.reserve bytes x).2 →
    c.right (rig'.reserve bytes y).2 →
    ((rig.reserve bytes x).1 = none ∧ (rig'.reserve bytes y).1 = none ∧
      c.alike p q (rig.reserve bytes x).2 (rig'.reserve bytes y).2) ∨
    ∃ base base', (rig.reserve bytes x).1 = some base ∧ (rig'.reserve bytes y).1 = some base' ∧
      c.place base = c.place base' ∧
      c.alike (some (base, bytes)) (some (base', bytes)) (rig.reserve bytes x).2
        (rig'.reserve bytes y).2

/-- What two rigs fulfil that are compared in this way. -/
structure Comparison.Holds (c : Comparison σ τ) (rig : Rig σ) (rig' : Rig τ) : Prop where
  clock : ∀ {p q x y}, c.alike p q x y → c.left x → c.right y → c.timed →
    rig.clock x = rig'.clock y
  deliver : ∀ m, InStep c Eq (Act.deliver rig m) (Act.deliver rig' m)
  openCamera : ∀ name,
    InStep c Eq (Act.ask (rig.openCamera name)) (Act.ask (rig'.openCamera name))
  selectMode : ∀ camera mode,
    InStep c Eq (Act.ask (rig.selectMode camera mode)) (Act.ask (rig'.selectMode camera mode))
  configure : ∀ camera region mode ms policy,
    InStep c Eq (Act.ask (rig.configure camera region mode ms policy))
      (Act.ask (rig'.configure camera region mode ms policy))
  reserve : c.Reserves rig rig'
  register : ∀ camera, InStep c Eq (Act.ask (rig.register camera)) (Act.ask (rig'.register camera))
  start : ∀ camera b b', b.moved c.place = b'.moved c.place →
    InStep c Eq (Act.ask (rig.start camera b)) (Act.ask (rig'.start camera b'))
  abort : ∀ camera, InStep c Eq (Act.ask (rig.abort camera)) (Act.ask (rig'.abort camera))
  deregister : ∀ camera,
    InStep c Eq (Act.ask (rig.deregister camera)) (Act.ask (rig'.deregister camera))
  close : ∀ camera, InStep c Eq (Act.ask (rig.close camera)) (Act.ask (rig'.close camera))
  lastError : InStep c Eq (Act.ask rig.lastError) (Act.ask rig'.lastError)

namespace Comparison.Holds

variable {c : Comparison σ τ} {rig : Rig σ} {rig' : Rig τ} (h : c.Holds rig rig')

include h

/-! ## Calls -/

theorem call (cc : CameraCall) {effect : StateM σ (Except CameraError α)}
    {effect' : StateM τ (Except CameraError α)}
    (heffect : InStep c Eq (Act.ask effect) (Act.ask effect')) :
    InStep c Eq (Act.call rig cc effect) (Act.call rig' cc effect') :=
  (InStep.note _).andThen fun _ => (h.deliver _).andThen fun _ => heffect.andThen fun _ =>
    (h.deliver _).andThen fun _ => (InStep.note _).andThen fun _ => .pure rfl

/-- Actions that begin with a look at the clock. -/
theorem atClock {R : β → β → Prop} {f : Duration → Act σ β} {g : Duration → Act τ β}
    (hfg : ∀ now now', Timely c.timed now now' → InStep c R (f now) (g now')) :
    InStep c R (fun s => f (rig.clock s.rig) s) fun t => g (rig'.clock t.rig) t :=
  .view (Q := Timely c.timed) (fun s => rig.clock s.rig) (fun t => rig'.clock t.rig) f g
    (fun _ => rfl) (fun _ => rfl) (fun _ _ hm => h.clock hm.alike) hfg

/-! ## Setup -/

theorem setupCall (stage : SetupStage) (cc : CameraCall)
    {effect : StateM σ (Except CameraError α)} {effect' : StateM τ (Except CameraError α)}
    (heffect : InStep c Eq (Act.ask effect) (Act.ask effect')) :
    InStep c (Agreed Eq) (Setup.call rig stage cc effect).run
      (Setup.call rig' stage cc effect').run := by
  refine (h.call cc heffect).andThen fun r => ?_
  cases r with
  | ok a => exact InStep.pure (Q := Agreed Eq) (a := .ok a) (b := .ok a) rfl
  | error e => exact InStep.pure (Q := Agreed Eq) (a := .error _) (b := .error _) rfl

theorem setup_openCamera (settings : RunSettings) :
    InStep c (Agreed Eq) (Setup.openCamera rig settings).run
      (Setup.openCamera rig' settings).run := by
  refine (h.setupCall _ _ (h.openCamera _)).bindStep fun camera _ hcamera => ?_
  subst hcamera
  refine InStep.bindStep (.sure (.of_rig_eq (fun s => ?_) (fun t => ?_) fun s t hm => ⟨rfl, ?_⟩))
    fun _ _ _ => .pureStep rfl
  · split <;> rfl
  · split <;> rfl
  · split <;> split <;> exact { hm with camera := rfl }

theorem setup_configure (settings : RunSettings) (camera : Handle) :
    InStep c (Agreed Eq) (Setup.configure rig settings camera).run
      (Setup.configure rig' settings camera).run := by
  refine (h.setupCall _ _ (h.selectMode _ _)).bindStep fun mode _ hmode => ?_
  subst hmode
  refine (h.setupCall _ _ (h.configure _ _ _ _ _)).bindStep fun frameBytes _ hbytes => ?_
  subst hbytes
  exact InStep.bindStep (.sure ((InStep.log _ _).andThen fun _ => .enter _)) fun _ _ _ =>
    .pureStep rfl

theorem setup_allocate (settings : RunSettings) (camera : Handle) (frameBytes : ℕ) :
    InStep c (Agreed (SameBut c.place)) (Setup.allocate rig settings camera frameBytes).run
      (Setup.allocate rig' settings camera frameBytes).run := by
  cases hsize : FrameBuffer.checkSize frameBytes settings.bufferFrames settings.bufferLimit with
  | error e =>
    have hx : (Setup.allocate rig settings camera frameBytes).run =
        pure (.error ⟨.allocateBuffer, .allocation e⟩) := by
      funext s
      exact Setup.allocate_of_error rig settings camera s hsize
    have hy : (Setup.allocate rig' settings camera frameBytes).run =
        pure (.error ⟨.allocateBuffer, .allocation e⟩) := by
      funext t
      exact Setup.allocate_of_error rig' settings camera t hsize
    rw [hx, hy]
    exact InStep.pure (Q := Agreed _) rfl
  | ok total =>
    have hx : ∀ s, (Setup.allocate rig settings camera frameBytes s).2.rig =
        (rig.reserve total s.rig).2 := by
      intro s
      rw [Setup.allocate_of_ok rig settings camera s hsize]
      cases (rig.reserve total s.rig).1 <;> rfl
    have hy : ∀ t, (Setup.allocate rig' settings camera frameBytes t).2.rig =
        (rig'.reserve total t.rig).2 := by
      intro t
      rw [Setup.allocate_of_ok rig' settings camera t hsize]
      cases (rig'.reserve total t.rig).1 <;> rfl
    refine ⟨fun s hleft => h.reserve.left total s.rig (hx s ▸ hleft),
      fun t hright => h.reserve.right total t.rig (hy t ▸ hright), fun s t hm hleft hright => ?_⟩
    show Agreed _ (Setup.allocate rig settings camera frameBytes s).1
        (Setup.allocate rig' settings camera frameBytes t).1 ∧
      (Setup.allocate rig settings camera frameBytes s).2.Matches c
        (Setup.allocate rig' settings camera frameBytes t).2
    rw [Setup.allocate_of_ok rig settings camera s hsize,
      Setup.allocate_of_ok rig' settings camera t hsize]
    rcases h.reserve.step total _ _ _ _ hm.alike (hx s ▸ hleft) (hy t ▸ hright) with
      ⟨hnone, hnone', halike⟩ | ⟨base, base', hbase, hbase', hplace, halike⟩
    · rw [hnone, hnone']
      exact ⟨rfl, { hm with alike := halike }⟩
    · obtain ⟨rfl, -, -⟩ := FrameBuffer.checkSize_eq_ok hsize
      have hmoved : SameBut c.place ⟨base, frameBytes, settings.bufferFrames⟩
          ⟨base', frameBytes, settings.bufferFrames⟩ := by
        unfold SameBut FrameBuffer.moved
        rw [hplace]
      rw [hbase, hbase']
      refine ⟨hmoved, { hm with
        buffer := congrArg Custody.held hmoved
        context := congrArg Custody.held ?_
        alike := halike }⟩
      show Handler.mk camera (c.place base) _ 0 .zero = Handler.mk camera (c.place base') _ 0 .zero
      rw [hplace]
      rfl

theorem setup_register (camera : Handle) :
    InStep c (Agreed Eq) (Setup.register rig camera).run (Setup.register rig' camera).run :=
  (h.setupCall _ _ (h.register _)).bindStep fun _ _ _ =>
    .sure (.update (fun _ => rfl) (fun _ => rfl) fun _ _ hm => { hm with registered := rfl })

/-- The moment of the start is the same where the clocks are, however many frames are wanted. -/
theorem setup_start (settings : RunSettings) (target : ℕ) (camera : Handle) {b b' : FrameBuffer}
    (hb : b.moved c.place = b'.moved c.place) :
    InStep c (Agreed (Timely c.timed)) (Setup.start rig settings camera b).run
      (Setup.start rig' (settings.wanting target) camera b').run := by
  have hsize : (b.moved c.place).size = (b'.moved c.place).size := by rw [hb]
  change b.size = b'.size at hsize
  have hcall := h.setupCall .startAcquisition (.start camera b.size) (h.start camera b b' hb)
  refine h.atClock (f := fun began => (Setup.startAt rig settings camera b began).run)
    (g := fun began =>
      (Setup.startAt rig' (settings.wanting target) camera b' began).run)
    fun began began' hbegan => ?_
  unfold Setup.startAt
  rw [← hsize]
  exact hcall.bindStep fun _ _ _ => (InStep.sure (.log _ _)).bindStep fun _ _ _ =>
    .pureStep hbegan

/-- Setup goes alike however many frames are wanted. -/
theorem setup_steps (settings : RunSettings) (target : ℕ) :
    InStep c (Agreed (Timely c.timed)) (Setup.steps rig settings).run
      (Setup.steps rig' (settings.wanting target)).run := by
  refine (h.setup_openCamera settings).bindStep fun camera _ hcamera => ?_
  subst hcamera
  refine (h.setup_configure settings camera).bindStep fun frameBytes _ hbytes => ?_
  subst hbytes
  refine InStep.bindStep (h.setup_allocate settings camera frameBytes) fun b b' hb => ?_
  exact (h.setup_register camera).bindStep fun _ _ _ => h.setup_start settings target camera hb

/-! ## The watch -/

theorem wait (deadline : Duration) :
    InStep c Eq (Watch.wait rig deadline) (Watch.wait rig' deadline) := by
  refine (h.deliver _).andThen fun _ => .of_rig_eq (fun _ => rfl) (fun _ => rfl) fun s t hm => ?_
  have htaken : s.mailbox.take = t.mailbox.take := congrArg Mailbox.take hm.mailbox
  exact ⟨congrArg Prod.fst htaken, { hm with mailbox := congrArg Prod.snd htaken }⟩

theorem report (e : RunEvent) : InStep c Eq (Watch.report rig e) (Watch.report rig' e) :=
  (InStep.log _ _).andThen fun _ => h.deliver _

/-- Frames are reported alike if so is the progress, however many frames are wanted. -/
theorem reportFrame_of_progress (settings : RunSettings) (target n : ℕ) (d : FrameDescriptor)
    (hprogress : InStep c Eq (Watch.report rig (.progress n settings.targetFrames))
      (Watch.report rig' (.progress n target))) :
    InStep c Eq (Watch.reportFrame rig settings n d)
      (Watch.reportFrame rig' (settings.wanting target) n d) := by
  have hdue : InStep c Eq
      (if Watch.isDue settings.progressEvery n then
        Watch.report rig (.progress n settings.targetFrames) else pure ())
      (if Watch.isDue settings.progressEvery n then
        Watch.report rig' (.progress n target) else pure ()) := by
    split
    · exact hprogress
    · exact .pure rfl
  unfold Watch.reportFrame
  by_cases hd : d.degraded = true
  · rw [if_pos hd, if_pos hd]
    exact (h.report _).andThen fun _ => hdue
  · rw [if_neg hd, if_neg hd]
    exact hdue

theorem reportFrame (settings : RunSettings) (n : ℕ) (d : FrameDescriptor) :
    InStep c Eq (Watch.reportFrame rig settings n d) (Watch.reportFrame rig' settings n d) :=
  h.reportFrame_of_progress settings settings.targetFrames n d (h.report _)

theorem frames (settings : RunSettings) (remaining : ℕ) {last last' : Duration} {p p' : Progress}
    (hlast : Timely c.timed last last') (hp : p.Agrees c.timed p') :
    InStep c (Judged c.timed) (Watch.frames rig settings remaining last p)
      (Watch.frames rig' settings remaining last' p') := by
  induction remaining generalizing last last' p p' with
  | zero => exact (InStep.log _ _).andThen fun _ => .pure ⟨rfl, hp⟩
  | succ remaining ih =>
    refine (h.wait _).andThen fun taken => ?_
    cases taken with
    | none =>
      have hframes := hp.frames
      refine (InStep.log _ _).andThen fun _ => .pure ⟨?_, hp⟩
      rw [hframes]
    | some d =>
      refine h.atClock (f := Watch.resume rig settings remaining last p d)
        (g := Watch.resume rig' settings remaining last' p' d) fun now now' hnow => ?_
      have hrecorded := hp.record d hlast hnow
      have hframes := hrecorded.frames
      unfold Watch.resume
      rw [← hframes]
      exact (h.reportFrame settings _ d).andThen fun _ => ih hnow hrecorded

/-! ## To the end of the watch -/

theorem failSetup (e : SetupError) :
    InStep c Eq (Run.failSetup rig e) (Run.failSetup rig' e) := by
  unfold Run.failSetup
  cases e.cause with
  | camera error =>
    exact (InStep.note _).andThen fun _ => h.lastError.andThen fun _ =>
      InStep.andThen (.pure rfl) fun _ => (InStep.log _ _).andThen fun _ =>
        (InStep.enter _).andThen fun _ => .pure rfl
  | allocation error =>
    exact InStep.andThen (.pure rfl) fun _ => (InStep.log _ _).andThen fun _ =>
      (InStep.enter _).andThen fun _ => .pure rfl

theorem drive (settings : RunSettings) :
    InStep c (Judged c.timed) (Run.drive rig settings) (Run.drive rig' settings) := by
  refine InStep.bind (h.setup_steps settings settings.targetFrames) fun r r' hr => ?_
  cases r with
  | error e =>
    cases r' with
    | ok b => cases hr
    | error e' =>
      cases hr
      exact (h.failSetup e).andThen fun _ => .pure ⟨rfl, .refl _⟩
  | ok began =>
    cases r' with
    | error e => cases hr
    | ok began' =>
      refine (InStep.enter _).andThen fun _ =>
        InStep.bind (h.frames settings _ hr (.refl _)) fun r r' hr => ?_
      obtain ⟨hverdict, hprogress⟩ := hr
      dsimp only
      rw [← hverdict]
      exact (InStep.enter _).andThen fun _ => .pure ⟨rfl, hprogress⟩

/-! ## Teardown -/

theorem attempt (cc : CameraCall) {effect : StateM σ (Except CameraError Unit)}
    {effect' : StateM τ (Except CameraError Unit)} (event : CameraError → RunEvent)
    (heffect : InStep c Eq (Act.ask effect) (Act.ask effect')) :
    InStep c Eq (Teardown.attempt rig cc effect event)
      (Teardown.attempt rig' cc effect' event) := by
  refine (h.call cc heffect).andThen fun r => ?_
  cases r with
  | ok _ => exact .pure rfl
  | error e => exact (InStep.log _ _).andThen fun _ => .pure rfl

theorem teardown_abort : InStep c Eq (Teardown.abort rig) (Teardown.abort rig') := by
  refine .see (f := Teardown.abortFor rig) (g := Teardown.abortFor rig')
    (Teardown.run_abort rig) (Teardown.run_abort rig') (fun _ _ hm => hm.camera) fun camera? => ?_
  cases camera? with
  | none => exact .pure rfl
  | some camera => exact h.attempt _ _ (h.abort camera)

theorem teardown_deregister :
    InStep c Eq (Teardown.deregister rig) (Teardown.deregister rig') := by
  refine .see (f := Teardown.deregisterFor rig) (g := Teardown.deregisterFor rig')
    (Teardown.run_deregister rig) (Teardown.run_deregister rig')
    (fun _ _ hm => Prod.ext hm.camera hm.registered) fun ⟨camera?, registered⟩ => ?_
  cases camera? with
  | none => exact .pure rfl
  | some camera =>
    cases registered with
    | false => exact .pure rfl
    | true =>
      refine (h.attempt _ _ (h.deregister camera)).andThen fun gone => ?_
      cases gone with
      | false => exact .pure rfl
      | true =>
        exact InStep.andThen (.update (fun _ => rfl) (fun _ => rfl) fun _ _ hm =>
          { hm with registered := rfl }) fun _ => .pure rfl

omit h in
theorem dropContext (gone : Bool) :
    InStep c Eq (Teardown.dropContext (σ := σ) gone) (Teardown.dropContext (σ := τ) gone) := by
  refine .of_rig_eq (Teardown.rig_dropContext · gone) (Teardown.rig_dropContext · gone)
    fun s t hm => ?_
  unfold Teardown.dropContext
  rw [Act.run_bind, Act.run_bind, Act.run_get, Act.run_get]
  dsimp only
  rcases Custody.cases_of_map_eq hm.context with
    ⟨hs, ht⟩ | ⟨handler, handler', hs, ht, hmoved⟩ | ⟨hs, ht⟩ | ⟨_, _, hs, ht, -⟩
  · rw [hs, ht]
    exact ⟨rfl, hm⟩
  · rw [hs, ht]
    have hcounters : (handler.moved c.place).counters = (handler'.moved c.place).counters := by
      rw [hmoved]
    change handler.counters = handler'.counters at hcounters
    have halike := hm.alike
    rw [hs, ht] at halike
    cases gone with
    | true =>
      exact ⟨Prod.ext hcounters rfl, { hm with context := rfl, alike := c.forget halike }⟩
    | false =>
      exact ⟨Prod.ext hcounters rfl,
        { hm with context := congrArg Custody.leaked hmoved, alike := halike }⟩
  · rw [hs, ht]
    exact ⟨rfl, hm⟩
  · rw [hs, ht]
    exact ⟨rfl, hm⟩

omit h in
theorem dropBuffer (aborted : Bool) :
    InStep c Eq (Teardown.dropBuffer (σ := σ) aborted) (Teardown.dropBuffer (σ := τ) aborted) := by
  refine .of_rig_eq (Teardown.rig_dropBuffer · aborted) (Teardown.rig_dropBuffer · aborted)
    fun s t hm => ?_
  unfold Teardown.dropBuffer
  rw [Act.run_bind, Act.run_bind, Act.run_get, Act.run_get]
  dsimp only
  rcases Custody.cases_of_map_eq hm.buffer with
    ⟨hs, ht⟩ | ⟨b, b', hs, ht, hmoved⟩ | ⟨hs, ht⟩ | ⟨_, _, hs, ht, -⟩
  · rw [hs, ht]
    exact ⟨rfl, hm⟩
  · rw [hs, ht]
    cases aborted with
    | true => exact ⟨rfl, { hm with buffer := rfl }⟩
    | false => exact ⟨rfl, { hm with buffer := congrArg Custody.leaked hmoved }⟩
  · rw [hs, ht]
    exact ⟨rfl, hm⟩
  · rw [hs, ht]
    exact ⟨rfl, hm⟩

theorem teardown_close : InStep c Eq (Teardown.close rig) (Teardown.close rig') := by
  refine .see (f := Teardown.closeFor rig) (g := Teardown.closeFor rig')
    (Teardown.run_close rig) (Teardown.run_close rig') (fun _ _ hm => hm.camera) fun camera? => ?_
  cases camera? with
  | none => exact .pure rfl
  | some camera =>
    exact (h.attempt _ _ (h.close camera)).andThen fun _ =>
      .update (fun _ => rfl) (fun _ => rfl) fun _ _ hm => { hm with camera := rfl }

theorem giveBack : InStep c Eq (Teardown.giveBack rig) (Teardown.giveBack rig') :=
  h.teardown_abort.andThen fun _ => h.teardown_deregister.andThen fun gone =>
    (dropContext gone).andThen fun _ => (dropBuffer _).andThen fun _ =>
      h.teardown_close.andThen fun _ => (InStep.log _ _).andThen fun _ => .pure rfl

theorem teardown : InStep c Eq (Teardown.steps rig) (Teardown.steps rig') := by
  refine .see (f := Teardown.stepsFor rig) (g := Teardown.stepsFor rig')
    (Teardown.run_steps rig) (Teardown.run_steps rig') (fun _ _ hm => hm.tornDown)
    fun done => ?_
  cases done with
  | true => exact .pure rfl
  | false =>
    exact InStep.andThen (.update (fun _ => rfl) (fun _ => rfl) fun _ _ hm =>
      { hm with tornDown := rfl }) fun _ => h.giveBack

/-! ## Whole runs -/

omit h in
theorem rig_stop (counters : HandlerCounters) (s : RunState σ) :
    (Run.stop counters s).2.rig = s.rig ∧ (Run.stop counters s).2.mailbox = s.mailbox := by
  unfold Run.stop
  rw [Act.run_bind]
  split <;> exact ⟨rfl, rfl⟩

/-- Runs side by side have the same outcome, as far as it is compared. -/
theorem observe_agrees (settings : RunSettings) (run : ℕ) {s : RunState σ} {t : RunState τ}
    (hm : s.Matches c t) (hleft : c.left (Run.observe rig settings run s).2.rig)
    (hright : c.right (Run.observe rig' settings run t).2.rig) :
    (Run.observe rig settings run s).1.Agrees c.timed (Run.observe rig' settings run t).1 := by
  set s₁ := (Run.drive rig settings s).2 with hs₁
  set t₁ := (Run.drive rig' settings t).2 with ht₁
  set s₂ := (Teardown.steps rig s₁).2 with hs₂
  set t₂ := (Teardown.steps rig' t₁).2 with ht₂
  obtain ⟨hrig, hmailbox⟩ := rig_stop (Teardown.steps rig s₁).1.1 s₂
  obtain ⟨hrig', hmailbox'⟩ := rig_stop (Teardown.steps rig' t₁).1.1 t₂
  have hleft₂ : c.left s₂.rig := hrig ▸ hleft
  have hright₂ : c.right t₂.rig := hrig' ▸ hright
  obtain ⟨⟨hverdict, hprogress⟩, hm₁⟩ := (h.drive settings).step s t hm
    (h.teardown.left s₁ hleft₂) (h.teardown.right t₁ hright₂)
  obtain ⟨hsettled, hm₂⟩ := h.teardown.step s₁ t₁ hm₁ hleft₂ hright₂
  have htally : (Run.stop (Teardown.steps rig s₁).1.1 s₂).2.mailbox.tally =
      (Run.stop (Teardown.steps rig' t₁).1.1 t₂).2.mailbox.tally := by
    rw [hmailbox, hmailbox', hm₂.mailbox]
  have huntimed := hprogress.untimed
  unfold Progress.untimed at huntimed
  rw [Progress.mk.injEq] at huntimed
  obtain ⟨hframes, hdegraded, hlast, hintervals, hframe⟩ := huntimed
  refine ⟨?_, fun htimed => ?_, fun htimed => ?_⟩
  · unfold Outcome.untimed
    rw [Outcome.mk.injEq]
    exact ⟨rfl, rfl, rfl, rfl, hverdict, hframes, hdegraded, rfl, rfl, hlast, hintervals, hframe,
      htally, congrArg (HandlerCounters.handled ∘ Prod.fst) hsettled,
      congrArg (HandlerCounters.gapEvents ∘ Prod.fst) hsettled,
      congrArg (HandlerCounters.lostFrames ∘ Prod.fst) hsettled, congrArg Prod.snd hsettled⟩
  · exact congrArg Progress.lastInterval (hprogress.timely htimed)
  · exact congrArg Progress.intervals (hprogress.timely htimed)

end Comparison.Holds

end FrameWatch
