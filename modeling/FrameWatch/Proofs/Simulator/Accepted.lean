import FrameWatch.Proofs.Simulator.LastError
import FrameWatch.Proofs.Simulator.Upkeep

/-!
# Settings that the simulated camera accepts

The simulated camera has nothing against settings that name one of its cameras and a valid region.
Setup with them fails only where the behaviour of the camera asks for it or where no buffer can be
allocated; `SimulatorBehavior.setupError?` says which of these comes first.

1. `Setup.EndsWith` says with which error a step of setup fails, if it does, and what holds if not;
   steps one after the other fail with the first error of any of them (`EndsWith.bind`).
2. `Simulation.steps_ends` goes through the steps of setup, and `Runner.simulated_verdict` through a
   whole run.
-/

namespace FrameWatch

open Act (failure?)
open Relation (ReflTransGen)

/-! ## What the behaviour asks for -/

namespace SimulatorBehavior

/-- The failure that the behaviour asks for at a stage. -/
def injection? (b : SimulatorBehavior) (stage : SetupStage) : Option CameraError :=
  if b.failStage = some stage then some ⟨3001, "Mock failure injected at " ++ stage.name⟩ else none

/-- The failure that the behaviour asks for, as the failure of its stage. -/
def injected? (b : SimulatorBehavior) (stage : SetupStage) : Option SetupError :=
  (b.injection? stage).map fun e => ⟨stage, .camera e⟩

/-- The bytes of a frame with these settings. -/
def frameSize (b : SimulatorBehavior) (settings : RunSettings) : ℕ :=
  b.frameBytes.getD settings.region.frameBytes

/-- The failure of allocating a buffer with these settings. -/
def allocationError? (b : SimulatorBehavior) (settings : RunSettings) (allocator : Allocator) :
    Option SetupError :=
  (failure? (FrameBuffer.allocate allocator (b.frameSize settings) settings.bufferFrames
    settings.bufferLimit)).map fun e => ⟨.allocateBuffer, .allocation e⟩

/-- The first failure that is to be expected of setup with settings that the camera accepts. -/
def setupError? (b : SimulatorBehavior) (settings : RunSettings) (allocator : Allocator) :
    Option SetupError :=
  (b.injected? .openDevice).or <| (b.injected? .selectExposureMode).or <|
    (b.injected? .setupAcquisition).or <| (b.allocationError? settings allocator).or <|
    (b.injected? .registerCallback).or (b.injected? .startAcquisition)

end SimulatorBehavior

/-! ## How the calls end -/

namespace Simulator

variable {α : Type} {s : Simulator} {h : Handle} {session : CameraSession}

/-- A call that does not fail of itself fails as the behaviour asks for. -/
theorem failure?_unlessInjected (stage : SetupStage) {call : Action (Reply α)}
    (hcall : failure? (call s).1 = none) :
    failure? (unlessInjected stage call s).1 = s.behavior.injection? stage := by
  have hrun : unlessInjected stage call s = (if s.behavior.failStage = some stage then
      fail injectedFailure ("Mock failure injected at " ++ stage.name) else call) s := rfl
  unfold SimulatorBehavior.injection?
  rw [hrun]
  split
  · rfl
  · exact hcall

theorem failure?_openCamera {name : String} (hname : s.behavior.cameras.contains name = true) :
    failure? (openCamera name s).1 = s.behavior.injection? .openDevice := by
  refine failure?_unlessInjected .openDevice ?_
  show failure?
    ((if s.behavior.cameras.contains name then _ else _ : Action (Reply Handle)) _).1 = _
  rw [if_pos hname]
  rfl

theorem failure?_selectMode (hs : s.sessions.get? h = some session) (mode : ExposureMode) :
    failure? (selectMode h mode s).1 = s.behavior.injection? .selectExposureMode := by
  refine failure?_unlessInjected .selectExposureMode ?_
  rw [withSession_of_some hs]
  rfl

theorem failure?_configure (hs : s.sessions.get? h = some session) {region : Region}
    (hregion : region.isValid = true) :
    failure? (configure h region s).1 = s.behavior.injection? .setupAcquisition := by
  refine failure?_unlessInjected .setupAcquisition ?_
  rw [if_pos hregion, withSession_of_some hs]
  rfl

theorem failure?_register (hs : s.sessions.get? h = some session) (token : ℕ) :
    failure? (register h token s).1 = s.behavior.injection? .registerCallback := by
  refine failure?_unlessInjected .registerCallback ?_
  rw [withSession_of_some (by exact hs)]
  rfl

/-- The camera starts into a buffer that holds a frame. -/
theorem failure?_start {base size frameBytes : ℕ} (hs : s.sessions.get? h = some session)
    (hidle : session.acquisition = none) (hsize : session.frameBytes = some frameBytes)
    (hpos : 0 < frameBytes) (hfits : frameBytes ≤ size) (hspawn : s.canSpawn = true) :
    failure? (start h (some base) size s).1 = s.behavior.injection? .startAcquisition := by
  refine failure?_unlessInjected .startAcquisition ?_
  rw [withSession_of_some (by exact hs)]
  obtain ⟨_, registration, queue, _⟩ := session
  obtain rfl := hidle
  obtain rfl := hsize
  dsimp only
  rw [if_neg (by omega)]
  show failure? ((if s.canSpawn = true then _ else _ : Action (Reply Unit)) _).1 = _
  rw [if_pos hspawn]
  rfl

end Simulator

/-! ## Steps of setup -/

namespace Setup

variable {σ α β : Type} {s : RunState σ} {e? e'? : Option SetupError} {Q : α → RunState σ → Prop}

/-- From `s`, `x` fails with that error, if there is one, and answers if there is none. -/
def EndsWith (x : Step σ α) (s : RunState σ) (e? : Option SetupError) : Prop :=
  failure? (x s).1 = e?

/-- One step after the other fails with the first error of either. -/
theorem EndsWith.bind {x : Step σ α} {f : α → Step σ β} (hx : EndsWith x s e?)
    (hQ : Answers x s Q) (hf : ∀ a s', Q a s' → EndsWith (f a) s' e'?) :
    EndsWith (x >>= f) s (e?.or e'?) := by
  unfold EndsWith at hx ⊢
  cases h : (x s).1 with
  | error e =>
    rw [h] at hx
    rw [bind_of_error h, ← hx]
    rfl
  | ok a =>
    rw [h] at hx
    rw [bind_of_ok h, hf a _ (hQ a h), ← hx]
    rfl

theorem EndsWith.thenSure {x : Step σ α} {f : α → Step σ β} (hx : EndsWith x s e?)
    (hf : ∀ a s', failure? (f a s').1 = none) : EndsWith (x >>= f) s e? := by
  have hbound := hx.bind (answers_true x) fun a s' _ => hf a s'
  rwa [Option.or_none] at hbound

theorem Answers.and {x : Step σ α} {Q' : α → RunState σ → Prop} (hQ : Answers x s Q)
    (hQ' : Answers x s Q') : Answers x s fun a s' => Q a s' ∧ Q' a s' :=
  fun a ha => ⟨hQ a ha, hQ' a ha⟩

/-- A call ends as its effect does wherever what holds before it holds. -/
theorem ends_of_effect {rig : Rig σ} {stage : SetupStage} {c : CameraCall}
    {effect : StateM σ (Except CameraError α)} {reason? : Option CameraError}
    (I : RunState σ → Prop) (hc : (RunStep.noted (.call c)).isOwn = true)
    (keepI : ∀ s s', ReflTransGen (WatchMove rig) s s' → I s → I s')
    (heffect : ∀ s, I s → failure? (effect s.rig).1 = reason?) (hs : I s) :
    EndsWith (call rig stage c effect) s (reason?.map fun e => ⟨stage, .camera e⟩) := by
  have hanswer : failure? (Act.call rig c effect s).1 = reason? :=
    Act.call_of_effect rig I (fun answer _ => failure? answer = reason?) hc keepI heffect
      (fun _ _ _ _ h => h) hs
  unfold EndsWith
  cases h : (Act.call rig c effect s).1 with
  | error e =>
    rw [h] at hanswer
    rw [call_of_error h, ← hanswer]
    rfl
  | ok a =>
    rw [h] at hanswer
    rw [call_of_ok h, ← hanswer]
    rfl

theorem allocate_ends (rig : Rig σ) (settings : RunSettings) (camera : Handle) (frameBytes : ℕ) :
    EndsWith (allocate rig settings camera frameBytes) s
      ((failure? (FrameBuffer.allocate (fun bytes => (rig.reserve bytes s.rig).1) frameBytes
        settings.bufferFrames settings.bufferLimit)).map
          fun e => ⟨.allocateBuffer, .allocation e⟩) := by
  unfold EndsWith
  rw [allocate_eq]
  cases FrameBuffer.allocate (fun bytes => (rig.reserve bytes s.rig).1) frameBytes
    settings.bufferFrames settings.bufferLimit <;> rfl

/-- The buffer holds at least one frame. -/
theorem allocate_fits (rig : Rig σ) (settings : RunSettings) (camera : Handle) (frameBytes : ℕ) :
    Answers (allocate rig settings camera frameBytes) s fun buffer _ =>
      0 < frameBytes ∧ frameBytes ≤ buffer.size := by
  intro buffer hbuffer
  rw [allocate_eq] at hbuffer
  cases ha : FrameBuffer.allocate (fun bytes => (rig.reserve bytes s.rig).1) frameBytes
    settings.bufferFrames settings.bufferLimit with
  | error e => rw [ha] at hbuffer; cases hbuffer
  | ok buffer' =>
    rw [ha] at hbuffer
    obtain rfl : buffer' = buffer := Except.ok.inj hbuffer
    obtain ⟨rfl, -, hpos⟩ := FrameBuffer.allocate_size_pos ha
    unfold FrameBuffer.size at hpos ⊢
    exact ⟨Nat.pos_of_mul_pos_right hpos, Nat.le_mul_of_pos_right _ (Nat.pos_of_mul_pos_left hpos)⟩

end Setup

namespace Simulation

open Setup

variable {pace : Pace} {allocator : Allocator} {b : SimulatorBehavior} {h : Handle}
  {session : CameraSession} {context : Custody Handler} {s : RunState Simulation}
  (settings : RunSettings)

theorem openCamera_ends (hu : Unopened b s) (hname : b.cameras.contains settings.camera = true) :
    EndsWith (Setup.openCamera (rig pace allocator) settings) s (b.injected? .openDevice) := by
  refine EndsWith.thenSure (ends_of_effect (Unopened b) rfl (fun _ _ hs hu => hu.watches hs)
    (fun s hu => ?_) hu) fun _ _ => rfl
  show failure? (openCamera settings.camera s.rig).1 = _
  rw [openCamera_eq, Simulator.failure?_openCamera (by rw [hu.behavior]; exact hname), hu.behavior]

theorem configure_ends (hi : Idle b h .fresh context false s)
    (hregion : settings.region.isValid = true) :
    EndsWith (Setup.configure (rig pace allocator) settings h) s
      ((b.injected? .selectExposureMode).or (b.injected? .setupAcquisition)) := by
  refine EndsWith.bind (ends_of_effect (Idle b h .fresh context false) rfl
    (fun _ _ hs hi => hi.watches hs) (fun s hi => ?_) hi) (selectMode_answers settings hi)
    fun mode s₁ hi₁ => EndsWith.thenSure (ends_of_effect (Idle b h .fresh context false) rfl
      (fun _ _ hs hi => hi.watches hs) (fun s hi => ?_) hi₁) fun _ _ => rfl
  · exact (Simulator.failure?_selectMode hi.opened settings.exposureMode).trans
      (by rw [hi.behavior])
  · exact (Simulator.failure?_configure hi.opened hregion).trans (by rw [hi.behavior])

/-- The memory that the simulated camera grants is what its allocator grants. -/
theorem buffer_ends (h : Handle) :
    EndsWith (Setup.allocate (rig pace allocator) settings h (b.frameSize settings)) s
      (b.allocationError? settings allocator) := by
  have hends := Setup.allocate_ends (s := s) (rig pace allocator) settings h (b.frameSize settings)
  have hgranted : (fun bytes => ((rig pace allocator).reserve bytes s.rig).1) = allocator := by
    funext bytes
    rw [reserve_eq]
  rwa [hgranted] at hends

theorem register_ends (hi : Idle b h session context false s) :
    EndsWith (Setup.register (rig pace allocator) h) s (b.injected? .registerCallback) := by
  refine EndsWith.thenSure (ends_of_effect (Idle b h session context false) rfl
    (fun _ _ hs hi => hi.watches hs) (fun s hi => ?_) hi) fun _ _ => rfl
  exact (Simulator.failure?_register hi.opened 0).trans (by rw [hi.behavior])

theorem idle_made_watches {s' : RunState Simulation}
    (hs : ReflTransGen (WatchMove (rig pace allocator)) s s')
    (him : Idle b h session context true s ∧ Made b s.rig) :
    Idle b h session context true s' ∧ Made b s'.rig := by
  refine keeps_of_tick (P := fun s => Idle b h session context true s ∧ Made b s.rig)
    (fun s s' hagrees ⟨hi, hm⟩ => ⟨hi.agree hagrees, ?_, ?_⟩) (fun s ⟨hi, hm⟩ => ?_) hs him
  · rw [hagrees.camera]; exact hm.behavior
  · rw [hagrees.camera]; exact hm.canSpawn
  · rw [Act.deliverTick_of_idle hi.handle hi.opened hi.idle]
    exact ⟨hi, hm⟩

theorem start_ends {frameBytes : ℕ} {buffer : FrameBuffer}
    (hi : Idle b h session context true s) (hm : Made b s.rig)
    (hsize : session.frameBytes = some frameBytes) (hpos : 0 < frameBytes)
    (hfits : frameBytes ≤ buffer.size) :
    EndsWith (Setup.start (rig pace allocator) settings h buffer) s
      (b.injected? .startAcquisition) := by
  have hnow : EndsWith (Setup.sure (get : Act Simulation _)) s none := rfl
  refine hnow.bind (answers_sure (Q := fun _ s' => s' = s) rfl) fun now s₁ hs₁ => ?_
  subst hs₁
  refine EndsWith.thenSure (ends_of_effect
    (fun s => Idle b h session context true s ∧ Made b s.rig) rfl
    (fun _ _ hs h => idle_made_watches hs h) (fun s ⟨hi, hm⟩ => ?_) ⟨hi, hm⟩) fun _ _ => rfl
  refine (Simulator.failure?_start hi.opened hi.idle hsize hpos hfits hm.canSpawn).trans ?_
  rw [hi.behavior]

/-- A step that goes as it goes leaves the camera as it was made. -/
theorem answers_made {α : Type} {x : Step Simulation α} {Q : Except SetupError α →
    Except SetupError α → Prop} (hx : InStep (.self (Made b)) Q x.run x.run) (hm : Made b s.rig) :
    Answers x s fun _ s' => Made b s'.rig := fun _ _ => hx.keeps hm

/-- Setup with settings that the camera accepts fails as it is to be expected, and not otherwise. -/
theorem steps_ends (hu : Unopened b s) (hm : Made b s.rig)
    (hname : b.cameras.contains settings.camera = true) (hregion : settings.region.isValid = true) :
    EndsWith (Setup.steps (rig pace allocator) settings) s (b.setupError? settings allocator) := by
  have hholds : (Comparison.self (Made b)).Holds (rig pace allocator) (rig pace allocator) :=
    rig_keeps.holds
  have hbound : EndsWith (Setup.steps (rig pace allocator) settings) s
      ((b.injected? .openDevice).or
        (((b.injected? .selectExposureMode).or (b.injected? .setupAcquisition)).or
          ((b.allocationError? settings allocator).or
            ((b.injected? .registerCallback).or (b.injected? .startAcquisition))))) := by
    refine (openCamera_ends settings hu hname).bind ((openCamera_answers settings hu).and
      (answers_made (hholds.setup_openCamera settings) hm)) fun h s₁ ⟨⟨context, h₁⟩, hm₁⟩ => ?_
    refine (configure_ends settings h₁ hregion).bind ((configure_answers settings h₁).and
      (answers_made (hholds.setup_configure settings h) hm₁))
      fun frameBytes s₂ ⟨⟨hbytes, h₂⟩, hm₂⟩ => ?_
    subst hbytes
    refine (buffer_ends settings h).bind (((allocate_answers settings h₂ _).and
      (Setup.allocate_fits _ settings h _)).and
      (answers_made (hholds.setup_allocate settings h _) hm₂))
      fun buffer s₃ ⟨⟨h₃, hpos, hfits⟩, hm₃⟩ => ?_
    refine (register_ends h₃).bind ((register_answers h₃).and
      (answers_made (hholds.setup_register h) hm₃)) fun _ s₄ ⟨h₄, hm₄⟩ => ?_
    exact start_ends settings h₄ hm₄ rfl hpos hfits
  rw [Option.or_assoc] at hbound
  exact hbound

end Simulation

/-! ## Whole runs -/

/-- What the simulated camera adds to a failure. -/
def SetupCause.diagnostic? : SetupCause → Option CameraError
  | camera e => some e
  | allocation _ => none

namespace Runner

variable {b : SimulatorBehavior} {pace : Pace} {allocator : Allocator} {r : Runner Simulation}

/-- A run with settings that the camera accepts fails in setup as it is to be expected. -/
theorem simulated_verdict (number : ℕ) (hm : Simulation.Made b r.rig)
    (hname : b.cameras.contains r.settings.camera = true)
    (hregion : r.settings.region.isValid = true) (e : SetupError)
    (diagnostic : Option CameraError) :
    (r.run (Simulation.rig pace allocator) number).1.verdict = .setupFailed e diagnostic ↔
      b.setupError? r.settings allocator = some e ∧ diagnostic = e.cause.diagnostic? := by
  obtain ⟨path, taken, f, hcourse⟩ := r.run_course (Simulation.rig pace allocator) number
  have hunopened : Unopened b r.start := ⟨hm.behavior, rfl, rfl⟩
  have hends : path.error? = b.setupError? r.settings allocator :=
    hcourse.setup_error.symm.trans
      (Simulation.steps_ends r.settings hunopened hm hname hregion)
  have hfailed : ∀ {diagnostic'}, (r.run (Simulation.rig pace allocator) number).1.verdict =
      .setupFailed e diagnostic' → diagnostic' = e.cause.diagnostic? := by
    intro diagnostic' h
    obtain ⟨stage, cause⟩ := e
    cases cause with
    | camera e => exact simulated_diagnostic h
    | allocation e => exact (r.blames (Simulation.rig pace allocator) number).undiagnosed h
  constructor
  · intro h
    obtain ⟨hsteps, -⟩ := Run.drive_failed _ _ _ (hcourse.judged.symm.trans h)
    rw [← hends, ← hcourse.setup_error, hsteps]
    exact ⟨rfl, hfailed h⟩
  · rintro ⟨herror, rfl⟩
    have hverdict := hcourse.verdict
    rw [hends, herror] at hverdict
    obtain ⟨diagnostic', hverdict⟩ := hverdict
    rw [hverdict, hfailed hverdict]

end Runner

end FrameWatch
