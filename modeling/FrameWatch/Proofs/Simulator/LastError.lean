import FrameWatch.Proofs.Run.Blame
import FrameWatch.Proofs.Simulator.Start

/-!
# The last error of the simulated camera

The simulated camera keeps the error of every call that fails, fetches included, from one run to the
next. What it keeps when a call of setup has failed is nevertheless the error of that call.

1. `Simulator.Refuses`: a call that fails leaves its own error behind.
2. `Holds`: the camera holds an error, and nothing is fetched that could leave another one. Whatever
   comes in while the failing call returns keeps that (`Holds.watches`).
3. `Simulation.steps_fails`: setup fails in such a state, whatever the camera has been through
   before.
-/

namespace FrameWatch

open Relation (ReflTransGen)

/-! ## Calls that fail -/

namespace Simulator

variable {α β : Type} {I : Simulator → Prop}

/-- A call that fails leaves its own error behind, which is an error, and keeps `I`. -/
def Refuses (I : Simulator → Prop) (call : Action (Reply α)) : Prop :=
  ∀ s e, I s → (call s).1 = .error e →
    (call s).2.lastError = e ∧ e.code ≠ 0 ∧ I (call s).2

theorem refuses_ok {call : Action (Reply α)} (hok : ∀ s, ∃ a, (call s).1 = .ok a) :
    Refuses I call := fun s e _ he => by
  obtain ⟨a, ha⟩ := hok s
  rw [ha] at he
  cases he

theorem refuses_fail (hI : ∀ s e, I s → I { s with lastError := e }) {code : Int}
    (hcode : code ≠ 0) (message : String) : Refuses I (fail code message : Action (Reply α)) :=
  fun s _ hs he => by cases he; exact ⟨rfl, hcode, hI s _ hs⟩

theorem Refuses.after {x : Action β} {f : β → Action (Reply α)} (hx : ∀ s, I s → I (x s).2)
    (hf : ∀ b, Refuses I (f b)) : Refuses I (x >>= f) :=
  fun s e hs he => hf _ _ e (hx s hs) he

theorem Refuses.ite {p : Prop} [Decidable p] {x y : Action (Reply α)} (hx : Refuses I x)
    (hy : Refuses I y) : Refuses I (if p then x else y) := by
  split
  · exact hx
  · exact hy

section

variable (hI : ∀ s e, I s → I { s with lastError := e })

include hI

theorem refuses_unlessInjected {stage : SetupStage} {call : Action (Reply α)}
    (hcall : Refuses I call) : Refuses I (unlessInjected stage call) :=
  .after (x := get) (fun _ hs => hs) fun _ => .ite (refuses_fail hI (by decide) _) hcall

theorem refuses_withSession {h : Handle} {call : CameraSession → Action (Reply α)}
    (hcall : ∀ session, Refuses I (call session)) : Refuses I (withSession h call) := by
  refine .after (x := get) (fun _ hs => hs) fun (s : Simulator) => ?_
  cases s.sessions.get? h with
  | none => exact refuses_fail hI (by decide) _
  | some session => exact hcall session

end

/-- What holds always. -/
abbrev Anything : Simulator → Prop := fun _ => True

theorem refuses_openCamera (name : String) : Refuses Anything (openCamera name) :=
  .after (fun _ _ => trivial) fun _ => refuses_unlessInjected (fun _ _ _ => trivial) <|
    .after (x := get) (fun _ _ => trivial) fun _ =>
      .ite (refuses_ok fun _ => ⟨_, rfl⟩) (refuses_fail (fun _ _ _ => trivial) (by decide) _)

theorem refuses_selectMode (h : Handle) (mode : ExposureMode) :
    Refuses Anything (selectMode h mode) :=
  refuses_unlessInjected (fun _ _ _ => trivial) <|
    refuses_withSession (fun _ _ _ => trivial) fun _ => refuses_ok fun _ => ⟨_, rfl⟩

theorem refuses_configure (h : Handle) (region : Region) :
    Refuses Anything (configure h region) :=
  refuses_unlessInjected (fun _ _ _ => trivial) <| .ite
    (refuses_withSession (fun _ _ _ => trivial) fun _ =>
      .after (x := get) (fun _ _ => trivial) fun _ => refuses_ok fun _ => ⟨_, rfl⟩)
    (refuses_fail (fun _ _ _ => trivial) (by decide) _)

theorem refuses_register (h : Handle) (token : ℕ) : Refuses Anything (register h token) :=
  .after (fun _ _ => trivial) fun _ => refuses_unlessInjected (fun _ _ _ => trivial) <|
    refuses_withSession (fun _ _ _ => trivial) fun _ => refuses_ok fun _ => ⟨_, rfl⟩

/-- The handle is open and no acquisition runs for it. -/
def Rests (h : Handle) (s : Simulator) : Prop :=
  ∃ session, s.sessions.get? h = some session ∧ session.acquisition = none

/-- No acquisition runs where starting one has failed. -/
theorem refuses_start (h : Handle) (base : Option ℕ) (size : ℕ) :
    Refuses (Rests h) (start h base size) := by
  have hI : ∀ s e, Rests h s → Rests h { s with lastError := e } := fun _ _ hs => hs
  refine .after (x := tally _) (fun _ hs => hs) fun _ => refuses_unlessInjected hI <|
    refuses_withSession hI fun session => ?_
  obtain ⟨frameBytes, registration, queue, acquisition⟩ := session
  cases acquisition with
  | some a => exact refuses_fail hI (by decide) _
  | none =>
    cases frameBytes with
    | none => exact refuses_fail hI (by decide) _
    | some frameBytes =>
      cases base with
      | none => exact refuses_fail hI (by decide) _
      | some base =>
        refine .ite (refuses_fail hI (by decide) _) <| .after (x := change h _) ?_ fun _ =>
          .after (x := get) (fun _ hs => hs) fun _ => .ite (refuses_ok fun _ => ⟨_, rfl⟩)
            (refuses_fail hI (by decide) _)
        rintro s ⟨session, hs, hidle⟩
        exact ⟨_, get?_modify_of_some hs fun session => { session with queue := .empty }, hidle⟩

theorem tick_lastError (h : Handle) (s : Simulator) : (tick h s).2.lastError = s.lastError :=
  (passage h s).keeps.2.2.1

end Simulator

/-! ## What comes in meanwhile -/

section Watches

variable {pace : Pace} {allocator : Allocator} {e : CameraError} {s s' : RunState Simulation}

theorem Simulation.lastError_tick (s : Simulation) :
    (tick s).2.camera.lastError = s.camera.lastError := by
  cases hh : s.handle with
  | none =>
    obtain ⟨camera, faults, handle, epoch, clock, moments, acquiringAtClose⟩ := s
    obtain rfl : handle = none := hh
    rfl
  | some h =>
    rw [tick_of_handle hh]
    exact Simulator.tick_lastError h s.camera

/-- Nobody is registered whom the camera could call. -/
def Unheard (s : RunState Simulation) : Prop := s.registered = false

theorem Unheard.tick (hu : Unheard s) :
    (Act.deliverTick (Simulation.rig pace allocator) s).2 =
      { s with rig := (Simulation.tick s.rig).2 } := by
  cases ht : ((Simulation.rig pace allocator).tick s.rig).1 with
  | none => exact Act.deliverTick_of_none _ _ ht
  | some n =>
    rw [Act.deliverTick_of_some _ _ ht]
    rcases Act.receive_cases (Simulation.rig pace allocator)
      { s with rig := ((Simulation.rig pace allocator).tick s.rig).2 } n with
      ⟨-, h⟩ | ⟨hreg, -⟩ | ⟨_, _, hreg, -⟩
    · exact h
    · cases hu.symm.trans hreg
    · cases hu.symm.trans hreg

theorem Unheard.watches (hu : Unheard s)
    (hs : ReflTransGen (WatchMove (Simulation.rig pace allocator)) s s') : Unheard s' :=
  keeps_of_tick (P := Unheard) (fun _ _ hagrees hu => hagrees.registered.trans hu)
    (fun _ hu => by rw [hu.tick]; exact hu) hs hu

/-- The camera holds the error `e`, and nothing is fetched that could leave another one: nobody is
registered, or no acquisition runs. -/
structure Holds (e : CameraError) (s : RunState Simulation) : Prop where
  lastError : s.rig.camera.lastError = e
  quiet : Unheard s ∨ ∃ h, s.rig.handle = some h ∧ s.rig.camera.Rests h

theorem Holds.agree (he : Holds e s) (hs : s.Agrees s') : Holds e s' where
  lastError := by rw [hs.camera]; exact he.lastError
  quiet := by
    refine he.quiet.imp hs.registered.trans ?_
    rw [hs.handle, hs.camera]
    exact id

theorem Holds.tick (he : Holds e s) :
    Holds e (Act.deliverTick (Simulation.rig pace allocator) s).2 := by
  rcases he.quiet with hu | ⟨h, hhandle, session, hopened, hidle⟩
  · rw [hu.tick]
    exact ⟨(Simulation.lastError_tick s.rig).trans he.lastError, .inl hu⟩
  · rw [Act.deliverTick_of_idle hhandle hopened hidle]
    exact he

theorem Holds.watches (he : Holds e s)
    (hs : ReflTransGen (WatchMove (Simulation.rig pace allocator)) s s') : Holds e s' :=
  keeps_of_tick (fun _ _ hagrees he => he.agree hagrees) (fun _ he => he.tick) hs he

end Watches

/-! ## The steps of setup -/

/-- The error of a failing call is one, and the camera holds it. -/
def SetupError.Held (e : SetupError) (s : RunState Simulation) : Prop :=
  ∀ {reason}, e.cause = .camera reason → reason.code ≠ 0 ∧ Holds reason s

namespace Setup

variable {pace : Pace} {allocator : Allocator} {α : Type} {stage : SetupStage} {c : CameraCall}
  {effect : StateM Simulation (Except CameraError α)} {s : RunState Simulation}

/-- A call that fails takes what holds before it to an error that the camera holds, if a watch keeps
what holds before it. -/
theorem held_of_effect (I : RunState Simulation → Prop)
    (hc : (RunStep.noted (.call c)).isOwn = true)
    (keepI : ∀ s s', ReflTransGen (WatchMove (Simulation.rig pace allocator)) s s' → I s → I s')
    (heffect : ∀ s e, I s → (effect s.rig).1 = .error e →
      e.code ≠ 0 ∧ Holds e { s with rig := (effect s.rig).2 }) (hs : I s) :
    FailsWith (call (Simulation.rig pace allocator) stage c effect) s SetupError.Held := by
  have hcall := Act.call_of_effect _ I
    (fun answer s' => ∀ e, answer = .error e → e.code ≠ 0 ∧ Holds e s') hc keepI
    (fun s hI e he => heffect s e hI he)
    (fun _ _ _ hs h e he => ⟨(h e he).1, (h e he).2.watches hs⟩) hs
  refine fails_call fun e he => ?_
  intro reason hreason
  cases hreason
  exact hcall e he

/-- A call to the simulated camera that is made before anybody is registered. -/
theorem held_of_unheard {call : Simulator.Action (Simulator.Reply α)}
    (hcall : Simulator.Refuses Simulator.Anything call)
    (hc : (RunStep.noted (.call c)).isOwn = true) (hs : Unheard s) :
    FailsWith (Setup.call (Simulation.rig pace allocator) stage c (Simulation.ask call)) s
      SetupError.Held := by
  refine held_of_effect Unheard hc (fun _ _ hs hu => hu.watches hs) (fun s e hu he => ?_) hs
  obtain ⟨hlast, hcode, -⟩ := hcall s.rig.camera e trivial he
  exact ⟨hcode, hlast, .inl hu⟩

end Setup

namespace Simulation

open Setup

variable {pace : Pace} {allocator : Allocator} {s : RunState Simulation} (settings : RunSettings)

theorem openCamera_fails (hs : Unheard s) :
    FailsWith (Setup.openCamera (rig pace allocator) settings) s SetupError.Held := by
  refine FailsWith.bind (held_of_effect Unheard rfl (fun _ _ hs hu => hu.watches hs)
    (fun s e hu he => ?_) hs) (answers_true _) fun _ _ _ =>
      fails_sure.bind (answers_true _) fun _ _ _ => fails_pure
  change (openCamera _ s.rig).1 = _ at he
  rw [openCamera_eq] at he
  obtain ⟨hlast, hcode, -⟩ := Simulator.refuses_openCamera _ s.rig.camera e trivial he
  refine ⟨hcode, ?_, .inl hu⟩
  show (openCamera _ s.rig).2.camera.lastError = e
  rw [openCamera_eq]
  exact hlast

theorem configure_fails {h : Handle} (hs : Unheard s) :
    FailsWith (Setup.configure (rig pace allocator) settings h) s SetupError.Held := by
  have hselected : Answers (Setup.call (rig pace allocator) .selectExposureMode
      (.selectMode h settings.exposureMode)
      ((rig pace allocator).selectMode h settings.exposureMode)) s fun _ s' => Unheard s' :=
    answers_of_effect Unheard rfl (fun _ _ hs hu => hu.watches hs) (fun _ _ hu _ => hu)
      (fun _ _ _ hs hu => hu.watches hs) hs
  exact (held_of_unheard (Simulator.refuses_selectMode _ _) rfl hs).bind hselected fun _ _ hs₁ =>
    (held_of_unheard (Simulator.refuses_configure _ _) rfl hs₁).bind (answers_true _)
      fun _ _ _ => fails_sure.bind (answers_true _) fun _ _ _ => fails_pure

theorem allocate_fails (h : Handle) (frameBytes : ℕ) :
    FailsWith (Setup.allocate (rig pace allocator) settings h frameBytes) s SetupError.Held := by
  refine fails_sure.bind (answers_true _) fun base _ _ => ?_
  cases FrameBuffer.allocate (fun _ => base) frameBytes settings.bufferFrames
      settings.bufferLimit with
  | error e =>
    intro e' he
    cases he
    exact fun hcause => by cases hcause
  | ok buffer => exact fails_sure.bind (answers_true _) fun _ _ _ => fails_pure

theorem register_fails {h : Handle} (hs : Unheard s) :
    FailsWith (Setup.register (rig pace allocator) h) s SetupError.Held :=
  (held_of_unheard (Simulator.refuses_register _ _) rfl hs).bind (answers_true _) fun _ _ _ =>
    fails_sure

theorem start_fails {b : SimulatorBehavior} {h : Handle} {session : CameraSession}
    {context : Custody Handler} {registered : Bool} (hi : Idle b h session context registered s)
    (buffer : FrameBuffer) :
    FailsWith (Setup.start (rig pace allocator) settings h buffer) s SetupError.Held := by
  refine fails_sure.bind (answers_sure (Q := fun _ s' => Idle b h session context registered s') hi)
    fun _ s₁ hi₁ => ?_
  refine FailsWith.bind (held_of_effect (Idle b h session context registered) rfl
    (fun _ _ hs hi => hi.watches hs) (fun s e hi he => ?_) hi₁) (answers_true _) fun _ _ _ =>
      fails_sure.bind (answers_true _) fun _ _ _ => fails_pure
  obtain ⟨hlast, hcode, hrests⟩ :=
    Simulator.refuses_start h (some buffer.base) buffer.size s.rig.camera e
      ⟨session, hi.opened, hi.idle⟩ he
  exact ⟨hcode, hlast, .inr ⟨h, hi.handle, hrests⟩⟩

/-- Where a call of setup fails, the camera holds its error. -/
theorem steps_fails {b : SimulatorBehavior} (hu : Unopened b s) :
    FailsWith (Setup.steps (rig pace allocator) settings) s SetupError.Held := by
  refine (openCamera_fails settings hu.registered).bind (openCamera_answers settings hu)
    fun h s₁ ⟨context, h₁⟩ => ?_
  refine (configure_fails settings h₁.registered).bind (configure_answers settings h₁)
    fun frameBytes s₂ ⟨_, h₂⟩ => ?_
  refine (allocate_fails settings h frameBytes).bind (allocate_answers settings h₂ frameBytes)
    fun buffer s₃ h₃ => ?_
  exact (register_fails h₃.registered).bind (register_answers h₃) fun _ s₄ h₄ =>
    start_fails settings h₄ buffer

end Simulation

namespace Runner

/-- The simulated camera, whatever it has been through, adds to a failing call just its error. -/
theorem simulated_diagnostic {pace : Pace} {allocator : Allocator} {r : Runner Simulation}
    {number : ℕ} {stage : SetupStage} {e : CameraError} {diagnostic : Option CameraError}
    (h : (r.run (Simulation.rig pace allocator) number).1.verdict =
      .setupFailed ⟨stage, .camera e⟩ diagnostic) : diagnostic = some e := by
  obtain ⟨path, taken, f, hcourse⟩ := r.run_course (Simulation.rig pace allocator) number
  obtain ⟨hsteps, hdiagnostic⟩ := Run.drive_failed _ _ _ (hcourse.judged.symm.trans h)
  have hunopened : Unopened r.rig.camera.behavior r.start := ⟨rfl, rfl, rfl⟩
  obtain ⟨hcode, hheld⟩ := Simulation.steps_fails r.settings hunopened _ hsteps rfl
  have hlast : ((Simulation.rig pace allocator).lastError
      (Setup.steps (Simulation.rig pace allocator) r.settings r.start).2.rig).1 = e :=
    hheld.lastError
  change diagnostic = (let last := ((Simulation.rig pace allocator).lastError
    (Setup.steps (Simulation.rig pace allocator) r.settings r.start).2.rig).1
    if last.code = 0 then none else some last) at hdiagnostic
  rw [hlast, if_neg hcode] at hdiagnostic
  exact hdiagnostic

/-- **Blame.** In every run on every camera, the verdict tells the first stage of setup that fails
and its error; the simulated camera, whatever it has been through in earlier runs, adds just that
error. -/
theorem setup_blame :
    (∀ {σ : Type} (rig : Rig σ) (r : Runner σ) (number : ℕ),
      (r.replies rig number).Blames (r.lastErrorAfterSetup rig) (r.run rig number).1.verdict) ∧
    ∀ (pace : Pace) (allocator : Allocator) (r : Runner Simulation) (number : ℕ)
      (stage : SetupStage) (e : CameraError) (diagnostic : Option CameraError),
      (r.run (Simulation.rig pace allocator) number).1.verdict =
        .setupFailed ⟨stage, .camera e⟩ diagnostic → diagnostic = some e :=
  ⟨fun rig r number => r.blames rig number, fun _ _ _ _ _ _ _ h => simulated_diagnostic h⟩

/-- A runner after a run whose only frame could not be fetched, on the way to a camera that does not
exist. -/
def afterFailedFetch : Runner Simulation :=
  let behavior := { SimulatorBehavior.standard with failFetchOn := [1] }
  let first : Runner Simulation :=
    .fresh { RunSettings.standard with targetFrames := 1 }
      (.fresh (.fresh behavior true) .none ⟨0, 0⟩)
  { (first.run (Simulation.rig Simulation.lockStep fun _ => some 4096) 1).2.2 with
    settings := { RunSettings.standard with camera := "NoSuchCamera" } }

theorem setup_blame_afterFailedFetch :
    afterFailedFetch.rig.camera.lastError = ⟨3004, "Injected fetch failure on frame 1"⟩ ∧
      ∃ diagnostic,
        (afterFailedFetch.run (Simulation.rig Simulation.lockStep fun _ => some 4096) 2).1.verdict =
          .setupFailed ⟨.openDevice, .camera ⟨3005, "Camera 'NoSuchCamera' not found"⟩⟩
            diagnostic ∧
        diagnostic = some ⟨3005, "Camera 'NoSuchCamera' not found"⟩ := by
  have hfails :
      (afterFailedFetch.run (Simulation.rig Simulation.lockStep fun _ => some 4096) 2).1.verdict =
        .setupFailed ⟨.openDevice, .camera ⟨3005, "Camera 'NoSuchCamera' not found"⟩⟩
          (some ⟨3005, "Camera 'NoSuchCamera' not found"⟩) := by decide +kernel
  exact ⟨by decide +kernel, _, hfails, setup_blame.2 Simulation.lockStep (fun _ => some 4096)
    afterFailedFetch 2 .openDevice _ _ hfails⟩

end Runner

end FrameWatch
