import FrameWatch.Proofs.Run.SetupPath
import FrameWatch.Proofs.Simulator.Follow

/-!
# Setting the simulated camera up

Until it is started the simulated camera announces nothing that a handler could hear of: before it
is opened nobody is registered (`Unopened`), and afterwards no acquisition runs (`Idle`). Where
setup succeeds, the run follows the camera from frame 0 on (`Simulation.steps_answers`).
-/

namespace FrameWatch

open MailboxEvent
open Relation (ReflTransGen)

/-! ## Calls that succeed -/

namespace Simulator

variable {s : Simulator} {h : Handle} {session : CameraSession}

theorem tick_behavior (h : Handle) (s : Simulator) : (tick h s).2.behavior = s.behavior :=
  (passage h s).keeps.1

theorem unlessInjected_of_ok {α : Type} {stage : SetupStage} {call : Action (Reply α)} {a : α}
    (hok : (unlessInjected stage call s).1 = .ok a) : unlessInjected stage call s = call s := by
  have hrun : unlessInjected stage call s = (if s.behavior.failStage = some stage then
      fail injectedFailure ("Mock failure injected at " ++ stage.name) else call) s := rfl
  rw [hrun] at hok ⊢
  split at hok
  · cases hok
  · rename_i hstage
    rw [if_neg hstage]

theorem answered_of_ok {α : Type} {stage : SetupStage} {call : CameraSession → Action (Reply α)}
    {a : α} (hok : (unlessInjected stage (withSession h call) s).1 = .ok a)
    (hs : s.sessions.get? h = some session) :
    unlessInjected stage (withSession h call) s = call session s :=
  (unlessInjected_of_ok hok).trans (withSession_of_some hs call)

theorem get?_modify_of_some {t : SessionTable} (hs : t.get? h = some session)
    (f : CameraSession → CameraSession) : (t.modify h f).get? h = some (f session) := by
  rw [SessionTable.get?_modify, if_pos rfl, hs]
  rfl

theorem openCamera_of_ok {name : String} (hok : (openCamera name s).1 = .ok h) :
    (openCamera name s).2.behavior = s.behavior ∧
      (openCamera name s).2.sessions.get? h = some .fresh := by
  have hcall := unlessInjected_of_ok hok
  change openCamera name s = (if s.behavior.cameras.contains name then _ else _ : Action _) _
    at hcall
  rw [hcall] at hok ⊢
  split at hok
  · rename_i hname
    obtain rfl : Handle.ofCount s.opened = h := Except.ok.inj hok
    rw [if_pos hname]
    exact ⟨rfl, if_pos rfl⟩
  · cases hok

theorem selectMode_of_ok {mode : ExposureMode} {m : NegotiatedMode}
    (hs : s.sessions.get? h = some session) (hok : (selectMode h mode s).1 = .ok m) :
    (selectMode h mode s).2 = s := by
  have hcall : selectMode h mode s = _ := answered_of_ok hok hs
  rw [hcall]
  rfl

theorem configure_of_ok {region : Region} {bytes : ℕ}
    (hs : s.sessions.get? h = some session) (hok : (configure h region s).1 = .ok bytes) :
    bytes = s.behavior.frameBytes.getD region.frameBytes ∧
      (configure h region s).2.behavior = s.behavior ∧
      (configure h region s).2.sessions.get? h =
        some { session with frameBytes := some bytes } := by
  have hcall : configure h region s = _ := unlessInjected_of_ok hok
  rw [hcall] at hok ⊢
  split at hok
  · rename_i hregion
    rw [withSession_of_some hs] at hok
    obtain rfl : s.behavior.frameBytes.getD region.frameBytes = bytes := Except.ok.inj hok
    rw [if_pos hregion, withSession_of_some hs]
    exact ⟨rfl, rfl, get?_modify_of_some hs fun session => { session with frameBytes := some _ }⟩
  · cases hok

theorem register_of_ok {token : ℕ} (hs : s.sessions.get? h = some session)
    (hok : (register h token s).1 = .ok ()) :
    (register h token s).2.behavior = s.behavior ∧
      (register h token s).2.sessions.get? h =
        some { session with registration := some token } := by
  have hcall : register h token s = _ := answered_of_ok hok hs
  rw [hcall]
  exact ⟨rfl, get?_modify_of_some hs fun session => { session with registration := some token }⟩

/-- An acquisition has not come to any frame when it is started. -/
theorem start_of_ok {base : Option ℕ} {size : ℕ} (hs : s.sessions.get? h = some session)
    (hreg : session.registration.isSome = true) (hok : (start h base size s).1 = .ok ()) :
    (start h base size s).2.behavior = s.behavior ∧ (start h base size s).2.Running h 0 0 := by
  have hcall : start h base size s = _ := answered_of_ok hok hs
  rw [hcall] at hok ⊢
  obtain ⟨frameBytes, registration, queue, acquisition⟩ := session
  cases acquisition with
  | some a => cases hok
  | none =>
    cases frameBytes with
    | none => cases hok
    | some frameBytes =>
      cases base with
      | none => cases hok
      | some base =>
        dsimp only at hok ⊢
        split at hok
        · cases hok
        · rename_i hfits
          rw [if_neg hfits]
          change ((if s.canSpawn = true then _ else _ : Action (Reply Unit)) _).1 = _ at hok
          show ((if s.canSpawn = true then _ else _ : Action (Reply Unit)) _).2.behavior = _ ∧
            Running ((if s.canSpawn = true then _ else _ : Action (Reply Unit)) _).2 h 0 0
          split at hok
          · rename_i hspawn
            rw [if_pos hspawn]
            refine ⟨rfl, ⟨some frameBytes, registration, .empty,
              some ⟨0, base, frameBytes, size / frameBytes⟩⟩, _, ?_, hreg, rfl, rfl, rfl⟩
            exact get?_modify_of_some (get?_modify_of_some hs fun session =>
              { session with queue := .empty }) fun session =>
                { session with acquisition := some ⟨0, base, frameBytes, size / frameBytes⟩ }
          · cases hok

/-! Calls of teardown succeed on an open handle. -/

theorem abort_eq (hs : s.sessions.get? h = some session) :
    (abort h s).1 = .ok () ∧ (abort h s).2.sessions =
      s.sessions.modify h fun session => { session with acquisition := none } := by
  have hrun : abort h s = withSession h _ { s with
    counts := { s.counts with aborts := s.counts.aborts + 1 } } := rfl
  rw [hrun, withSession_of_some (s := { s with
    counts := { s.counts with aborts := s.counts.aborts + 1 } }) hs]
  exact ⟨rfl, rfl⟩

theorem deregister_eq (hs : s.sessions.get? h = some session) :
    (deregister h s).1 = .ok () ∧ (deregister h s).2.sessions =
      s.sessions.modify h fun session => { session with registration := none } := by
  have hrun : deregister h s = withSession h _ { s with
    counts := { s.counts with deregisters := s.counts.deregisters + 1 } } := rfl
  rw [hrun, withSession_of_some (s := { s with
    counts := { s.counts with deregisters := s.counts.deregisters + 1 } }) hs]
  exact ⟨rfl, rfl⟩

theorem close_of_open (hs : s.sessions.get? h = some session) :
    close h s = (.ok (), { s with
      counts := { s.counts with closes := s.counts.closes + 1 }
      sessions := s.sessions.erase h }) := by
  have hrun : close h s = withSession h _ { s with
    counts := { s.counts with closes := s.counts.closes + 1 } } := rfl
  rw [hrun, withSession_of_some (s := { s with
    counts := { s.counts with closes := s.counts.closes + 1 } }) hs]
  rfl

end Simulator

/-! ## Before the camera is started -/

/-- Nobody has been registered yet. -/
structure Unopened (b : SimulatorBehavior) (s : RunState Simulation) : Prop where
  behavior : s.rig.camera.behavior = b
  registered : s.registered = false
  unheard : signals s.mailboxEvents = []

/-- The camera `h` is open with this session, and no acquisition runs. -/
structure Idle (b : SimulatorBehavior) (h : Handle) (session : CameraSession)
    (context : Custody Handler) (registered : Bool) (s : RunState Simulation) : Prop where
  handle : s.rig.handle = some h
  behavior : s.rig.camera.behavior = b
  opened : s.rig.camera.sessions.get? h = some session
  idle : session.acquisition = none
  context : s.context = context
  registered : s.registered = registered
  unheard : signals s.mailboxEvents = []

section Watches

variable {pace : Pace} {allocator : Allocator} {b : SimulatorBehavior} {h : Handle}
  {session : CameraSession} {context : Custody Handler} {registered : Bool}
  {s s' : RunState Simulation}

theorem Simulation.behavior_tick (s : Simulation) :
    (tick s).2.camera.behavior = s.camera.behavior := by
  cases hh : s.handle with
  | none =>
    obtain ⟨camera, faults, handle, epoch, clock, moments, acquiringAtClose⟩ := s
    obtain rfl : handle = none := hh
    rfl
  | some h =>
    rw [tick_of_handle hh]
    exact Simulator.tick_behavior h s.camera

theorem Unopened.agree (hu : Unopened b s) (hs : s.Agrees s') : Unopened b s' where
  behavior := by rw [hs.camera]; exact hu.behavior
  registered := hs.registered.trans hu.registered
  unheard := hs.signals.trans hu.unheard

theorem Unopened.turn (hu : Unopened b s) {x : Simulation} (hx : x.camera.behavior = b) :
    Unopened b { s with rig := x } := ⟨hx, hu.registered, hu.unheard⟩

theorem Unopened.tick (hu : Unopened b s) :
    Unopened b (Act.deliverTick (Simulation.rig pace allocator) s).2 := by
  rw [Act.deliverTick_of_unregistered (Simulation.rig pace allocator) s hu.registered]
  exact hu.turn ((Simulation.behavior_tick s.rig).trans hu.behavior)

theorem Unopened.watches (hu : Unopened b s)
    (hs : ReflTransGen (WatchMove (Simulation.rig pace allocator)) s s') : Unopened b s' :=
  keeps_of_tick (fun _ _ hagrees hu => hu.agree hagrees) (fun _ hu => hu.tick) hs hu

theorem Idle.agree (hi : Idle b h session context registered s) (hs : s.Agrees s') :
    Idle b h session context registered s' where
  handle := hs.handle.trans hi.handle
  behavior := by rw [hs.camera]; exact hi.behavior
  opened := by rw [hs.camera]; exact hi.opened
  idle := hi.idle
  context := hs.context.trans hi.context
  registered := hs.registered.trans hi.registered
  unheard := hs.signals.trans hi.unheard

/-- A frame period that finds no acquisition changes nothing. -/
theorem Act.deliverTick_of_idle (hhandle : s.rig.handle = some h)
    (hopened : s.rig.camera.sessions.get? h = some session) (hidle : session.acquisition = none) :
    (deliverTick (Simulation.rig pace allocator) s).2 = s := by
  have hrun : Simulation.tick s.rig = (none, s.rig) := by
    rw [Simulation.tick_of_handle hhandle, Simulator.tick_of_idle hopened hidle]
    rfl
  have hnone : ((Simulation.rig pace allocator).tick s.rig).1 = none := congrArg Prod.fst hrun
  rw [deliverTick_of_none _ _ hnone]
  show { s with rig := (Simulation.tick s.rig).2 } = s
  rw [hrun]

theorem Idle.tick (hi : Idle b h session context registered s) :
    Idle b h session context registered
      (Act.deliverTick (Simulation.rig pace allocator) s).2 := by
  rw [Act.deliverTick_of_idle hi.handle hi.opened hi.idle]
  exact hi

theorem Idle.watches (hi : Idle b h session context registered s)
    (hs : ReflTransGen (WatchMove (Simulation.rig pace allocator)) s s') :
    Idle b h session context registered s' :=
  keeps_of_tick (fun _ _ hagrees hi => hi.agree hagrees) (fun _ hi => hi.tick) hs hi

end Watches

/-! ## The steps of setup -/

namespace Setup

/-- A call that answers takes what holds before it to what holds after it, if a watch keeps both. -/
theorem answers_of_effect {σ α : Type} {rig : Rig σ} {stage : SetupStage} {c : CameraCall}
    {effect : StateM σ (Except CameraError α)} {s : RunState σ}
    (I : RunState σ → Prop) {Q : α → RunState σ → Prop}
    (hc : (RunStep.noted (.call c)).isOwn = true)
    (keepI : ∀ s s', ReflTransGen (WatchMove rig) s s' → I s → I s')
    (heffect : ∀ s a, I s → (effect s.rig).1 = .ok a → Q a { s with rig := (effect s.rig).2 })
    (keepQ : ∀ a s s', ReflTransGen (WatchMove rig) s s' → Q a s → Q a s') (hs : I s) :
    Answers (call rig stage c effect) s Q := by
  have hcall := Act.call_of_effect rig I (fun answer s' => ∀ a, answer = .ok a → Q a s') hc keepI
    (fun s hI a ha => heffect s a hI ha) (fun _ s s' hs h a ha => keepQ a s s' hs (h a ha)) hs
  exact answers_call fun a ha => hcall a ha

end Setup

namespace Simulation

open Setup

variable {pace : Pace} {allocator : Allocator} {b : SimulatorBehavior} {h : Handle}
  {session : CameraSession} {context : Custody Handler} {s : RunState Simulation}
  (settings : RunSettings)

theorem openCamera_eq (name : String) (x : Simulation) :
    openCamera name x = ((Simulator.openCamera name x.camera).1,
      { x with
        camera := (Simulator.openCamera name x.camera).2
        handle := (Simulator.openCamera name x.camera).1.toOption.or x.handle }) := by
  cases hopen : Simulator.openCamera name x.camera with
  | mk answer camera =>
    simp only [openCamera, ask, bind, StateT.bind, hopen]
    cases answer <;> rfl

theorem openCamera_of_ok {x : Simulation} {name : String} (hok : (openCamera name x).1 = .ok h) :
    (openCamera name x).2.handle = some h ∧
      (openCamera name x).2.camera.behavior = x.camera.behavior ∧
      (openCamera name x).2.camera.sessions.get? h = some .fresh := by
  rw [openCamera_eq] at hok ⊢
  obtain ⟨hbehavior, hopened⟩ := Simulator.openCamera_of_ok hok
  dsimp only at hok ⊢
  exact ⟨by rw [hok]; rfl, hbehavior, hopened⟩

theorem openCamera_answers (hu : Unopened b s) :
    Answers (Setup.openCamera (rig pace allocator) settings) s fun h s' =>
      ∃ context, Idle b h .fresh context false s' := by
  refine Answers.bind (Q := fun h s' => ∃ context, Idle b h .fresh context false s')
    (answers_of_effect (Unopened b) rfl (fun _ _ hs hu => hu.watches hs) (fun s h hu hok => ?_)
      (fun h _ _ hs ⟨context, hi⟩ => ⟨context, hi.watches hs⟩) hu) fun h s' ⟨context, hi⟩ => ?_
  · obtain ⟨hhandle, hbehavior, hopened⟩ := openCamera_of_ok hok
    exact ⟨s.context, hhandle, hbehavior.trans hu.behavior, hopened, rfl, rfl, hu.registered,
      hu.unheard⟩
  · refine Answers.bind (Q := fun _ s' => Idle b h .fresh context false s')
      (answers_sure ?_) fun _ s' hi => answers_pure ⟨context, hi⟩
    exact hi.agree ⟨rfl, rfl, rfl, rfl, (s'.agrees_log _).signals⟩

theorem selectMode_answers (hi : Idle b h .fresh context false s) :
    Answers (Setup.call (rig pace allocator) .selectExposureMode
      (.selectMode h settings.exposureMode)
      ((rig pace allocator).selectMode h settings.exposureMode)) s fun _ s' =>
        Idle b h .fresh context false s' := by
  refine answers_of_effect (Idle b h .fresh context false) rfl (fun _ _ hs hi => hi.watches hs)
    (fun s mode hi hok => ?_) (fun _ _ _ hs hi => hi.watches hs) hi
  have hsame := Simulator.selectMode_of_ok hi.opened hok
  show Idle b h .fresh context false (s.turned (Simulator.selectMode h _ s.rig.camera).2)
  rw [hsame]
  exact hi

theorem configure_answers (hi : Idle b h .fresh context false s) :
    Answers (Setup.configure (rig pace allocator) settings h) s fun bytes s' =>
      bytes = b.frameBytes.getD settings.region.frameBytes ∧
        Idle b h { CameraSession.fresh with frameBytes := some bytes } context false s' := by
  refine (selectMode_answers settings hi).bind fun mode s₁ hi₁ => ?_
  refine Answers.bind (Q := fun bytes s' => bytes = b.frameBytes.getD settings.region.frameBytes ∧
      Idle b h { CameraSession.fresh with frameBytes := some bytes } context false s')
    (answers_of_effect (Idle b h .fresh context false) rfl (fun _ _ hs hi => hi.watches hs)
      (fun s bytes hi hok => ?_) (fun _ _ _ hs ⟨hbytes, hi⟩ => ⟨hbytes, hi.watches hs⟩) hi₁)
    fun bytes s₂ ⟨hbytes, hi₂⟩ => ?_
  · obtain ⟨hbytes, hbehavior, hopened⟩ := Simulator.configure_of_ok hi.opened hok
    rw [hi.behavior] at hbytes
    exact ⟨hbytes, hi.handle, hbehavior.trans hi.behavior, hopened, rfl, hi.context, hi.registered,
      hi.unheard⟩
  · refine Answers.bind
      (Q := fun _ s' =>
        Idle b h { CameraSession.fresh with frameBytes := some bytes } context false s')
      (answers_sure ?_) fun _ s' hi => answers_pure ⟨hbytes, hi⟩
    exact (hi₂.agree (s₂.agrees_log _)).agree (RunState.agrees_enter _ _)

/-- Memory for the buffer is what the allocator grants. -/
theorem reserve_eq (pace : Pace) (allocator : Allocator) (x : Simulation) (bytes : ℕ) :
    (rig pace allocator).reserve bytes x = (allocator bytes, (allocator bytes).elim x fun base =>
      { x with camera := { x.camera with memory := x.camera.memory.clear base bytes } }) := by
  dsimp only [rig]
  cases allocator bytes <;> rfl

/-- Memory for the buffer changes nothing about the sessions. -/
theorem reserve_keeps (pace : Pace) (allocator : Allocator) (x : Simulation) (bytes : ℕ) :
    ((rig pace allocator).reserve bytes x).2.handle = x.handle ∧
      ((rig pace allocator).reserve bytes x).2.camera.behavior = x.camera.behavior ∧
      ((rig pace allocator).reserve bytes x).2.camera.sessions = x.camera.sessions := by
  rw [reserve_eq]
  cases allocator bytes <;> exact ⟨rfl, rfl, rfl⟩

theorem reserve_idle (hi : Idle b h session context false s) (frameBytes : ℕ) :
    Idle b h session context false
      (Setup.reserve (rig pace allocator) settings frameBytes s).2 := by
  unfold Setup.reserve
  cases FrameBuffer.checkSize frameBytes settings.bufferFrames settings.bufferLimit with
  | error e => exact hi
  | ok total =>
    obtain ⟨hhandle, hbehavior, hsessions⟩ :=
      reserve_keeps pace allocator s.rig total
    refine ⟨hhandle.trans hi.handle, hbehavior.trans hi.behavior, ?_, hi.idle, hi.context,
      hi.registered, hi.unheard⟩
    exact (congrArg (SessionTable.get? · h) hsessions).trans hi.opened

theorem allocate_answers (hi : Idle b h session context false s) (frameBytes : ℕ) :
    Answers (Setup.allocate (rig pace allocator) settings h frameBytes) s fun buffer s' =>
      Idle b h session (.held (.ofBuffer h buffer)) false s' := by
  refine Answers.bind (Q := fun _ s' => Idle b h session context false s')
    (answers_sure (reserve_idle settings hi frameBytes)) fun base s₁ hi₁ => ?_
  cases FrameBuffer.allocate (fun _ => base) frameBytes settings.bufferFrames
      settings.bufferLimit with
  | error e => exact fun _ ha => by cases ha
  | ok buffer =>
    refine Answers.bind (Q := fun _ s' => Idle b h session (.held (.ofBuffer h buffer)) false s')
      (answers_sure ?_) fun _ s' hi => answers_pure hi
    have hlogged := hi₁.agree (s₁.agrees_log (.bufferAllocated buffer))
    exact ⟨hlogged.handle, hlogged.behavior, hlogged.opened, hlogged.idle, rfl,
      hlogged.registered, hlogged.unheard⟩

theorem register_answers (hi : Idle b h session context false s) :
    Answers (Setup.register (rig pace allocator) h) s fun _ s' =>
      Idle b h { session with registration := some 0 } context true s' := by
  refine Answers.bind (Q := fun _ s' =>
    Idle b h { session with registration := some 0 } context false s')
    (answers_of_effect (Idle b h session context false) rfl (fun _ _ hs hi => hi.watches hs)
      (fun s _ hi hok => ?_) (fun _ _ _ hs hi => hi.watches hs) hi) fun _ s₁ hi₁ => ?_
  · obtain ⟨hbehavior, hopened⟩ := Simulator.register_of_ok hi.opened hok
    exact ⟨hi.handle, hbehavior.trans hi.behavior, hopened, hi.idle, hi.context, hi.registered,
      hi.unheard⟩
  · exact answers_sure ⟨hi₁.handle, hi₁.behavior, hi₁.opened, hi₁.idle, hi₁.context, rfl,
      hi₁.unheard⟩

/-- The run follows the camera from the moment that it is started. -/
theorem start_answers {handler : Handler} (hcontext : context.live? = some handler)
    (hcamera : handler.camera = h) (hreg : session.registration.isSome = true)
    (hi : Idle b h session context true s) (buffer : FrameBuffer) :
    Answers (Setup.start (rig pace allocator) settings h buffer) s fun _ s' =>
      ∃ n, Follows b h n s' := by
  refine Answers.bind (Q := fun _ s' => Idle b h session context true s')
    (answers_sure hi) fun now s₁ hi₁ => ?_
  refine Answers.bind (Q := fun _ s' => ∃ n, Follows b h n s')
    (answers_of_effect (Idle b h session context true) rfl (fun _ _ hs hi => hi.watches hs)
      (fun s _ hi hok => ?_) (fun _ _ _ hs ⟨n, hf⟩ => hf.watches hs) hi₁)
    fun _ s₂ ⟨n, hf⟩ => ?_
  · obtain ⟨hbehavior, hrunning⟩ := Simulator.start_of_ok hi.opened hreg hok
    refine ⟨0, hi.handle, hbehavior.trans hi.behavior, hi.registered, ⟨handler, ?_, hcamera⟩,
      hrunning, .zero, ?_⟩
    · exact (congrArg Custody.live? hi.context).trans hcontext
    · rw [SimulatorBehavior.heardTo_zero]
      exact congrArg (List.map FrameDescriptor.told) hi.unheard
  · refine Answers.bind (Q := fun _ s' => Follows b h n s') (answers_sure ?_)
      fun _ s' hf => answers_pure ⟨n, hf⟩
    exact hf.agree (s₂.agrees_log _)

/-- Where setup succeeds, the run follows the camera. -/
theorem steps_answers (hu : Unopened b s) :
    Answers (Setup.steps (rig pace allocator) settings) s fun _ s' =>
      ∃ h n, Follows b h n s' := by
  refine (openCamera_answers settings hu).bind fun h s₁ ⟨context, h₁⟩ => ?_
  refine (configure_answers settings h₁).bind fun frameBytes s₂ ⟨_, h₂⟩ => ?_
  refine (allocate_answers settings h₂ frameBytes).bind fun buffer s₃ h₃ => ?_
  refine (register_answers h₃).bind fun _ s₄ h₄ => ?_
  have hlive : (Custody.held (Handler.ofBuffer h buffer)).live? = some (.ofBuffer h buffer) := rfl
  exact fun began hok => ⟨h, start_answers settings hlive rfl rfl h₄ buffer began hok⟩

end Simulation

end FrameWatch
