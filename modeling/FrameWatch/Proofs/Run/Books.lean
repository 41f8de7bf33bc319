import FrameWatch.Proofs.Run.Protocol
import FrameWatch.Proofs.Run.SideBySide

/-!
# The books of a run

What a rig has been through can be told from the calls of a run and from how they were answered, if
every single call keeps the books: `Rig.Books` says what that takes of each question to the rig, and
`Runner.books` that a whole run then keeps them, from no entry and no open camera to all its calls
and, again, no open camera.
-/

namespace FrameWatch

open Act (failure? callSteps)
open Relation (ReflTransGen)
open Setup (Answers ends_bind call_state)

variable {σ α : Type}

/-- Calls that have returned, in order, each with its error if it failed. -/
abbrev Entries : Type := List (CameraCall × Option CameraError)

/-- What books tell: about the camera that is open, the entries and the state of the rig. -/
abbrev BookRule (σ : Type) : Type := Option Handle → Entries → σ → Prop

/-- The call keeps the books: before it `camera` is open, afterwards what its answer says. -/
def BookRule.Posts (P : BookRule σ) (camera : Option Handle)
    (after : Except CameraError α → Option Handle) (c : CameraCall)
    (effect : StateM σ (Except CameraError α)) : Prop :=
  ∀ entries x, P camera entries x →
    P (after (effect x).1) (entries ++ [(c, failure? (effect x).1)]) (effect x).2

/-- A question that is no entry does not disturb the books. -/
def BookRule.Spares (P : BookRule σ) (question : StateM σ α) : Prop :=
  ∀ camera entries x, P camera entries x → P camera entries (question x).2

/-- Every question of a run to the rig keeps the books. -/
structure Rig.Books (rig : Rig σ) (P : BookRule σ) : Prop where
  openCamera : ∀ name, P.Posts none Except.toOption (.openCamera name) (rig.openCamera name)
  selectMode : ∀ h mode,
    P.Posts (some h) (fun _ => some h) (.selectMode h mode) (rig.selectMode h mode)
  configure : ∀ h region mode ms policy, P.Posts (some h) (fun _ => some h)
    (.configure h region mode ms policy) (rig.configure h region mode ms policy)
  register : ∀ h, P.Posts (some h) (fun _ => some h) (.register h) (rig.register h)
  start : ∀ h buffer,
    P.Posts (some h) (fun _ => some h) (.start h buffer.size) (rig.start h buffer)
  abort : ∀ h, P.Posts (some h) (fun _ => some h) (.abort h) (rig.abort h)
  deregister : ∀ h, P.Posts (some h) (fun _ => some h) (.deregister h) (rig.deregister h)
  close : ∀ h, P.Posts (some h) (fun _ => none) (.close h) (rig.close h)
  fetch : ∀ h, P.Spares (rig.fetch h)
  lastError : P.Spares rig.lastError
  reserve : ∀ bytes, P.Spares (rig.reserve bytes)
  arrivals : ∀ m, P.Spares (rig.arrivals m)
  tick : P.Spares rig.tick

/-- The books are right about the run in `s`, if `camera` is open. -/
def RunState.Entered (P : BookRule σ) (camera : Option Handle) (s : RunState σ) : Prop :=
  P camera (answers s.trail) s.rig

/-- The books are right about the run in `s`, in which `camera` is open. -/
structure RunState.Booked (P : BookRule σ) (camera : Option Handle) (s : RunState σ) : Prop where
  held : s.camera = camera
  entered : s.Entered P camera

/-! ## Steps that are no entries -/

namespace RunState

variable {P : BookRule σ} {camera : Option Handle} {s s' : RunState σ}

/-- Steps that answer no call make no difference. -/
theorem Entered.did {steps : List RunStep} (h : s.Entered P camera) (hrig : s'.rig = s.rig)
    (htrail : s'.trail = s.trail ++ steps) (hsteps : answers steps = []) :
    s'.Entered P camera := by
  unfold Entered
  rw [htrail, answers_append, hsteps, List.append_nil, hrig]
  exact h

theorem Booked.did {steps : List RunStep} (h : s.Booked P camera) (hrig : s'.rig = s.rig)
    (hcamera : s'.camera = s.camera) (htrail : s'.trail = s.trail ++ steps)
    (hsteps : answers steps = []) : s'.Booked P camera :=
  ⟨hcamera.trans h.held, h.entered.did hrig htrail hsteps⟩

theorem Entered.log (h : s.Entered P camera) (e : RunEvent) :
    (Act.log e s).2.Entered P camera :=
  h.did rfl (congrArg Standing.trail (Act.standing_log s e)) rfl

theorem Booked.log (h : s.Booked P camera) (e : RunEvent) : (Act.log e s).2.Booked P camera :=
  ⟨h.held, h.entered.log e⟩

theorem Booked.enter (h : s.Booked P camera) (p : Phase) : (Act.enter p s).2.Booked P camera :=
  ⟨h.held, (h.entered.log (.transition s.phase p)).did rfl (List.append_nil _).symm rfl⟩

end RunState

namespace Rig.Books

variable {rig : Rig σ} {P : BookRule σ} {camera : Option Handle} {h : Handle} {s s' : RunState σ}
  (hP : rig.Books P) (settings : RunSettings)

include hP

/-! ## Calls, and what comes in meanwhile -/

/-- What can happen while the run asks nothing of the camera keeps the books about its rig. -/
theorem watches {entries : Entries} (hs : ReflTransGen (WatchMove rig) s s')
    (h : P camera entries s.rig) : P camera entries s'.rig := by
  induction hs with
  | refl => exact h
  | @tail s₁ _ _ hmove ih =>
    cases hmove with
    | arrive m => exact hP.arrivals m _ _ _ ih
    | did e hown hwait => exact ih
    | take => exact ih
    | tick =>
      have hticked := hP.tick _ _ _ ih
      cases ht : (rig.tick s₁.rig).1 with
      | none => rw [Act.deliverTick_of_none rig s₁ ht]; exact hticked
      | some n =>
        rw [Act.deliverTick_of_some rig s₁ ht]
        rcases Act.receive_cases rig { s₁ with rig := (rig.tick s₁.rig).2 } n with
          ⟨-, h⟩ | ⟨-, -, h⟩ | ⟨handler, info, -, -, -, -, h⟩
        · rw [h]; exact hticked
        · rw [h]; exact hticked
        · rw [h]; exact hP.fetch handler.camera _ _ _ hticked

/-- A call is entered once it has returned. -/
theorem posted {c : CameraCall} {effect : StateM σ (Except CameraError α)}
    {after : Except CameraError α → Option Handle} (hc : (RunStep.noted (.call c)).isOwn = true)
    (heffect : P.Posts camera after c effect) (hs : s.Entered P camera) :
    (Act.call rig c effect s).2.Entered P (after (Act.call rig c effect s).1) ∧
      (Act.call rig c effect s).2.camera = s.camera := by
  have hst := Act.standing_call rig s c effect hc
  have hanswers : answers (Act.call rig c effect s).2.trail =
      answers s.trail ++ [(c, failure? (Act.call rig c effect s).1)] := by
    have htrail : (Act.call rig c effect s).2.trail = s.trail ++ callSteps c _ :=
      congrArg Standing.trail hst
    rw [htrail, answers_append]
    rfl
  refine ⟨?_, congrArg Standing.camera hst⟩
  unfold RunState.Entered
  rw [hanswers]
  exact Act.call_of_effect rig (fun s' => P camera (answers s.trail) s'.rig)
    (fun answer s' => P (after answer) (answers s.trail ++ [(c, failure? answer)]) s'.rig) hc
    (fun _ _ h hs => hP.watches h hs) (fun s' hs => heffect _ s'.rig hs)
    (fun _ _ _ h hs => hP.watches h hs) hs

theorem call {c : CameraCall} {effect : StateM σ (Except CameraError α)}
    (hc : (RunStep.noted (.call c)).isOwn = true)
    (heffect : P.Posts camera (fun _ => camera) c effect) (hs : s.Booked P camera) :
    (Act.call rig c effect s).2.Booked P camera :=
  have hposted := hP.posted hc heffect hs.entered
  ⟨hposted.2.trans hs.held, hposted.1⟩

/-! ## Setup -/

/-- The open camera is the one that setup goes on with. -/
theorem openCamera_booked (hs : s.Booked P none) :
    (Setup.openCamera rig settings s).2.Booked P (Setup.openCamera rig settings s).1.toOption := by
  obtain ⟨hposted, hcamera⟩ := hP.posted (c := .openCamera settings.camera) rfl
    (hP.openCamera settings.camera) hs.entered
  unfold Setup.openCamera
  cases hopen : (Act.call rig (.openCamera settings.camera) (rig.openCamera settings.camera) s).1
  with
  | error e =>
    rw [hopen] at hposted
    rw [Setup.bind_of_error (by rw [Setup.call_of_error hopen]), Setup.call_state]
    exact ⟨hcamera.trans hs.held, hposted⟩
  | ok h =>
    rw [hopen] at hposted
    rw [Setup.bind_of_ok (a := h) (by rw [Setup.call_of_ok hopen]), Setup.call_state]
    by_cases hlog : rig.logsOpening = true
    · rw [if_pos hlog]
      exact ⟨rfl, (hposted.log (.cameraOpened settings.camera h)).did rfl
        (List.append_nil _).symm rfl⟩
    · rw [if_neg hlog]
      exact ⟨rfl, hposted.did rfl (List.append_nil _).symm rfl⟩

/-- A call of setup leaves the camera open, whichever way it is answered. -/
theorem setup_call {stage : SetupStage} {c : CameraCall}
    {effect : StateM σ (Except CameraError α)} (hc : (RunStep.noted (.call c)).isOwn = true)
    (heffect : P.Posts camera (fun _ => camera) c effect) (hs : s.Booked P camera) :
    (Setup.call rig stage c effect s).2.Booked P camera := by
  rw [call_state]
  exact hP.call hc heffect hs

theorem configure_booked (hs : s.Booked P (some h)) :
    (Setup.configure rig settings h s).2.Booked P (some h) :=
  ends_bind (hP.setup_call rfl (hP.selectMode h settings.exposureMode) hs) fun mode _ hs =>
    ends_bind (hP.setup_call rfl (hP.configure h _ mode _ _) hs) fun bytes _ hs =>
      ends_bind ((hs.log (.configured mode bytes)).enter .configured) fun _ _ hs => hs

theorem reserve_booked (frameBytes : ℕ) (hs : s.Booked P camera) :
    (Setup.reserve rig settings frameBytes s).2.Booked P camera := by
  unfold Setup.reserve
  cases FrameBuffer.checkSize frameBytes settings.bufferFrames settings.bufferLimit with
  | error e => exact hs
  | ok total => exact ⟨hs.held, hP.reserve total _ _ _ hs.entered⟩

theorem allocate_booked (frameBytes : ℕ) (hs : s.Booked P (some h)) :
    (Setup.allocate rig settings h frameBytes s).2.Booked P (some h) := by
  refine ends_bind (hP.reserve_booked settings frameBytes hs) fun base s₁ hs₁ => ?_
  cases FrameBuffer.allocate (fun _ => base) frameBytes settings.bufferFrames
      settings.bufferLimit with
  | error e => exact hs₁
  | ok buffer =>
    exact ends_bind ((hs₁.log (.bufferAllocated buffer)).did rfl rfl (List.append_nil _).symm rfl)
      fun _ _ hs => hs

theorem register_booked (hs : s.Booked P (some h)) :
    (Setup.register rig h s).2.Booked P (some h) :=
  ends_bind (hP.setup_call rfl (hP.register h) hs) fun _ _ hs =>
    hs.did rfl rfl (List.append_nil _).symm rfl

theorem start_booked (buffer : FrameBuffer) (hs : s.Booked P (some h)) :
    (Setup.start rig settings h buffer s).2.Booked P (some h) :=
  ends_bind hs fun _ _ hs => ends_bind (hP.setup_call rfl (hP.start h buffer) hs) fun _ _ hs =>
    ends_bind (hs.log (.started settings.targetFrames settings.frameDeadline buffer.size))
      fun _ _ hs => hs

theorem setup_booked (hs : s.Booked P none) :
    ∃ camera, (Setup.steps rig settings s).2.Booked P camera := by
  have hopened := hP.openCamera_booked settings hs
  refine Answers.ends (I := fun s' => ∃ camera, s'.Booked P camera)
    (Q := fun h s' => s'.Booked P (some h)) (fun h hok => ?_) ⟨_, hopened⟩ fun h s₁ hs₁ =>
      ⟨some h, ?_⟩
  · rw [hok] at hopened
    exact hopened
  · exact ends_bind (hP.configure_booked settings hs₁) fun frameBytes _ hs₂ =>
      ends_bind (hP.allocate_booked settings frameBytes hs₂) fun buffer _ hs₃ =>
        ends_bind (hP.register_booked hs₃) fun _ _ hs₄ => hP.start_booked settings buffer hs₄

/-! ## The watch -/

theorem failSetup_booked (e : SetupError) (hs : s.Booked P camera) :
    (Run.failSetup rig e s).2.Booked P camera := by
  unfold Run.failSetup
  cases e.cause with
  | camera error =>
    have hnoted : (s.note (.call .lastError)).Booked P camera :=
      hs.did rfl rfl (congrArg Standing.trail (s.standing_step_own rfl)) rfl
    have hasked : (Act.ask rig.lastError (s.note (.call .lastError))).2.Booked P camera :=
      ⟨hnoted.held, hP.lastError _ _ _ hnoted.entered⟩
    exact (hasked.log (.setupFailed e)).enter .setupFailed
  | allocation error => exact (hs.log (.setupFailed e)).enter .setupFailed

theorem frames_booked (remaining : ℕ) (last : Duration) (p : Progress) (hs : s.Booked P camera) :
    (Watch.frames rig settings remaining last p s).2.Booked P camera := by
  obtain ⟨taken, -, -, hst⟩ := Watch.frames_path rig settings s remaining last p
  -- a watch asks nothing of the camera, so none of its steps is an entry
  have hplain : Plain (takenSteps settings p.frames (taken.map Prod.fst) ++
      endSteps settings (p.frames + taken.length) (taken.length = remaining)) :=
    (plain_taken settings _ _).append (plain_end settings _ _)
  have htrail := congrArg Standing.trail hst
  refine ⟨(congrArg Standing.camera hst).trans hs.held, ?_⟩
  unfold RunState.Entered
  change (Watch.frames rig settings remaining last p s).2.trail = s.trail ++ _ at htrail
  rw [htrail, answers_append, hplain.answers_eq, List.append_nil]
  exact hP.watches (Watch.frames_watches rig settings s remaining last p) hs.entered

theorem drive_booked (hs : s.Booked P none) :
    ∃ camera, (Run.drive rig settings s).2.Booked P camera := by
  obtain ⟨camera, hsetup⟩ := hP.setup_booked settings hs
  refine ⟨camera, ?_⟩
  cases h : (Setup.steps rig settings s).1 with
  | error e =>
    rw [Run.drive_of_error rig settings s h]
    exact hP.failSetup_booked e hsetup
  | ok began =>
    rw [Run.drive_of_ok rig settings s h]
    exact (hP.frames_booked settings _ _ _ (hsetup.enter .acquiring)).enter _

/-! ## Teardown -/

/-- A call of teardown is entered whichever way it is answered. -/
theorem attempted {after : Option Handle} {c : CameraCall}
    {effect : StateM σ (Except CameraError Unit)} (event : CameraError → RunEvent)
    (hc : (RunStep.noted (.call c)).isOwn = true)
    (heffect : P.Posts camera (fun _ => after) c effect) (hs : s.Entered P camera) :
    (Teardown.attempt rig c effect event s).2.Entered P after ∧
      (Teardown.attempt rig c effect event s).2.camera = s.camera := by
  obtain ⟨hposted, hcamera⟩ := hP.posted hc heffect hs
  rw [Teardown.attempt_eq]
  cases (Act.call rig c effect s).1 with
  | ok => exact ⟨hposted, hcamera⟩
  | error e => exact ⟨hposted.log (event e), hcamera⟩

theorem abort_booked (hs : s.Booked P camera) : (Teardown.abort rig s).2.Booked P camera := by
  rw [Teardown.run_abort, hs.held]
  cases camera with
  | none => exact hs
  | some h =>
    obtain ⟨hentered, hcamera⟩ := hP.attempted .abortFailed rfl (hP.abort h) hs.entered
    exact ⟨hcamera.trans hs.held, hentered⟩

theorem deregister_booked (hs : s.Booked P camera) :
    (Teardown.deregister rig s).2.Booked P camera := by
  cases camera with
  | none => rw [Teardown.run_deregister, hs.held]; exact hs
  | some h =>
    cases hreg : s.registered with
    | false => rw [Teardown.deregister_of_unregistered rig s hreg]; exact hs
    | true =>
      obtain ⟨hentered, hcamera⟩ := hP.attempted .deregisterFailed rfl (hP.deregister h)
        hs.entered
      rw [Teardown.deregister_of_registered rig s hs.held hreg]
      dsimp only
      split
      · exact ⟨hcamera.trans hs.held, hentered.did rfl (List.append_nil _).symm rfl⟩
      · exact ⟨hcamera.trans hs.held, hentered⟩

omit hP in
theorem dropContext_booked (gone : Bool) (hs : s.Booked P camera) :
    (Teardown.dropContext gone s).2.Booked P camera := by
  unfold Teardown.dropContext
  rw [Act.run_bind, Act.run_get]
  cases s.context with
  | held handler =>
    cases gone with
    | true => exact hs.did rfl rfl (List.append_nil _).symm rfl
    | false => exact (hs.log .contextLeaked).did rfl rfl (List.append_nil _).symm rfl
  | _ => exact hs

omit hP in
theorem dropBuffer_booked (aborted : Bool) (hs : s.Booked P camera) :
    (Teardown.dropBuffer aborted s).2.Booked P camera := by
  unfold Teardown.dropBuffer
  rw [Act.run_bind, Act.run_get]
  cases s.buffer with
  | held buffer =>
    cases aborted with
    | true =>
      exact (hs.log (.bufferReleased buffer.size)).did rfl rfl (List.append_nil _).symm rfl
    | false =>
      exact (hs.log (.bufferLeaked buffer.size)).did rfl rfl (List.append_nil _).symm rfl
  | _ => exact hs

/-- Closing leaves no camera open, whichever way it is answered. -/
theorem close_booked (hs : s.Booked P camera) : (Teardown.close rig s).2.Booked P none := by
  rw [Teardown.run_close, hs.held]
  cases camera with
  | none => exact hs
  | some h =>
    obtain ⟨hentered, -⟩ := hP.attempted .closeFailed rfl (hP.close h) hs.entered
    exact ⟨rfl, hentered.did rfl (List.append_nil _).symm rfl⟩

theorem teardown_booked (hs : s.Booked P camera) (hdue : s.tornDown = false) :
    (Teardown.steps rig s).2.Booked P none := by
  rw [Teardown.steps_of_standing rig s hdue]
  have htorn : RunState.Booked P camera { s with tornDown := true } :=
    hs.did rfl rfl (List.append_nil _).symm rfl
  exact (hP.close_booked <| dropBuffer_booked _ <| dropContext_booked _ <|
    hP.deregister_booked <| hP.abort_booked htorn).log .tornDown

/-! ## Whole runs -/

omit hP in
theorem stop_booked (counters : HandlerCounters) (hs : s.Booked P camera) :
    (Run.stop counters s).2.Booked P camera := by
  unfold Run.stop
  rw [Act.run_bind]
  split
  · exact (hs.enter .stopped).log _
  · exact hs.enter .stopped

end Rig.Books

/-- **The books of a run.** Books that every question to the rig keeps are right about the whole
run: about its calls, how they were answered, and a rig whose camera is not open any more. -/
theorem Runner.books {rig : Rig σ} {P : BookRule σ} (hP : rig.Books P) (r : Runner σ) (number : ℕ)
    (hr : P none [] r.rig) :
    P none (answers (r.run rig number).2.1.past.toList) (r.run rig number).2.2.rig := by
  set s₀ := RunState.initial r.rig r.mailbox.reset with hs₀
  have hstart : s₀.Booked P none := ⟨rfl, hr⟩
  obtain ⟨path, taken, f, hcourse⟩ := r.run_course rig number
  have hdue : (Run.drive rig r.settings s₀).2.tornDown = false :=
    (congrArg Standing.tornDown hcourse.driven).trans (path.tornDown_driven _ _ _)
  obtain ⟨camera, hdriven⟩ := hP.drive_booked r.settings hstart
  have hended := Rig.Books.stop_booked
    (Teardown.steps rig (Run.drive rig r.settings s₀).2).1.1 (hP.teardown_booked hdriven hdue)
  have hstate : (r.run rig number).2.1 = _ := (r.run_eq_observe rig number).2
  have hentered : (r.run rig number).2.1.Entered P none := by
    rw [hstate]
    exact hended.entered
  rw [← RunState.answers_trail]
  exact hentered

end FrameWatch
