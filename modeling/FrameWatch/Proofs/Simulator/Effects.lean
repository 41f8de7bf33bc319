import FrameWatch.Proofs.Simulator.Books

/-!
# What a call comes to

Every call to the simulated camera is refused for one of a few reasons, or does one thing.

1. `Simulator.Call` and `Simulator.Answer` are the calls with all that is passed along, and what can
   be answered.
2. `Simulator.Refusal`: the reasons for which a call is refused, each with its error.
3. `Simulator.Effect`: a call that is refused leaves nothing but its error behind, and every other
   call makes one change. The exception is a start that finds no thread: it is refused after it has
   emptied the ready queue.
4. `Simulator.Call.effect`: no call does anything else.
-/

namespace FrameWatch

theorem SessionTable.modify_modify (t : SessionTable) (h : Handle)
    (f g : CameraSession → CameraSession) :
    (t.modify h f).modify h g = t.modify h fun session => g (f session) := by
  unfold modify
  rw [List.map_map]
  refine List.map_congr_left fun entry _ => ?_
  by_cases hkey : entry.1 = h <;> simp [hkey]

namespace Simulator

/-- A call to the camera, with all that is passed along. -/
inductive Call
  | openCamera (name : String)
  | close (h : Handle)
  | selectMode (h : Handle) (mode : ExposureMode)
  | configure (h : Handle) (region : Region) (mode : NegotiatedMode) (exposureMs : ℕ)
      (policy : BufferPolicy)
  | register (h : Handle) (token : ℕ)
  | deregister (h : Handle)
  | start (h : Handle) (base : Option ℕ) (size : ℕ)
  | abort (h : Handle)
  | fetch (h : Handle)
deriving DecidableEq

/-- How a call is answered. -/
inductive Answer
  | opened (h : Handle)
  | negotiated (mode : NegotiatedMode)
  | agreed (frameBytes : ℕ)
  | fetched (frame : LatestFrame)
  | done
  | failed (e : CameraError)
deriving DecidableEq

/-- The answer to a call whose success is told in this way. -/
def answered {α : Type} (success : α → Answer) (call : Action (Reply α)) : Action Answer := fun s =>
  match call s with
  | (.ok a, s) => (success a, s)
  | (.error e, s) => (.failed e, s)

namespace Call

/-- The call is made. -/
def perform : Call → Action Answer
  | openCamera name => answered .opened (Simulator.openCamera name)
  | close h => answered (fun _ => .done) (Simulator.close h)
  | selectMode h mode => answered .negotiated (Simulator.selectMode h mode)
  | configure h region _ _ _ => answered .agreed (Simulator.configure h region)
  | register h token => answered (fun _ => .done) (Simulator.register h token)
  | deregister h => answered (fun _ => .done) (Simulator.deregister h)
  | start h base size => answered (fun _ => .done) (Simulator.start h base size)
  | abort h => answered (fun _ => .done) (Simulator.abort h)
  | fetch h => answered .fetched (Simulator.fetch h)

/-- The call as a record shows it. -/
def shown : Call → CameraCall
  | openCamera name => .openCamera name
  | close h => .close h
  | selectMode h mode => .selectMode h mode
  | configure h region mode exposureMs policy => .configure h region mode exposureMs policy
  | register h _ => .register h
  | deregister h => .deregister h
  | start h _ size => .start h size
  | abort h => .abort h
  | fetch h => .fetch h

/-- The handle that the call is made with. -/
def handle? : Call → Option Handle
  | openCamera _ => none
  | close h | selectMode h _ | configure h .. | register h _ | deregister h | start h .. | abort h
  | fetch h => some h

/-- The stage of setup that the call belongs to. -/
def stage? : Call → Option SetupStage
  | openCamera _ => some .openDevice
  | selectMode .. => some .selectExposureMode
  | configure .. => some .setupAcquisition
  | register .. => some .registerCallback
  | start .. => some .startAcquisition
  | close _ | deregister _ | abort _ | fetch _ => none

end Call

/-- The camera with a call counted. -/
def counting (s : Simulator) (c : Call) : Simulator := { s with counts := s.counts.made c.shown }

/-- The failure of a start that finds no thread. -/
def noThread : CameraError :=
  ⟨invalidState, "Failed to spawn notification thread: Resource temporarily unavailable "
    ++ "(os error 11)"⟩

/-- Why a call is refused, and with which error. -/
inductive Refusal (s : Simulator) : Call → CameraError → Prop
  /-- The behaviour asks for it. -/
  | injected {c : Call} {stage : SetupStage} (hc : c.stage? = some stage)
      (hstage : s.behavior.failStage = some stage) :
      Refusal s c ⟨injectedFailure, "Mock failure injected at " ++ stage.name⟩
  | notFound {name : String} (hname : s.behavior.cameras.contains name = false) :
      Refusal s (.openCamera name) ⟨invalidArgument, "Camera '" ++ name ++ "' not found"⟩
  | notOpen {c : Call} {h : Handle} (hc : c.handle? = some h) (hs : s.sessions.get? h = none) :
      Refusal s c ⟨unknownHandle, "Camera handle " ++ toString h.raw ++ " is not open"⟩
  | badRegion {h : Handle} {region : Region} {mode : NegotiatedMode} {exposureMs : ℕ}
      {policy : BufferPolicy} (hregion : region.isValid = false) :
      Refusal s (.configure h region mode exposureMs policy)
        ⟨invalidArgument, "Invalid region " ++ region.describe⟩
  | running {h : Handle} {base : Option ℕ} {size : ℕ} {session : CameraSession}
      (hs : s.sessions.get? h = some session) (hrunning : session.acquisition.isSome = true) :
      Refusal s (.start h base size) ⟨invalidState, "Acquisition already running"⟩
  | notConfigured {h : Handle} {base : Option ℕ} {size : ℕ} {session : CameraSession}
      (hs : s.sessions.get? h = some session) (hbytes : session.frameBytes = none) :
      Refusal s (.start h base size) ⟨invalidState, "Continuous acquisition not set up"⟩
  | badBuffer {h : Handle} {base : Option ℕ} {size bytes : ℕ} {session : CameraSession}
      (hs : s.sessions.get? h = some session) (hbytes : session.frameBytes = some bytes)
      (hbuffer : base = none ∨ bytes = 0 ∨ size < bytes) :
      Refusal s (.start h base size) ⟨invalidArgument, "Buffer of " ++ toString size
        ++ " bytes cannot hold a " ++ toString bytes ++ " byte frame"⟩
  | noNewFrame {h : Handle} {session : CameraSession} (hs : s.sessions.get? h = some session)
      (hqueue : session.queue.latest = none ∨ session.queue.pending = 0) :
      Refusal s (.fetch h) ⟨Simulator.noNewFrame, "No new frame available"⟩
  | unfetchable {h : Handle} {session : CameraSession} {latest : LatestFrame}
      (hs : s.sessions.get? h = some session) (hlatest : session.queue.latest = some latest)
      (hnumber : s.behavior.failFetchOn.contains latest.info.number = true) :
      Refusal s (.fetch h)
        ⟨fetchFailed, "Injected fetch failure on frame " ++ toString latest.info.number⟩

/-- `Effect s c answer s'`: the call `c` takes the camera from `s` to `s'`, and is answered so. -/
inductive Effect (s : Simulator) : Call → Answer → Simulator → Prop
  | refused {c : Call} {e : CameraError} (h : Refusal s c e) :
      Effect s c (.failed e) { s.counting c with lastError := e }
  | opened {name : String} :
      Effect s (.openCamera name) (.opened (.ofCount s.opened))
        { s.counting (.openCamera name) with
          opened := s.opened + 1
          sessions := s.sessions.insert (.ofCount s.opened) .fresh }
  | closed {h : Handle} {session : CameraSession} (hs : s.sessions.get? h = some session) :
      Effect s (.close h) .done
        { s.counting (.close h) with sessions := s.sessions.erase h }
  | selected {h : Handle} {mode : ExposureMode} {session : CameraSession}
      (hs : s.sessions.get? h = some session) :
      Effect s (.selectMode h mode)
        (.negotiated ⟨mode, mode.raw?.getD s.behavior.defaultExposureMode⟩)
        (s.counting (.selectMode h mode))
  | configured {h : Handle} {region : Region} {mode : NegotiatedMode} {exposureMs : ℕ}
      {policy : BufferPolicy} {bytes : ℕ} {session : CameraSession}
      (hs : s.sessions.get? h = some session)
      (hbytes : bytes = s.behavior.frameBytes.getD region.frameBytes) :
      Effect s (.configure h region mode exposureMs policy) (.agreed bytes)
        { s.counting (.configure h region mode exposureMs policy) with
          sessions := s.sessions.modify h fun session =>
            { session with frameBytes := some bytes } }
  | registered {h : Handle} {token : ℕ} {session : CameraSession}
      (hs : s.sessions.get? h = some session) :
      Effect s (.register h token) .done
        { s.counting (.register h token) with
          sessions := s.sessions.modify h fun session =>
            { session with registration := some token } }
  | deregistered {h : Handle} {session : CameraSession} (hs : s.sessions.get? h = some session) :
      Effect s (.deregister h) .done
        { s.counting (.deregister h) with
          sessions := s.sessions.modify h fun session => { session with registration := none } }
  | started {h : Handle} {base size bytes : ℕ} {session : CameraSession}
      (hs : s.sessions.get? h = some session) (hidle : session.acquisition = none)
      (hbytes : session.frameBytes = some bytes) (hpos : bytes ≠ 0) (hfits : bytes ≤ size)
      (hspawn : s.canSpawn = true) :
      Effect s (.start h (some base) size) .done
        { s.counting (.start h (some base) size) with
          sessions := s.sessions.modify h fun session =>
            { session with
              queue := .empty
              acquisition := some ⟨0, base, bytes, size / bytes⟩ } }
  | threadless {h : Handle} {base size bytes : ℕ} {session : CameraSession}
      (hs : s.sessions.get? h = some session) (hidle : session.acquisition = none)
      (hbytes : session.frameBytes = some bytes) (hpos : bytes ≠ 0) (hfits : bytes ≤ size)
      (hspawn : s.canSpawn = false) :
      Effect s (.start h (some base) size) (.failed noThread)
        { s.counting (.start h (some base) size) with
          sessions := s.sessions.modify h fun session => { session with queue := .empty }
          lastError := noThread }
  | aborted {h : Handle} {session : CameraSession} (hs : s.sessions.get? h = some session) :
      Effect s (.abort h) .done
        { s.counting (.abort h) with
          sessions := s.sessions.modify h fun session => { session with acquisition := none } }
  | fetched {h : Handle} {latest : LatestFrame} {session : CameraSession}
      (hs : s.sessions.get? h = some session) (hlatest : session.queue.latest = some latest)
      (hpending : session.queue.pending ≠ 0)
      (hnumber : s.behavior.failFetchOn.contains latest.info.number = false) :
      Effect s (.fetch h) (.fetched latest)
        { s.counting (.fetch h) with
          sessions := s.sessions.modify h fun session =>
            { session with queue := { session.queue with pending := 0 } } }

/-! ## Every call -/

/-- The rest of the call `c`, once it is counted, has one of its effects. -/
def Acts {α : Type} (s : Simulator) (c : Call) (success : α → Answer) (call : Action (Reply α)) :
    Prop :=
  Effect s c (answered success call (s.counting c)).1 (answered success call (s.counting c)).2

section Acts

variable {α : Type} {s : Simulator} {c : Call} {success : α → Answer} {h : Handle}

theorem acts_fail {code : ℤ} {message : String} (hrefused : Refusal s c ⟨code, message⟩) :
    Acts s c success (fail code message) := .refused hrefused

theorem acts_unlessInjected {stage : SetupStage} {call : Action (Reply α)}
    (hc : c.stage? = some stage) (hcall : Acts s c success call) :
    Acts s c success (unlessInjected stage call) := by
  have hrun : unlessInjected stage call (s.counting c) =
      (if s.behavior.failStage = some stage then
        fail injectedFailure ("Mock failure injected at " ++ stage.name) else call)
        (s.counting c) := rfl
  unfold Acts answered
  rw [hrun]
  by_cases hstage : s.behavior.failStage = some stage
  · rw [if_pos hstage]
    exact .refused (.injected hc hstage)
  · rw [if_neg hstage]
    exact hcall

theorem acts_withSession {call : CameraSession → Action (Reply α)} (hc : c.handle? = some h)
    (hcall : ∀ session, s.sessions.get? h = some session → Acts s c success (call session)) :
    Acts s c success (withSession h call) := by
  unfold Acts answered
  cases hs : s.sessions.get? h with
  | none =>
    rw [withSession_of_none (s := s.counting c) hs]
    exact .refused (.notOpen hc hs)
  | some session =>
    rw [withSession_of_some (s := s.counting c) hs]
    exact hcall session hs

theorem acts_congr {call call' : Action (Reply α)}
    (hcall : call (s.counting c) = call' (s.counting c)) (hacts : Acts s c success call') :
    Acts s c success call := by
  unfold Acts answered at hacts ⊢
  rw [hcall]
  exact hacts

theorem acts_ok {call : Action (Reply α)} {a : α} {s' : Simulator}
    (hcall : call (s.counting c) = (.ok a, s')) (heffect : Effect s c (success a) s') :
    Acts s c success call := by
  unfold Acts answered
  rw [hcall]
  exact heffect

theorem acts_error {call : Action (Reply α)} {e : CameraError} {s' : Simulator}
    (hcall : call (s.counting c) = (.error e, s')) (heffect : Effect s c (.failed e) s') :
    Acts s c success call := by
  unfold Acts answered
  rw [hcall]
  exact heffect

end Acts

theorem effect_openCamera (s : Simulator) (name : String) :
    Effect s (.openCamera name) ((Call.openCamera name).perform s).1
      ((Call.openCamera name).perform s).2 := by
  refine acts_unlessInjected (c := .openCamera name) rfl ?_
  by_cases hname : s.behavior.cameras.contains name = true
  · refine acts_ok ?_ .opened
    show (if s.behavior.cameras.contains name then _ else _ : Action _) _ = _
    rw [if_pos hname]
    rfl
  · refine acts_congr ?_ (acts_fail (.notFound (by simpa using hname)))
    show (if s.behavior.cameras.contains name then _ else _ : Action _) _ = _
    rw [if_neg hname]

theorem effect_start (s : Simulator) (h : Handle) (base : Option ℕ) (size : ℕ) :
    Effect s (.start h base size) ((Call.start h base size).perform s).1
      ((Call.start h base size).perform s).2 := by
  refine acts_unlessInjected (c := .start h base size) rfl <|
    acts_withSession rfl fun session hs => ?_
  obtain ⟨frameBytes, registration, queue, acquisition⟩ := session
  cases acquisition with
  | some a => exact acts_fail (.running hs rfl)
  | none =>
    cases frameBytes with
    | none => exact acts_fail (.notConfigured hs rfl)
    | some bytes =>
      cases base with
      | none => exact acts_fail (.badBuffer hs rfl (.inl rfl))
      | some base =>
        dsimp only
        by_cases hfits : bytes = 0 ∨ size < bytes
        · rw [if_pos hfits]
          exact acts_fail (.badBuffer hs rfl (.inr hfits))
        · rw [if_neg hfits]
          obtain ⟨hpos, hle⟩ := not_or.mp hfits
          by_cases hspawn : s.canSpawn = true
          · have htwice := s.sessions.modify_modify h
              (fun session => { session with queue := .empty })
              (fun session => { session with acquisition := some ⟨0, base, bytes, size / bytes⟩ })
            refine acts_ok (a := ()) ?_ (.started hs rfl rfl hpos (not_lt.mp hle) hspawn)
            show (if s.canSpawn = true then _ else _ : Action _) _ = _
            rw [if_pos hspawn]
            exact congrArg (fun sessions =>
              (Except.ok (), { s.counting (.start h (some base) size) with sessions := sessions }))
              htwice
          · refine acts_error ?_
              (.threadless hs rfl rfl hpos (not_lt.mp hle) (by simpa using hspawn))
            show (if s.canSpawn = true then _ else _ : Action _) _ = _
            rw [if_neg hspawn]
            rfl

theorem effect_fetch (s : Simulator) (h : Handle) :
    Effect s (.fetch h) ((Call.fetch h).perform s).1 ((Call.fetch h).perform s).2 := by
  refine acts_withSession (c := .fetch h) rfl fun session hs => ?_
  cases hlatest : session.queue.latest with
  | none => exact acts_fail (.noNewFrame hs (.inl hlatest))
  | some latest =>
    dsimp only
    by_cases hpending : session.queue.pending = 0
    · rw [if_pos hpending]
      exact acts_fail (.noNewFrame hs (.inr hpending))
    · rw [if_neg hpending]
      by_cases hnumber : s.behavior.failFetchOn.contains latest.info.number = true
      · refine acts_congr ?_ (acts_fail (.unfetchable hs hlatest hnumber))
        show (if s.behavior.failFetchOn.contains latest.info.number then _ else _ : Action _) _ = _
        rw [if_pos hnumber]
      · refine acts_ok ?_ (.fetched hs hlatest hpending (by simpa using hnumber))
        show (if s.behavior.failFetchOn.contains latest.info.number then _ else _ : Action _) _ = _
        rw [if_neg hnumber]
        rfl

/-- No call does anything else. -/
theorem Call.effect (s : Simulator) (c : Call) : Effect s c (c.perform s).1 (c.perform s).2 := by
  cases c with
  | openCamera name => exact effect_openCamera s name
  | close h =>
    refine acts_withSession (c := .close h) rfl fun session hs => ?_
    exact acts_ok rfl (.closed hs)
  | selectMode h mode =>
    refine acts_unlessInjected (c := .selectMode h mode) rfl <|
      acts_withSession rfl fun session hs => ?_
    exact acts_ok rfl (.selected hs)
  | configure h region mode exposureMs policy =>
    refine acts_unlessInjected (c := .configure h region mode exposureMs policy) rfl ?_
    by_cases hregion : region.isValid = true
    · rw [if_pos hregion]
      refine acts_withSession rfl fun session hs => ?_
      exact acts_ok rfl (.configured hs rfl)
    · rw [if_neg hregion]
      exact acts_fail (.badRegion (by simpa using hregion))
  | register h token =>
    refine acts_unlessInjected (c := .register h token) rfl <|
      acts_withSession rfl fun session hs => ?_
    exact acts_ok rfl (.registered hs)
  | deregister h =>
    refine acts_withSession (c := .deregister h) rfl fun session hs => ?_
    exact acts_ok rfl (.deregistered hs)
  | start h base size => exact effect_start s h base size
  | abort h =>
    refine acts_withSession (c := .abort h) rfl fun session hs => ?_
    exact acts_ok rfl (.aborted hs)
  | fetch h => exact effect_fetch s h

end Simulator

end FrameWatch
