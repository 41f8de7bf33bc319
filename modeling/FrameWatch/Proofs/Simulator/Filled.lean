import FrameWatch.Proofs.Run.Remembered
import FrameWatch.Proofs.Simulator.Calls
import FrameWatch.Proofs.Simulator.Slots
import FrameWatch.Proofs.Simulator.Upkeep

/-!
# Filling a buffer

The simulated camera as it fills the buffer of a run. Most calls leave memory alone and can at most
lose what a session holds (`Simulator.Calmer`). `Filled` says how far the camera has come with the
buffer and that its stamps have been kept since memory was granted; it lasts through such calls
(`Filled.calm`), the start of the acquisition (`Filled.start`) and every frame period
(`Filled.tick`). A frame that is announced can be fetched from its slot and from nowhere else
(`Filled.fetch_announced`).
-/

namespace FrameWatch

/-! ## Calls that write nothing -/

/-- What the session tells of frames, if anything, is as it was. -/
structure CameraSession.Calmer (session session' : CameraSession) : Prop where
  frameBytes : session'.frameBytes = session.frameBytes
  acquisition : session'.acquisition = none ∨ session'.acquisition = session.acquisition
  latest : session'.queue.latest = none ∨ session'.queue.latest = session.queue.latest

theorem CameraSession.Calmer.trans {s t u : CameraSession} (h : s.Calmer t) (h' : t.Calmer u) :
    s.Calmer u where
  frameBytes := h'.frameBytes.trans h.frameBytes
  acquisition := h'.acquisition.elim .inl fun heq => heq ▸ h.acquisition
  latest := h'.latest.elim .inl fun heq => heq ▸ h.latest

namespace Simulator

/-- Nothing is written, and no session has got more than it had. -/
structure Calmer (s s' : Simulator) : Prop where
  memory : s'.memory = s.memory
  sessions : ∀ h session', s'.sessions.get? h = some session' →
    ∃ session, s.sessions.get? h = some session ∧ session.Calmer session'

theorem calmer_of_sessions {s s' : Simulator} (hmemory : s'.memory = s.memory)
    (hsessions : s'.sessions = s.sessions) : s.Calmer s' where
  memory := hmemory
  sessions h session hs := by
    rw [hsessions] at hs
    exact ⟨session, hs, rfl, .inr rfl, .inr rfl⟩

theorem calmer_lenient : Lenient Calmer where
  refl _ := calmer_of_sessions rfl rfl
  trans h h' :=
    { memory := h'.memory.trans h.memory
      sessions := fun k session'' hs => by
        obtain ⟨session', hs', hcalm'⟩ := h'.sessions k session'' hs
        obtain ⟨session, hs, hcalm⟩ := h.sessions k session' hs'
        exact ⟨session, hs, hcalm.trans hcalm'⟩ }
  counts _ _ := calmer_of_sessions rfl rfl
  lastError _ _ := calmer_of_sessions rfl rfl

theorem calmer_change (h : Handle) {f : CameraSession → CameraSession}
    (hf : ∀ session : CameraSession, session.Calmer (f session)) :
    Within Calmer (change h f) := fun s => by
  refine ⟨rfl, fun k session' hs => ?_⟩
  change (s.sessions.modify h f).get? k = some session' at hs
  rw [SessionTable.get?_modify] at hs
  split at hs
  · obtain ⟨session, hfound, rfl⟩ := Option.map_eq_some_iff.mp hs
    exact ⟨session, hfound, hf session⟩
  · exact ⟨session', hs, rfl, .inr rfl, .inr rfl⟩

theorem calmer_register (h : Handle) (token : ℕ) : Within Calmer (register h token) :=
  calmer_lenient.register (calmer_change h fun _ => ⟨rfl, .inr rfl, .inr rfl⟩)

theorem calmer_deregister (h : Handle) : Within Calmer (deregister h) :=
  calmer_lenient.deregister (calmer_change h fun _ => ⟨rfl, .inr rfl, .inr rfl⟩)

theorem calmer_abort (h : Handle) : Within Calmer (abort h) :=
  calmer_lenient.abort (calmer_change h fun _ => ⟨rfl, .inl rfl, .inr rfl⟩)

theorem calmer_fetch (h : Handle) : Within Calmer (fetch h) :=
  calmer_lenient.fetch (calmer_change h fun _ => ⟨rfl, .inr rfl, .inr rfl⟩)

theorem calmer_close (h : Handle) : Within Calmer (close h) := by
  refine calmer_lenient.close fun s => ⟨rfl, fun k session hs => ?_⟩
  change (s.sessions.erase h).get? k = some session at hs
  rw [SessionTable.get?_erase] at hs
  split at hs
  · cases hs
  · exact ⟨session, hs, rfl, .inr rfl, .inr rfl⟩

/-- Starting a camera without an acquisition changes nothing, or starts one with frame 0. -/
theorem start_cases (h : Handle) (base size : ℕ) (s : Simulator) :
    s.Calmer (start h (some base) size s).2 ∨
    ∃ session frameBytes, s.sessions.get? h = some session ∧ session.acquisition = none ∧
      session.frameBytes = some frameBytes ∧ (start h (some base) size s).2.memory = s.memory ∧
      (start h (some base) size s).2.sessions.get? h = some { session with
        queue := .empty
        acquisition := some ⟨0, base, frameBytes, size / frameBytes⟩ } := by
  let s₁ := { s with counts := { s.counts with starts := s.counts.starts + 1 } }
  have hfails (code : Int) (message : String) :
      s.Calmer (fail (α := Reply Unit) code message s₁).2 := calmer_of_sessions rfl rfl
  have hrun : start h (some base) size s = (if s.behavior.failStage = some .startAcquisition then
      fail injectedFailure ("Mock failure injected at " ++ SetupStage.startAcquisition.name)
    else withSession h _) s₁ := rfl
  rw [hrun]
  split
  · exact .inl (hfails _ _)
  cases hs : s.sessions.get? h with
  | none =>
    rw [withSession_of_none (s := s₁) hs]
    exact .inl (hfails _ _)
  | some session =>
    rw [withSession_of_some (s := s₁) hs]
    obtain ⟨frameBytes, registration, queue, acquisition⟩ := session
    cases acquisition with
    | some a => exact .inl (hfails _ _)
    | none =>
      cases frameBytes with
      | none => exact .inl (hfails _ _)
      | some frameBytes =>
        dsimp only
        split
        · exact .inl (hfails _ _)
        show s.Calmer ((if s.canSpawn = true then _ else _ : Action (Reply Unit)) _).2 ∨
          ∃ session' frameBytes', _ ∧ _ ∧ _ ∧
            ((if s.canSpawn = true then _ else _ : Action (Reply Unit)) _).2.memory = _ ∧
            ((if s.canSpawn = true then _ else _ : Action (Reply Unit)) _).2.sessions.get? h = _
        let empty (session : CameraSession) : CameraSession := { session with queue := .empty }
        have hempty : ∀ session : CameraSession, session.Calmer (empty session) :=
          fun _ => ⟨rfl, .inr rfl, .inl rfl⟩
        have hemptied : s.Calmer (change h empty s₁).2 :=
          calmer_lenient.trans (calmer_lenient.counts s _) (calmer_change h hempty s₁)
        split
        · refine .inr ⟨_, frameBytes, rfl, rfl, rfl, rfl, ?_⟩
          exact get?_modify_of_some (get?_modify_of_some hs fun session =>
            { session with queue := .empty }) fun session =>
              { session with acquisition := some ⟨0, base, frameBytes, size / frameBytes⟩ }
        · exact .inl (calmer_lenient.trans hemptied (calmer_lenient.lastError _ _))

end Simulator

namespace Simulation

/-- Nothing is written, and no session has got more than it had. -/
structure Calmer (x y : Simulation) : Prop where
  handle : y.handle = x.handle
  camera : x.camera.Calmer y.camera

variable {x y : Simulation}

theorem calmer_of_camera (hhandle : y.handle = x.handle) (hcamera : y.camera = x.camera) :
    x.Calmer y where
  handle := hhandle
  camera := by rw [hcamera]; exact Simulator.calmer_lenient.refl x.camera

theorem calmer_unlessFaulty {fault : SimulatorFaults → Bool} {message : String}
    {call : Simulator.Action (Simulator.Reply Unit)}
    (hcall : Simulator.Within Simulator.Calmer call) (x : Simulation) :
    x.Calmer (unlessFaulty fault message call x).2 := by
  rw [unlessFaulty_eq]
  split
  · exact calmer_of_camera rfl rfl
  · exact ⟨rfl, hcall x.camera⟩

theorem calmer_close (h : Handle) (x : Simulation) : x.Calmer (close h x).2 := by
  rw [close_eq]
  exact ⟨rfl, Simulator.calmer_close h x.camera⟩

theorem calmer_fetch (h : Handle) (x : Simulation) : x.Calmer (fetch h x).2 := by
  rw [fetch_eq]
  exact ⟨rfl, Simulator.calmer_fetch h x.camera⟩

theorem newest?_of_handle {h : Handle} (hh : x.handle = some h) :
    x.newest? = (x.camera.sessions.get? h).bind fun session =>
      session.queue.latest.map (·.info.number) := by
  unfold newest?
  rw [hh]
  rfl

/-- A newest frame has been the newest one before. -/
theorem Calmer.newest? (hxy : x.Calmer y) {k : ℤ} (hk : y.newest? = some k) :
    x.newest? = some k := by
  cases hh : y.handle with
  | none =>
    unfold Simulation.newest? at hk
    rw [hh] at hk
    cases hk
  | some h =>
    rw [newest?_of_handle hh] at hk
    obtain ⟨session', hs', hk⟩ := Option.bind_eq_some_iff.mp hk
    obtain ⟨session, hs, hcalm⟩ := hxy.camera.sessions h session' hs'
    rw [newest?_of_handle (hxy.handle.symm.trans hh), hs]
    rcases hcalm.latest with hnone | hsame
    · rw [hnone] at hk
      cases hk
    · rw [hsame] at hk
      exact hk

end Simulation

namespace Simulator

variable {s : Simulator} {h : Handle} {session : CameraSession} {latest : LatestFrame}

/-- What is fetched is the newest frame. -/
theorem latest_of_fetch (hs : s.sessions.get? h = some session)
    (hlatest : session.queue.latest = some latest) {fetched : LatestFrame}
    (hok : (fetch h s).1 = .ok fetched) : fetched = latest := by
  by_cases hpending : session.queue.pending = 0
  · have hrun : fetch h s = withSession h _
        { s with counts := { s.counts with fetches := s.counts.fetches + 1 } } := rfl
    have hs₁ : ({ s with counts := { s.counts with fetches := s.counts.fetches + 1 } } :
        Simulator).sessions.get? h = some session := hs
    rw [hrun, withSession_of_some hs₁] at hok
    dsimp only at hok
    rw [hlatest] at hok
    dsimp only at hok
    rw [if_pos hpending] at hok
    cases hok
  · rw [fetch_of_some hs hlatest hpending] at hok
    dsimp only at hok
    split at hok
    · cases hok
    · exact (Except.ok.inj hok).symm

end Simulator

/-! ## The buffer of a run -/

/-- The camera `h` has come to frame `n` with the buffer, and has kept its stamps since memory was
granted. -/
structure Filled (h : Handle) (buffer : FrameBuffer) (n : ℕ) (r : Remembered Simulation) :
    Prop where
  frameBytes : 0 < buffer.frameBytes
  frames : 0 < buffer.frames
  handle : r.now.handle = some h
  session : ∀ session, r.now.camera.sessions.get? h = some session →
    session.frameBytes = some buffer.frameBytes ∧ ∀ a, session.acquisition = some a →
      a = ⟨n, buffer.base, buffer.frameBytes, buffer.frames⟩
  kept : ∃ past, r.grant = some ⟨buffer.base, buffer.size, past ++ [r.now]⟩ ∧
    StampsKept buffer (past ++ [r.now]) ∧ ∀ k ∈ delivered (past ++ [r.now]), k ≤ n

namespace Filled

variable {h : Handle} {buffer : FrameBuffer} {n n' : ℕ} {r : Remembered Simulation} {y : Simulation}

/-- The rig goes on to the state `y`. -/
theorem went (hf : Filled h buffer n r) (hle : n ≤ n') (hhandle : y.handle = some h)
    (hsession : ∀ session, y.camera.sessions.get? h = some session →
      session.frameBytes = some buffer.frameBytes ∧ ∀ a, session.acquisition = some a →
        a = ⟨n', buffer.base, buffer.frameBytes, buffer.frames⟩)
    (hkept : ∀ past, StampsKept buffer (past ++ [r.now]) →
      (∀ k ∈ delivered (past ++ [r.now]), k ≤ n) → StampsKept buffer (past ++ [r.now] ++ [y]))
    (hnewest : ∀ k, y.newest? = some k → r.now.newest? = some k ∨ k ≤ n') :
    Filled h buffer n' (r.went y) where
  frameBytes := hf.frameBytes
  frames := hf.frames
  handle := hhandle
  session := hsession
  kept := by
    obtain ⟨past, hgrant, hstamps, hbound⟩ := hf.kept
    refine ⟨past ++ [r.now], ?_, hkept past hstamps hbound, fun k hk => ?_⟩
    · show r.grant.map _ = _
      rw [hgrant]
      rfl
    · have hbefore : ∀ k ∈ delivered (past ++ [r.now]), k ≤ n' := fun k hk =>
        (hbound k hk).trans (by exact_mod_cast hle)
      change k ∈ delivered (past ++ [r.now] ++ [y]) at hk
      rw [delivered_concat] at hk
      rcases List.mem_append.mp hk with hk | hk
      · exact hbefore k hk
      · rcases hnewest k (Option.mem_toList.mp hk) with hold | hnew
        · refine hbefore k ?_
          rw [delivered_concat]
          exact List.mem_append_right _ (Option.mem_toList.mpr hold)
        · exact hnew

/-- A newest frame that has been before. -/
theorem mem_delivered {x : Simulation} {past : List Simulation} {k : ℤ} (hk : x.newest? = some k) :
    k ∈ delivered (past ++ [x]) := by
  rw [delivered_concat]
  exact List.mem_append_right _ (Option.mem_toList.mpr hk)

/-- The camera is left as it is, or loses something. -/
theorem calm (hf : Filled h buffer n r) (hy : r.now.Calmer y) : Filled h buffer n (r.went y) := by
  refine hf.went le_rfl (hy.handle.trans hf.handle) (fun session' hs' => ?_)
    (fun past hstamps _ => hstamps.rests hy.camera.memory fun k hk => mem_delivered (hy.newest? hk))
    fun k hk => .inl (hy.newest? hk)
  obtain ⟨session, hs, hcalm⟩ := hy.camera.sessions h session' hs'
  obtain ⟨hbytes, hacquisition⟩ := hf.session session hs
  refine ⟨hcalm.frameBytes.trans hbytes, fun a ha => ?_⟩
  rcases hcalm.acquisition with hnone | hsame
  · rw [hnone] at ha
    cases ha
  · exact hacquisition a (hsame.symm.trans ha)

/-- The acquisition is started. -/
theorem start (hf : Filled h buffer 0 r) (hhandle : y.handle = r.now.handle)
    (hcamera : y.camera =
      (Simulator.start h (some buffer.base) buffer.size r.now.camera).2) :
    Filled h buffer 0 (r.went y) := by
  rcases Simulator.start_cases h buffer.base buffer.size r.now.camera with
    hcalm | ⟨session, frameBytes, hs, -, hbytes, hmemory, hstarted⟩
  · exact hf.calm ⟨hhandle, hcamera ▸ hcalm⟩
  · obtain rfl : frameBytes = buffer.frameBytes :=
      Option.some.inj (hbytes.symm.trans (hf.session session hs).1)
    have hslots : buffer.size / buffer.frameBytes = buffer.frames :=
      Nat.mul_div_cancel_left _ hf.frameBytes
    rw [hslots, ← hcamera] at hstarted
    rw [← hcamera] at hmemory
    have hnone : y.newest? = none := by
      rw [Simulation.newest?_of_handle (hhandle.trans hf.handle), hstarted]
      rfl
    refine hf.went le_rfl (hhandle.trans hf.handle) (fun session' hs' => ?_)
      (fun past hstamps _ => hstamps.rests hmemory fun k hk => ?_) fun k hk => ?_
    · obtain rfl := Option.some.inj (hstarted.symm.trans hs')
      exact ⟨hbytes, fun a ha => (Option.some.inj ha).symm⟩
    · rw [hnone] at hk
      cases hk
    · rw [hnone] at hk
      cases hk

/-- What can be fetched once a frame has been announced: that frame, from its slot. -/
def Announces (h : Handle) (buffer : FrameBuffer) (x : Simulation) (info : FrameInfo) : Prop :=
  ∃ session, x.camera.sessions.get? h = some session ∧ session.queue.latest =
    some ⟨buffer.slot ((info.number - 1) % buffer.frames).toNat, info⟩

section Frame

variable {session : CameraSession} {a : Acquisition}
  (hs : r.now.camera.sessions.get? h = some session) (ha : session.acquisition = some a)

include hs ha

/-- The next frame is left out. -/
theorem skip (hf : Filled h buffer n r) (hhandle : y.handle = some h)
    (hmemory : y.camera.memory = r.now.camera.memory)
    (hsession : y.camera.sessions.get? h =
      some { session with acquisition := some { a with frame := a.frame + 1 } }) :
    Filled h buffer (n + 1) (r.went y) := by
  obtain ⟨hbytes, hacquisition⟩ := hf.session session hs
  obtain rfl := hacquisition a ha
  have hsame : y.newest? = r.now.newest? := by
    rw [Simulation.newest?_of_handle hhandle, Simulation.newest?_of_handle hf.handle, hsession, hs]
    rfl
  refine hf.went (Nat.le_succ n) hhandle (fun session' hs' => ?_)
    (fun past hstamps _ => hstamps.rests hmemory fun k hk => mem_delivered (hsame ▸ hk))
    fun k hk => .inl (hsame ▸ hk)
  obtain rfl := Option.some.inj (hsession.symm.trans hs')
  exact ⟨hbytes, fun a ha => (Option.some.inj ha).symm⟩

/-- The next frame is delivered into its slot. -/
theorem deliver (hf : Filled h buffer n r) (hhandle : y.handle = some h)
    (hcamera : y.camera = (Simulator.deliver h session a (a.frame + 1) r.now.camera).2) :
    Filled h buffer (n + 1) (r.went y) ∧
      Announces h buffer y (Simulator.frameInfo r.now.camera.behavior h (a.frame + 1)) := by
  obtain ⟨hbytes, hacquisition⟩ := hf.session session hs
  obtain rfl := hacquisition a ha
  have haddress : Acquisition.address ⟨n, buffer.base, buffer.frameBytes, buffer.frames⟩ (n + 1) =
      buffer.slot (n % buffer.frames) := by
    have hframes := hf.frames
    show buffer.base + (n + 1 - 1) % max buffer.frames 1 * buffer.frameBytes = _
    rw [Nat.add_sub_cancel, max_eq_left hframes]
    rfl
  have hmemory : y.camera.memory = if Stamp.width ≤ buffer.frameBytes then
      r.now.camera.memory.write (buffer.slot (n % buffer.frames)) (n + 1 : ℕ)
      else r.now.camera.memory := by
    rw [hcamera, ← haddress]
    rfl
  have hsession : y.camera.sessions.get? h = some { session with
      queue := ⟨session.queue.pending + 1, some ⟨buffer.slot (n % buffer.frames),
        Simulator.frameInfo r.now.camera.behavior h (n + 1)⟩⟩
      acquisition := some ⟨n + 1, buffer.base, buffer.frameBytes, buffer.frames⟩ } := by
    rw [hcamera, ← haddress]
    exact Simulator.get?_modify_of_some hs fun _ => _
  have hnewest : y.newest? = some ((n + 1 : ℕ) : ℤ) := by
    rw [Simulation.newest?_of_handle hhandle, hsession]
    rfl
  constructor
  · refine hf.went (Nat.le_succ n) hhandle (fun session' hs' => ?_)
      (fun past hstamps hle => hstamps.stamped hf.frames hmemory hnewest hle) fun k hk => ?_
    · obtain rfl := Option.some.inj (hsession.symm.trans hs')
      exact ⟨hbytes, fun a ha => (Option.some.inj ha).symm⟩
    · rw [hnewest] at hk
      cases hk
      exact .inr le_rfl
  · have hslot : (((Simulator.frameInfo r.now.camera.behavior h (n + 1)).number - 1) %
        buffer.frames).toNat = n % buffer.frames := by
      show ((((n + 1 : ℕ) : ℤ) - 1) % buffer.frames).toNat = _
      have hbefore : ((n + 1 : ℕ) : ℤ) - 1 = (n : ℤ) := by push_cast; omega
      rw [hbefore, ← Int.natCast_mod]
      rfl
    refine ⟨_, hsession, ?_⟩
    dsimp only
    rw [hslot]

end Frame

/-- A frame period passes, with which the camera comes to frame `n`. What it announces can be
fetched from its slot. -/
def Ticks (h : Handle) (buffer : FrameBuffer) (n : ℕ) (r : Remembered Simulation) : Prop :=
  Filled h buffer n (r.went (Simulation.tick r.now).2) ∧
    ∀ notification info, (Simulation.tick r.now).1 = some notification →
      notification.info = some info → Announces h buffer (Simulation.tick r.now).2 info

/-- Where nothing is announced, there is nothing to fetch. -/
theorem ticks_of_silent (hhandle : r.now.handle = some h)
    (hnone : (Simulator.tick h r.now.camera).1 = none)
    (hfilled : Filled h buffer n (r.went (Simulation.tick r.now).2)) : Ticks h buffer n r := by
  refine ⟨hfilled, fun notification info hsome => ?_⟩
  rw [Simulation.tick_of_handle hhandle, hnone] at hsome
  cases hsome

theorem ticks_of_calm (hf : Filled h buffer n r) (hnone : (Simulator.tick h r.now.camera).1 = none)
    (hcalm : r.now.camera.Calmer (Simulator.tick h r.now.camera).2) : Ticks h buffer n r := by
  refine ticks_of_silent hf.handle hnone (hf.calm ?_)
  rw [Simulation.tick_of_handle hf.handle]
  exact ⟨rfl, hcalm⟩

theorem ticks_of_deliver {session : CameraSession} {a : Acquisition} (hf : Filled h buffer n r)
    (hs : r.now.camera.sessions.get? h = some session) (ha : session.acquisition = some a)
    (ht : Simulator.tick h r.now.camera =
      Simulator.deliver h session a (a.frame + 1) r.now.camera) : Ticks h buffer (n + 1) r := by
  have hrun := Simulation.tick_of_handle hf.handle
  obtain ⟨hfilled, hannounces⟩ := hf.deliver hs ha (y := (Simulation.tick r.now).2)
    (by rw [hrun]; exact hf.handle) (by rw [hrun, ht])
  refine ⟨hfilled, fun notification info hsome hinfo => ?_⟩
  rw [hrun, ht] at hsome
  obtain ⟨announcement, hannounced, rfl⟩ := Option.map_eq_some_iff.mp hsome
  obtain ⟨token, -, rfl⟩ := Option.map_eq_some_iff.mp hannounced
  -- a frame without its data is announced, but cannot be told
  change (if _ then none else some _) = some info at hinfo
  split at hinfo
  · cases hinfo
  · obtain rfl := Option.some.inj hinfo
    exact hannounces

/-- What comes of a frame period. -/
theorem tick (hf : Filled h buffer n r) : ∃ n', Ticks h buffer n' r := by
  cases hs : r.now.camera.sessions.get? h with
  | none =>
    have ht := Simulator.tick_of_closed hs
    exact ⟨n, hf.ticks_of_calm (by rw [ht]) (by rw [ht]; exact Simulator.calmer_lenient.refl _)⟩
  | some session =>
    cases ha : session.acquisition with
    | none =>
      have ht := Simulator.tick_of_idle hs ha
      exact ⟨n, hf.ticks_of_calm (by rw [ht]) (by rw [ht]; exact Simulator.calmer_lenient.refl _)⟩
    | some a =>
      rcases Simulator.tick_cases hs ha with ⟨counts, ht⟩ | ⟨-, ht⟩ | ⟨-, ht⟩
      · exact ⟨n, hf.ticks_of_calm (by rw [ht])
          (by rw [ht]; exact Simulator.calmer_lenient.counts _ counts)⟩
      · refine ⟨n + 1, ticks_of_silent hf.handle (by rw [ht]) ?_⟩
        rw [Simulation.tick_of_handle hf.handle, ht]
        exact hf.skip hs ha hf.handle rfl (Simulator.get?_modify_of_some hs fun _ => _)
      · exact ⟨n + 1, hf.ticks_of_deliver hs ha ht⟩

/-- A frame that has just been announced is fetched from its slot. -/
theorem fetch_announced {x : Simulation} {info : FrameInfo} (hx : Announces h buffer x info)
    {address : ℕ}
    (hfetch : (Simulation.fetch h x).1 = .frame address) :
    address = buffer.slot ((info.number - 1) % buffer.frames).toNat := by
  obtain ⟨session, hs, hlatest⟩ := hx
  rw [Simulation.fetch_eq] at hfetch
  cases hok : (Simulator.fetch h x.camera).1 with
  | error e =>
    rw [hok] at hfetch
    cases hfetch
  | ok fetched =>
    rw [hok] at hfetch
    obtain rfl := Simulator.latest_of_fetch hs hlatest hok
    cases hfetch
    rfl

end Filled

end FrameWatch
