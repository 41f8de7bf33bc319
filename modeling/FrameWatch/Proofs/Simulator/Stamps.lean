import FrameWatch.Proofs.Run.HandOff
import FrameWatch.Proofs.Run.Unwind
import FrameWatch.Proofs.Simulator.Filled
import FrameWatch.Proofs.Simulator.Stalls

/-!
# The stamps of a run

A run on the simulated camera, from the moment on at which it has its buffer: the camera writes into
the buffer and nowhere else, every slot always holds the number of the last frame delivered into it,
and the handler tells of every frame that it could fetch in which slot that lies.

1. `Stamping` says so of a run that has its buffer, and `Ungranted` that it has none and has told of
   no frame. The moves that are left after setup keep both (`Stamping.unwinds`,
   `Ungranted.unwinds`).
2. `Simulation.setup_kept`: one of the two holds when setup is left, whichever way.
3. `Runner.stamps` puts this together for whole runs.
-/

namespace FrameWatch

open Relation (ReflTransGen)

/-! ## What the handler tells of a frame -/

/-- A frame that could not be fetched has no offset; every other one has that of its slot. -/
def FrameDescriptor.Placed (buffer : FrameBuffer) (d : FrameDescriptor) : Prop :=
  (d.degraded = true ∧ d.bufferOffset = none) ∨
  (d.degraded = false ∧ ∃ offset, d.bufferOffset = some offset ∧
    offset = ((d.sequence - 1) % buffer.frames).toNat * buffer.frameBytes ∧
    buffer.frameBytes ∣ offset ∧ offset < buffer.size)

/-- What the step puts into the mailbox, if anything, tells where its frame lies. -/
def RunStep.Placed (buffer : FrameBuffer) : RunStep → Prop
  | handled _ _ (some d) => d.Placed buffer
  | _ => True

theorem RunStep.placed_of_own {buffer : FrameBuffer} {e : RunStep} (hown : e.isOwn = true) :
    e.Placed buffer := by
  cases e with
  | handled => cases hown
  | _ => trivial

/-- A frame that is fetched from its slot, or not at all. -/
theorem Handler.placed_descriptor {handler : Handler} {buffer : FrameBuffer} {info : FrameInfo}
    {answer : Fetched} {d : FrameDescriptor} (hblock : handler.block = (buffer.base, buffer.size))
    (hbytes : 0 < buffer.frameBytes) (hframes : 0 < buffer.frames)
    (hslot : ∀ address, answer = .frame address →
      address = buffer.slot ((info.number - 1) % buffer.frames).toNat)
    (hd : handler.descriptor? info answer = some d) : d.Placed buffer := by
  cases answer with
  | frame address =>
    obtain rfl := Option.some.inj hd
    obtain rfl := hslot address rfl
    obtain ⟨hbase, hsize⟩ := Prod.mk.inj hblock
    have hindex : ((info.number - 1) % buffer.frames).toNat < buffer.frames := by
      have hpos : (0 : ℤ) < buffer.frames := by exact_mod_cast hframes
      have hlt := Int.emod_lt_of_pos (info.number - 1) hpos
      omega
    have hle := FrameBuffer.slot_le hindex
    have hin : buffer.base ≤ buffer.slot ((info.number - 1) % buffer.frames).toNat ∧
        buffer.slot ((info.number - 1) % buffer.frames).toNat < buffer.base + buffer.size :=
      ⟨buffer.base_le_slot _, by omega⟩
    refine .inr ⟨rfl, ((info.number - 1) % buffer.frames).toNat * buffer.frameBytes, ?_, rfl,
      Nat.dvd_mul_left _ _, ?_⟩
    · show FrameBuffer.offsetIn handler.base handler.size _ = _
      rw [hbase, hsize, FrameBuffer.offsetIn, if_pos hin]
      unfold FrameBuffer.slot
      rw [Nat.add_sub_cancel_left]
    · unfold FrameBuffer.slot at hin
      omega
  | failed e =>
    obtain rfl := Option.some.inj hd
    exact .inl ⟨rfl, rfl⟩
  | crashed => cases hd

/-! ## A run that has its buffer -/

/-- The run has the buffer, and the camera `h` has come to frame `n` with it. -/
structure Stamping (h : Handle) (buffer : FrameBuffer) (n : ℕ)
    (s : RunState (Remembered Simulation)) : Prop where
  filled : Filled h buffer n s.rig
  context : ∀ handler, s.context.live? = some handler →
    handler.camera = h ∧ handler.block = (buffer.base, buffer.size)
  held : ∀ b, s.buffer = .held b → b = buffer
  placed : ∀ e ∈ s.past.toList, e.Placed buffer

section Keeps

variable {pace : Pace} {allocator : Allocator} {h : Handle} {buffer : FrameBuffer} {n : ℕ}
  {s s' : RunState (Remembered Simulation)}

/-- The simulated camera as a rig that remembers. -/
abbrev Simulation.remembering (pace : Pace) (allocator : Allocator) : Rig (Remembered Simulation) :=
  (Simulation.rig pace allocator).remembering

namespace Stamping

theorem turn (hs : Stamping h buffer n s) {r : Remembered Simulation} {n' : ℕ}
    (hr : Filled h buffer n' r) : Stamping h buffer n' { s with rig := r } :=
  ⟨hr, hs.context, hs.held, hs.placed⟩

theorem calm (hs : Stamping h buffer n s) {y : Simulation} (hy : s.rig.now.Calmer y) :
    Stamping h buffer n { s with rig := s.rig.went y } := hs.turn (hs.filled.calm hy)

theorem step (hs : Stamping h buffer n s) {e : RunStep} (he : e.Placed buffer) :
    Stamping h buffer n (s.step e) where
  filled := hs.filled
  context := hs.context
  held := hs.held
  placed e' he' := by
    rcases RunState.mem_step.mp he' with hold | rfl
    · exact hs.placed e' hold
    · exact he

/-- A wait ends. -/
theorem take (hs : Stamping h buffer n s) : Stamping h buffer n
    ({ s with mailbox := s.mailbox.take.2 }.step (.waited s.mailbox.take.1)) := by
  have htaken : Stamping h buffer n { s with mailbox := s.mailbox.take.2 } :=
    ⟨hs.filled, hs.context, hs.held, hs.placed⟩
  exact htaken.step trivial

/-- The handler deals with a frame that has just been announced. -/
theorem handled (hs : Stamping h buffer n s) {handler : Handler} {notification : Notification}
    {info : FrameInfo} (hlive : s.context.live? = some handler)
    (hx : Filled.Announces h buffer s.rig.now info) :
    Stamping h buffer n
      (Act.handled (Simulation.remembering pace allocator) handler notification info s) := by
  obtain ⟨rfl, hblock⟩ := hs.context handler hlive
  let answer := (Simulation.fetch handler.camera s.rig.now).1
  have hfetched := hs.calm (Simulation.calmer_fetch handler.camera s.rig.now)
  have hplaced : RunStep.Placed buffer
      (.handled notification answer (handler.descriptor? info answer)) := by
    cases hd : handler.descriptor? info answer with
    | none => trivial
    | some d =>
      exact Handler.placed_descriptor hblock hs.filled.frameBytes hs.filled.frames
        (fun address hanswer => Filled.fetch_announced hx hanswer) hd
  have hstepped := (hfetched.step (e := .noted (.call (.fetch handler.camera))) trivial).step
    hplaced
  refine ⟨hstepped.filled, fun handler' hlive' => ?_, hstepped.held, hstepped.placed⟩
  change (s.context.map _).live? = some handler' at hlive'
  rw [Custody.live?_map, hlive] at hlive'
  obtain rfl := Option.some.inj hlive'
  exact ⟨Follows.camera_count handler info.number _, (Handler.block_noteFetch _ _ _).trans hblock⟩

/-- A frame period passes. -/
theorem tick (hs : Stamping h buffer n s) :
    ∃ n', Stamping h buffer n' (Act.deliverTick (Simulation.remembering pace allocator) s).2 := by
  obtain ⟨n', hfilled, hannounces⟩ := hs.filled.tick
  have hticked := hs.turn hfilled
  refine ⟨n', ?_⟩
  cases ht : (Simulation.tick s.rig.now).1 with
  | none =>
    rw [Act.deliverTick_of_none (Simulation.remembering pace allocator) s ht]
    exact hticked
  | some notification =>
    rw [Act.deliverTick_of_some (Simulation.remembering pace allocator) s ht]
    let s₁ := { s with rig := s.rig.went (Simulation.tick s.rig.now).2 }
    change Stamping h buffer n'
      (Act.receive (Simulation.remembering pace allocator) notification s₁).2
    rcases Act.receive_cases (Simulation.remembering pace allocator) s₁ notification with
      ⟨-, heq⟩ | ⟨-, -, heq⟩ | ⟨handler, info, -, hlive, hinfo, -, heq⟩
    all_goals rw [heq]
    -- ignored, strayed or handled: only the last tells of a frame, which is the one just announced
    · exact hticked
    · exact hticked.step trivial
    · exact hticked.handled hlive (hannounces notification info ht hinfo)

theorem watch (hmove : WatchMove (Simulation.remembering pace allocator) s s')
    (hs : Stamping h buffer n s) : ∃ n', Stamping h buffer n' s' := by
  cases hmove with
  | arrive m => exact ⟨n, hs.calm (Simulation.calmer_of_camera rfl rfl)⟩
  | tick => exact hs.tick
  | did e hown => exact ⟨n, hs.step (RunStep.placed_of_own hown)⟩
  | take => exact ⟨n, hs.take⟩

/-- What is left to do after setup keeps the stamps. -/
theorem unwinds (h' : Unwinds (Simulation.remembering pace allocator) s s')
    (hs : Stamping h buffer n s) : ∃ n', Stamping h buffer n' s' := by
  refine h'.keeps (P := fun s => ∃ n, Stamping h buffer n s) (fun s s' hmove ⟨n, hs⟩ => ?_) ⟨n, hs⟩
  cases hmove with
  | watch hmove => exact hs.watch hmove
  | lastError => exact ⟨n, hs.calm (Simulation.calmer_of_camera rfl rfl)⟩
  | abort camera =>
    exact ⟨n, hs.calm (Simulation.calmer_unlessFaulty (Simulator.calmer_abort camera) _)⟩
  | deregister camera =>
    exact ⟨n, hs.calm (Simulation.calmer_unlessFaulty (Simulator.calmer_deregister camera) _)⟩
  | close camera => exact ⟨n, hs.calm (Simulation.calmer_close camera _)⟩
  | loosen hrig hpast hregistered hlive hbuffer =>
    exact ⟨n, hrig ▸ hs.filled, fun handler hl => hs.context handler (hlive handler hl),
      fun b hb => hs.held b (hbuffer b hb), hpast ▸ hs.placed⟩

end Stamping

/-! ## From the grant to the start -/

/-- The run has the buffer, and the camera has not been started with it. -/
structure Ready (h : Handle) (buffer : FrameBuffer) (s : RunState (Remembered Simulation)) :
    Prop where
  stamping : Stamping h buffer 0 s
  idle : ∀ session, s.rig.now.camera.sessions.get? h = some session → session.acquisition = none

namespace Ready

theorem calm (hr : Ready h buffer s) {y : Simulation} (hy : s.rig.now.Calmer y) :
    Ready h buffer { s with rig := s.rig.went y } where
  stamping := hr.stamping.calm hy
  idle session' hs' := by
    obtain ⟨session, hs, hcalm⟩ := hy.camera.sessions h session' hs'
    rcases hcalm.acquisition with hnone | hsame
    · exact hnone
    · exact hsame.trans (hr.idle session hs)

/-- A frame period that finds no acquisition changes nothing. -/
theorem tick (hr : Ready h buffer s) :
    Ready h buffer (Act.deliverTick (Simulation.remembering pace allocator) s).2 := by
  have hrun : Simulation.tick s.rig.now = (none, s.rig.now) := by
    rw [Simulation.tick_of_handle hr.stamping.filled.handle]
    cases hs : s.rig.now.camera.sessions.get? h with
    | none =>
      rw [Simulator.tick_of_closed hs]
      rfl
    | some session =>
      rw [Simulator.tick_of_idle hs (hr.idle session hs)]
      rfl
  rw [Act.deliverTick_of_none (Simulation.remembering pace allocator) s (congrArg Prod.fst hrun)]
  refine hr.calm (y := (Simulation.tick s.rig.now).2) ?_
  rw [hrun]
  exact Simulation.calmer_of_camera rfl rfl

theorem watches (h' : ReflTransGen (WatchMove (Simulation.remembering pace allocator)) s s')
    (hr : Ready h buffer s) : Ready h buffer s' := by
  induction h' with
  | refl => exact hr
  | tail _ hmove ih =>
    cases hmove with
    | arrive m => exact ih.calm (Simulation.calmer_of_camera rfl rfl)
    | tick => exact ih.tick
    | did e hown => exact ⟨ih.stamping.step (RunStep.placed_of_own hown), ih.idle⟩
    | take => exact ⟨ih.stamping.take, ih.idle⟩

variable (pace allocator)

/-- The handler is registered, or the camera refuses. -/
theorem register (hr : Ready h buffer s) :
    Ready h buffer (Setup.register (Simulation.remembering pace allocator) h s).2 := by
  refine Setup.ends_bind ?_ fun _ s₁ hr₁ => ?_
  · rw [Setup.call_state]
    refine Act.call_of_effect _ (Ready h buffer) (fun _ => Ready h buffer) rfl
      (fun _ _ h' hr => hr.watches h') (fun s hr => ?_) (fun _ _ _ h' hr => hr.watches h') hr
    exact hr.calm ⟨rfl, Simulator.calmer_register h 0 s.rig.now.camera⟩
  · have hs₁ := hr₁.stamping
    exact ⟨⟨hs₁.filled, hs₁.context, hs₁.held, hs₁.placed⟩, hr₁.idle⟩

/-- The camera is started, or it refuses. -/
theorem start (hr : Ready h buffer s) (settings : RunSettings) : ∃ n,
    Stamping h buffer n
      (Setup.start (Simulation.remembering pace allocator) settings h buffer s).2 := by
  let I (s : RunState (Remembered Simulation)) := ∃ n, Stamping h buffer n s
  have hwatches {s s' : RunState (Remembered Simulation)}
      (h' : ReflTransGen (WatchMove (Simulation.remembering pace allocator)) s s') :
      I s → I s' := fun ⟨_, hs⟩ => hs.unwinds (unwinds_of_watches _ h')
  have hcall : I (Act.call (Simulation.remembering pace allocator) (.start h buffer.size)
      ((Simulation.remembering pace allocator).start h buffer) s).2 :=
    Act.call_of_effect _ (Ready h buffer) (fun _ => I) rfl (fun _ _ h' hr => hr.watches h')
      (fun s hr => ⟨0, hr.stamping.turn (hr.stamping.filled.start rfl rfl)⟩)
      (fun _ _ _ h' => hwatches h') hr
  unfold Setup.start
  -- looking at the clock leaves the run as it is
  rw [Setup.bind_of_ok (a := s) rfl]
  refine Setup.ends_bind (I := I) ?_ fun _ s₁ ⟨n, hs₁⟩ => ⟨n, hs₁.step trivial⟩
  rw [Setup.call_state]
  exact hcall

end Ready

end Keeps

/-! ## Setup -/

section Setup

variable {pace : Pace} {allocator : Allocator} {b : SimulatorBehavior} {h : Handle}
  {context : Custody Handler} {bytes : ℕ} {s : RunState (Remembered Simulation)}

namespace Ungranted

theorem placed (hu : Ungranted s) (buffer : FrameBuffer) :
    ∀ e ∈ s.past.toList, e.Placed buffer := by
  intro e he
  cases e with
  | handled n answer signalled =>
    cases signalled with
    | none => trivial
    | some d => exact absurd he (hu.silent n answer d)
  | _ => trivial

/-- Memory is granted for the buffer. -/
theorem ready (hu : Ungranted s)
    (hi : Idle b h { CameraSession.fresh with frameBytes := some bytes } context false
      (s.seen Remembered.now)) (buffer : FrameBuffer) (hsize : 0 < buffer.size)
    (hbytes : buffer.frameBytes = bytes) :
    let memory := s.rig.now.camera.memory.clear buffer.base buffer.size
    let x := { s.rig.now with camera := { s.rig.now.camera with memory := memory } }
    Ready h buffer { s.log (.bufferAllocated buffer) with
      rig := ⟨x, some ⟨buffer.base, buffer.size, [x]⟩⟩
      buffer := .held buffer
      context := .held (.ofBuffer h buffer) } := by
  intro memory x
  obtain rfl := hbytes
  have hhandle : x.handle = some h := hi.handle
  have hopened : x.camera.sessions.get? h =
    some { CameraSession.fresh with frameBytes := some buffer.frameBytes } := hi.opened
  have hnone : x.newest? = none := by
    rw [Simulation.newest?_of_handle hhandle, hopened]
    rfl
  have hfilled : Filled h buffer 0 ⟨x, some ⟨buffer.base, buffer.size, [x]⟩⟩ := by
    refine ⟨Nat.pos_of_mul_pos_right hsize, Nat.pos_of_mul_pos_left hsize, hhandle, ?_, ?_⟩
    · intro session hs
      obtain rfl := Option.some.inj (hopened.symm.trans hs)
      exact ⟨rfl, fun a ha => by cases ha⟩
    · refine ⟨[], rfl, StampsKept.granted rfl hnone, ?_⟩
      intro k hk
      rw [delivered_concat, hnone] at hk
      cases hk
  refine ⟨⟨hfilled, ?_, ?_, ?_⟩, ?_⟩
  · intro handler hlive
    obtain rfl := Option.some.inj hlive
    exact ⟨rfl, rfl⟩
  · intro b' hheld
    exact (Custody.held.inj hheld).symm
  · intro e he
    rcases RunState.mem_step.mp he with hold | rfl
    · exact hu.placed buffer e hold
    · trivial
  · intro session hs
    obtain rfl := Option.some.inj (hopened.symm.trans hs)
    rfl

end Ungranted

namespace Simulation

variable (pace allocator) (settings : RunSettings)

/-- Memory for the buffer is granted, or setup ends without it. -/
theorem allocate_ready (hu : Ungranted s)
    (hi : Idle b h { CameraSession.fresh with frameBytes := some bytes } context false
      (s.seen Remembered.now)) :
    (∃ e, (Setup.allocate (remembering pace allocator) settings h bytes s).1 = .error e ∧
      Ungranted (Setup.allocate (remembering pace allocator) settings h bytes s).2) ∨
    ∃ base, (Setup.allocate (remembering pace allocator) settings h bytes s).1 =
        .ok ⟨base, bytes, settings.bufferFrames⟩ ∧
      Ready h ⟨base, bytes, settings.bufferFrames⟩
        (Setup.allocate (remembering pace allocator) settings h bytes s).2 := by
  cases hsize : FrameBuffer.checkSize bytes settings.bufferFrames settings.bufferLimit with
  | error e =>
    rw [Setup.allocate_of_error _ settings h s hsize]
    exact .inl ⟨_, rfl, hu⟩
  | ok total =>
    obtain ⟨rfl, hpos, -⟩ := FrameBuffer.checkSize_eq_ok hsize
    have hreserve : (remembering pace allocator).reserve (bytes * settings.bufferFrames) s.rig =
        Remembered.reserve (rig pace allocator) (bytes * settings.bufferFrames) s.rig := rfl
    rw [Setup.allocate_of_ok _ settings h s hsize, hreserve, Remembered.reserve, reserve_eq]
    cases allocator (bytes * settings.bufferFrames) with
    | none => exact .inl ⟨_, rfl, hu.went _⟩
    | some base => exact .inr ⟨base, rfl, hu.ready hi ⟨base, _, _⟩ hpos rfl⟩

/-- When setup is left, no memory was granted, or all stamps have been kept since. -/
theorem setup_kept (hu : Ungranted s) (hopens : Unopened b (s.seen Remembered.now)) :
    Ungranted (Setup.steps (remembering pace allocator) settings s).2 ∨
    ∃ h buffer n, buffer.frameBytes = b.frameBytes.getD settings.region.frameBytes ∧
      buffer.frames = settings.bufferFrames ∧
      Stamping h buffer n (Setup.steps (remembering pace allocator) settings s).2 := by
  let I (s : RunState (Remembered Simulation)) := Ungranted s ∨
    ∃ h buffer n, buffer.frameBytes = b.frameBytes.getD settings.region.frameBytes ∧
      buffer.frames = settings.bufferFrames ∧ Stamping h buffer n s
  have hshows := (rig pace allocator).remembering_shows
  have hopened : Ungranted (Setup.openCamera (remembering pace allocator) settings s).2 :=
    hu.openCamera settings
  have hopens' := (hshows.openCamera_step settings).answers (openCamera_answers settings hopens)
  refine Setup.Answers.ends (I := I) (Q := fun h s' => Ungranted s' ∧
    ∃ context, Idle b h .fresh context false (s'.seen Remembered.now))
    (fun h hok => ⟨hopened, hopens' h hok⟩) (.inl hopened) fun h s₁ ⟨hu₁, context, h₁⟩ => ?_
  have hconfigured : Ungranted (Setup.configure (remembering pace allocator) settings h s₁).2 :=
    hu₁.configure settings h
  have hconfigures := (hshows.configure_step settings h).answers (configure_answers settings h₁)
  refine Setup.Answers.ends (I := I) (Q := fun bytes s' => Ungranted s' ∧
    bytes = b.frameBytes.getD settings.region.frameBytes ∧
    Idle b h { CameraSession.fresh with frameBytes := some bytes } context false
      (s'.seen Remembered.now))
    (fun bytes hok => ⟨hconfigured, hconfigures bytes hok⟩) (.inl hconfigured)
    fun bytes s₂ ⟨hu₂, hbytes, h₂⟩ => ?_
  rcases allocate_ready pace allocator settings hu₂ h₂ with
    ⟨e, herror, hu₃⟩ | ⟨base, hok, hready⟩
  · rw [Setup.bind_of_error herror]
    exact .inl hu₃
  · rw [Setup.bind_of_ok hok]
    have hregistered := hready.register pace allocator
    refine Setup.Answers.ends (I := I) (Q := fun _ => Ready h ⟨base, bytes, settings.bufferFrames⟩)
      (fun _ _ => hregistered) (.inr ⟨h, _, 0, hbytes, rfl, hregistered.stamping⟩)
      fun _ s₃ hr₃ => ?_
    obtain ⟨n, hstamping⟩ := hr₃.start pace allocator settings
    exact .inr ⟨h, _, n, hbytes, rfl, hstamping⟩

end Simulation

end Setup

/-! ## Whole runs -/

/-- The memory that the run was granted, if it was, with all states of the rig since then. -/
def Runner.grant? {σ : Type} (rig : Rig σ) (r : Runner σ) (number : ℕ) : Option (Grant σ) :=
  (r.remembering.run rig.remembering number).2.1.rig.grant

/-- **Stamps.** From the moment on at which a run has its buffer, the camera writes into the buffer
and nowhere else, each slot holds the largest of the numbers of the frames delivered into it, and
every frame that is told of has the offset of its slot or, if it could not be fetched, none. -/
theorem Runner.stamps (pace : Pace) (allocator : Allocator) (r : Runner Simulation) (number : ℕ)
    {buffer : FrameBuffer} (hallocated :
      Allocates (r.run (Simulation.rig pace allocator) number).2.1.past.toList buffer) :
    (0 < buffer.frameBytes ∧
      buffer.frameBytes = r.rig.camera.behavior.frameBytes.getD r.settings.region.frameBytes) ∧
    (0 < buffer.frames ∧ buffer.frames = r.settings.bufferFrames) ∧
    (∃ states,
      r.grant? (Simulation.rig pace allocator) number =
        some ⟨buffer.base, buffer.size, states⟩ ∧
      states.getLast? = some (r.run (Simulation.rig pace allocator) number).2.1.rig ∧
      StampsKept buffer states) ∧
    ∀ e ∈ (r.run (Simulation.rig pace allocator) number).2.1.past.toList, e.Placed buffer := by
  have hrun := (Simulation.rig pace allocator).remembering_run r number
  obtain ⟨path, taken, f, hcourse⟩ :=
    r.remembering.run_course (Simulation.remembering pace allocator) number
  have hobserve := (r.remembering.run_eq_observe (Simulation.remembering pace allocator) number).2
  rw [hrun] at hallocated ⊢
  let s₀ : RunState (Remembered Simulation) := .initial (.fresh r.rig) r.mailbox.reset
  -- the buffer that was told of is still held when the run comes to its teardown
  have hheld : (Run.drive (Simulation.remembering pace allocator) r.settings s₀).2.buffer =
      .held buffer := by
    have hstanding := congrArg Standing.buffer hcourse.driven
    exact hstanding.trans ((hcourse.allocates_iff buffer).mp hallocated)
  have hfresh : Unopened r.rig.camera.behavior (s₀.seen Remembered.now) := ⟨rfl, rfl, rfl⟩
  rcases Simulation.setup_kept pace allocator r.settings (.initial r.rig r.mailbox.reset)
    hfresh with hu | ⟨h, b, n, hbytes, hframes, hs⟩
  · have hu₁ := hu.unwinds (Run.drive_unwinds (Simulation.remembering pace allocator) s₀ r.settings)
    exact absurd hheld (hu₁.held buffer)
  · obtain ⟨n₁, hs₁⟩ :=
      hs.unwinds (Run.drive_unwinds (Simulation.remembering pace allocator) s₀ r.settings)
    obtain rfl := hs₁.held buffer hheld
    obtain ⟨n₂, hs₂⟩ :=
      hs₁.unwinds (Run.leave_unwinds (Simulation.remembering pace allocator) s₀ r.settings number)
    have hend : Stamping h buffer n₂
        (r.remembering.run (Simulation.remembering pace allocator) number).2.1 := by
      rw [hobserve]
      exact hs₂
    obtain ⟨past, hgrant, hkept, -⟩ := hend.filled.kept
    exact ⟨⟨hend.filled.frameBytes, hbytes⟩, ⟨hend.filled.frames, hframes⟩,
      ⟨_, hgrant, List.getLast?_concat, hkept⟩, hend.placed⟩

/-- The lossy camera with a buffer of three frames, whose slots are used again. -/
def Runner.lossyThree : Runner Simulation :=
  { Runner.lossy with settings := { Runner.lossy.settings with bufferFrames := 3 } }

/-- What comes of it where the camera keeps time. -/
def Runner.lossyThreeRun : Outcome × RunState Simulation × Runner Simulation :=
  Runner.lossyThree.run (Simulation.rig Simulation.steady fun _ => some 4096) 1

theorem Runner.stamps_lossyThree :
    Allocates Runner.lossyThreeRun.2.1.past.toList ⟨4096, 524288, 3⟩ ∧
    (∃ states,
      Runner.lossyThree.grant? (Simulation.rig Simulation.steady fun _ => some 4096) 1 =
        some ⟨4096, 524288 * 3, states⟩ ∧
      states.getLast? = some Runner.lossyThreeRun.2.1.rig ∧
      StampsKept ⟨4096, 524288, 3⟩ states) ∧
    (∀ e ∈ Runner.lossyThreeRun.2.1.past.toList, e.Placed ⟨4096, 524288, 3⟩) ∧
    (List.range 3).map (fun i =>
      Runner.lossyThreeRun.2.1.rig.camera.memory.word (4096 + i * 524288)) = [4, 5, 6] := by
  have hallocated : Allocates Runner.lossyThreeRun.2.1.past.toList ⟨4096, 524288, 3⟩ := by
    unfold Allocates
    decide +kernel
  have hrun : Runner.lossyThree.run (Simulation.rig Simulation.steady fun _ => some 4096) 1 =
    Runner.lossyThreeRun := rfl
  have hstamps := @Runner.stamps Simulation.steady (fun _ => some 4096) .lossyThree 1
    ⟨4096, 524288, 3⟩
  rw [hrun] at hstamps
  obtain ⟨-, -, hkept, hplaced⟩ := hstamps hallocated
  exact ⟨hallocated, hkept, hplaced, by decide +kernel⟩

end FrameWatch
