import FrameWatch.Proofs.Run.Moves
import FrameWatch.Proofs.Simulator.Frames
import FrameWatch.Proofs.Simulator.Ticks
import FrameWatch.Simulator.Rig

/-!
# Following the simulated camera

The simulated camera comes to its frames one after the other, and the handler fetches each of them
as soon as it hears of it. `Follows` says how far the camera has come in a run, and that the frames
put into the mailbox until then are those that can be heard of. A frame period keeps that
(`Follows.tick`), and so does whatever else can happen during a watch (`Follows.watches`).
-/

namespace FrameWatch

open MailboxEvent
open Relation (ReflTransGen)

/-- What is told about frame `k`: its number, and whether fetching it failed. -/
def SimulatorBehavior.told (b : SimulatorBehavior) (k : ℕ) : ℤ × Bool :=
  (k, decide ((k : ℤ) ∈ b.failFetchOn))

/-- What a descriptor tells about its frame. -/
def FrameDescriptor.told (d : FrameDescriptor) : ℤ × Bool := (d.sequence, d.degraded)

/-! ## The simulated camera as a rig -/

namespace Simulation

variable {s : Simulation} {h : Handle}

theorem tick_of_handle (hs : s.handle = some h) :
    tick s = ((Simulator.tick h s.camera).1.map fun a => ⟨a.info, true⟩,
      { s with camera := (Simulator.tick h s.camera).2 }) := by
  obtain ⟨camera, faults, handle, epoch, clock, moments, acquiringAtClose⟩ := s
  obtain rfl : handle = some h := hs
  rfl

theorem fetch_eq (s : Simulation) (h : Handle) :
    fetch h s = (match (Simulator.fetch h s.camera).1 with
        | .ok latest => .frame latest.address
        | .error e => .failed e,
      { s with camera := (Simulator.fetch h s.camera).2 }) := by
  have hrun : fetch h s = (match (Simulator.fetch h s.camera).1 with
    | .ok latest => return .frame latest.address
    | .error e => return .failed e : StateM Simulation _)
      { s with camera := (Simulator.fetch h s.camera).2 } := rfl
  rw [hrun]
  cases (Simulator.fetch h s.camera).1 <;> rfl

end Simulation

namespace Act

variable {σ : Type} (rig : Rig σ) {s : RunState σ}

theorem receive_of_missing {n : Notification} {handler : Handler}
    (hlive : s.context.live? = some handler) (hinfo : n.info = none) :
    (receive rig n s).2 = s := by
  rcases receive_cases rig s n with
    ⟨-, h⟩ | ⟨-, hdead, -⟩ | ⟨handler', info, -, -, hinfo', -, -⟩
  · exact h
  · rw [hlive] at hdead; cases hdead
  · rw [hinfo] at hinfo'; cases hinfo'

theorem receive_of_info {info : FrameInfo} {handler : Handler} (hreg : s.registered = true)
    (hlive : s.context.live? = some handler) :
    (receive rig ⟨some info, true⟩ s).2 = handled rig handler ⟨some info, true⟩ info s := by
  rcases receive_cases rig s ⟨some info, true⟩ with
    ⟨hignored, -⟩ | ⟨-, hdead, -⟩ | ⟨handler', info', -, hlive', hinfo, -, h⟩
  · rcases hignored with hno | hno | hno
    · rw [hreg] at hno; cases hno
    · cases hno
    · cases hno
  · rw [hlive] at hdead; cases hdead
  · obtain rfl : handler = handler' := by rw [hlive] at hlive'; cases hlive'; rfl
    cases hinfo
    exact h

end Act

/-! ## Whatever is not a frame period -/

/-- The same camera, the same handler, and the same frames put into the mailbox. -/
structure RunState.Agrees (s s' : RunState Simulation) : Prop where
  handle : s'.rig.handle = s.rig.handle
  camera : s'.rig.camera = s.rig.camera
  registered : s'.registered = s.registered
  context : s'.context = s.context
  signals : signals s'.mailboxEvents = signals s.mailboxEvents

namespace RunState

variable (s : RunState Simulation)

theorem agrees_take :
    s.Agrees ({ s with mailbox := s.mailbox.take.2 }.step (.waited s.mailbox.take.1)) := by
  refine ⟨rfl, rfl, rfl, rfl, ?_⟩
  rw [mailboxEvents_step]
  show MailboxEvent.signals (s.mailboxEvents ++ [.ofTaken s.mailbox.take.1]) = _
  rw [signals_concat]
  cases s.mailbox.take.1 <;> exact List.append_nil _

theorem agrees_did {e : RunStep} (hown : e.isOwn = true) (hwait : ∀ t, e ≠ .waited t) :
    s.Agrees (s.step e) := by
  refine ⟨rfl, rfl, rfl, rfl, ?_⟩
  rw [mailboxEvents_step, e.mailboxEvent?_of_own hown hwait]
  exact congrArg MailboxEvent.signals (List.append_nil _)

theorem agrees_log (e : RunEvent) : s.Agrees (Act.log e s).2 :=
  s.agrees_did rfl (by simp)

theorem agrees_enter (p : Phase) : s.Agrees (Act.enter p s).2 :=
  ⟨rfl, rfl, rfl, rfl, (s.agrees_log (.transition s.phase p)).signals⟩

end RunState

/-- What a frame period keeps, and what depends on the camera and the handler alone, lasts for a
watch. -/
theorem keeps_of_tick {pace : Pace} {allocator : Allocator} {P : RunState Simulation → Prop}
    (hagrees : ∀ s s', s.Agrees s' → P s → P s')
    (htick : ∀ s, P s → P (Act.deliverTick (Simulation.rig pace allocator) s).2)
    {s s' : RunState Simulation}
    (hs : ReflTransGen (WatchMove (Simulation.rig pace allocator)) s s') (h : P s) : P s' := by
  induction hs with
  | refl => exact h
  | @tail s₁ _ _ hmove ih =>
    cases hmove with
    | arrive m => exact hagrees s₁ _ ⟨rfl, rfl, rfl, rfl, rfl⟩ ih
    | tick => exact htick _ ih
    | did e hown hwait => exact hagrees _ _ (RunState.agrees_did _ hown hwait) ih
    | take => exact hagrees _ _ (RunState.agrees_take _) ih

/-! ## Following -/

/-- In the run, the camera `h` with the behaviour `b` has come to frame `n`, and of the frames until
then those were put into the mailbox that can be heard of. -/
structure Follows (b : SimulatorBehavior) (h : Handle) (n : ℕ) (s : RunState Simulation) :
    Prop where
  handle : s.rig.handle = some h
  behavior : s.rig.camera.behavior = b
  registered : s.registered = true
  context : ∃ handler, s.context.live? = some handler ∧ handler.camera = h
  running : s.rig.camera.Running h n (b.backlog n)
  reaches : b.Reaches n
  heard : (signals s.mailboxEvents).map FrameDescriptor.told = (b.heardTo n).map b.told

/-- The camera has gone on, and nothing has come of it yet. -/
def RunState.turned (s : RunState Simulation) (camera : Simulator) : RunState Simulation :=
  { s with rig := { s.rig with camera := camera } }

namespace Follows

variable {b : SimulatorBehavior} {h : Handle} {n : ℕ} {s : RunState Simulation} {pace : Pace}
  {allocator : Allocator}

theorem agree {s' : RunState Simulation} (hf : Follows b h n s) (hs : s.Agrees s') :
    Follows b h n s' where
  handle := hs.handle.trans hf.handle
  behavior := by rw [hs.camera]; exact hf.behavior
  registered := hs.registered.trans hf.registered
  context := by rw [hs.context]; exact hf.context
  running := by rw [hs.camera]; exact hf.running
  reaches := hf.reaches
  heard := by rw [hs.signals]; exact hf.heard

theorem lasts_succ (hfinished : Simulator.isFinished b n = false) : b.Lasts (n + 1) := by
  intro last hlast
  unfold Simulator.isFinished at hfinished
  rw [hlast] at hfinished
  simpa using hfinished

theorem silent (hf : Follows b h n s)
    (ht : (Simulator.tick h s.rig.camera).1 = none) :
    (Act.deliverTick (Simulation.rig pace allocator) s).2 =
      s.turned (Simulator.tick h s.rig.camera).2 := by
  have hrun := Simulation.tick_of_handle hf.handle
  have hnone : ((Simulation.rig pace allocator).tick s.rig).1 = none := by
    show (Simulation.tick s.rig).1 = none
    rw [hrun, ht]
    rfl
  rw [Act.deliverTick_of_none _ _ hnone]
  show { s with rig := (Simulation.tick s.rig).2 } = _
  rw [hrun]
  rfl

theorem announced (hf : Follows b h n s) {a : Announcement}
    (ht : (Simulator.tick h s.rig.camera).1 = some a) :
    (Act.deliverTick (Simulation.rig pace allocator) s).2 =
      (Act.receive (Simulation.rig pace allocator) ⟨a.info, true⟩
        (s.turned (Simulator.tick h s.rig.camera).2)).2 := by
  have hrun := Simulation.tick_of_handle hf.handle
  have hsome : ((Simulation.rig pace allocator).tick s.rig).1 = some ⟨a.info, true⟩ := by
    show (Simulation.tick s.rig).1 = _
    rw [hrun, ht]
    rfl
  rw [Act.deliverTick_of_some _ _ hsome]
  show (Act.receive _ _ { s with rig := (Simulation.tick s.rig).2 }).2 = _
  rw [hrun]
  rfl

/-- The camera goes on to the next frame, and nothing is heard of it. -/
theorem skip (hf : Follows b h n s) {camera : Simulator}
    (hlast : b.Lasts (n + 1)) (hroom : b.backlog n < b.readyQueueDepth)
    (hhears : ¬ b.Hears (n + 1)) (hbehavior : camera.behavior = b)
    (hrunning : camera.Running h (n + 1) (b.backlog (n + 1))) :
    Follows b h (n + 1) (s.turned camera) where
  handle := hf.handle
  behavior := hbehavior
  registered := hf.registered
  context := hf.context
  running := hrunning
  reaches := hf.reaches.succ hlast hroom
  heard := by
    rw [SimulatorBehavior.heardTo_succ, if_neg hhears, List.append_nil]
    exact hf.heard

theorem camera_count (handler : Handler) (number : ℤ) (answer : Fetched) :
    ((handler.count number).noteFetch answer).camera = handler.camera := by
  cases answer <;> rfl

/-- The handler hears of the next frame, and has fetched it or not. -/
theorem hear (hf : Follows b h n s) {camera : Simulator} {handler : Handler}
    (hlive : s.context.live? = some handler) (hcamera : handler.camera = h)
    (hlast : b.Lasts (n + 1)) (hroom : b.backlog n < b.readyQueueDepth)
    (hhears : b.Hears (n + 1))
    (answer : Fetched) {d : FrameDescriptor}
    (hanswer : ((Simulation.rig pace allocator).fetch h (s.turned camera).rig).1 = answer)
    (hd : handler.descriptor? (Simulator.frameInfo b h (n + 1)) answer = some d)
    (htold : d.told = b.told (n + 1))
    (hbehavior : (Simulator.fetch h camera).2.behavior = b)
    (hrunning : (Simulator.fetch h camera).2.Running h (n + 1) (b.backlog (n + 1))) :
    Follows b h (n + 1) (Act.handled (Simulation.rig pace allocator) handler
      ⟨some (Simulator.frameInfo b h (n + 1)), true⟩ (Simulator.frameInfo b h (n + 1))
      (s.turned camera)) := by
  subst hcamera
  have hfetched : ((Simulation.rig pace allocator).fetch handler.camera (s.turned camera).rig).2 =
      { s.rig with camera := (Simulator.fetch handler.camera camera).2 } := by
    show (Simulation.fetch handler.camera _).2 = _
    rw [Simulation.fetch_eq]
    rfl
  refine ⟨?_, ?_, hf.registered, ?_, ?_, hf.reaches.succ hlast hroom, ?_⟩
  · show (Prod.snd (_ : Fetched × Simulation)).handle = _
    rw [hfetched]
    exact hf.handle
  · show (Prod.snd (_ : Fetched × Simulation)).camera.behavior = _
    rw [hfetched]
    exact hbehavior
  · refine ⟨_, ?_, camera_count handler (n + 1 : ℕ) answer⟩
    show (Custody.map _ s.context).live? = _
    rw [Custody.live?_map, hlive, hanswer]
    rfl
  · show (Prod.snd (_ : Fetched × Simulation)).camera.Running _ _ _
    rw [hfetched]
    exact hrunning
  · rw [RunState.mailboxEvents_handled, hanswer, hd, SimulatorBehavior.heardTo_succ, if_pos hhears]
    show (signals (s.mailboxEvents ++ [.signalled d])).map _ = _
    rw [signals_concat, List.map_append, hf.heard, List.map_append]
    show _ ++ [d.told] = _ ++ [b.told (n + 1)]
    rw [htold]

/-- The frame that the camera has just announced is fetched, unless the behaviour forbids it. -/
theorem fetch (hf : Follows b h n s) {camera : Simulator} (hbehavior : camera.behavior = b)
    (hlast : b.Lasts (n + 1)) (hroom : b.backlog n < b.readyQueueDepth)
    (hdrop : ((n + 1 : ℕ) : ℤ) ∉ b.dropFrames) (hnull : ((n + 1 : ℕ) : ℤ) ∉ b.nullInfoOn)
    (hrunning : camera.Running h (n + 1) (b.backlog n + 1)) (hnewest : camera.Newest h (n + 1)) :
    Follows b h (n + 1) (Act.receive (Simulation.rig pace allocator)
      ⟨some (Simulator.frameInfo b h (n + 1)), true⟩ (s.turned camera)).2 := by
  obtain ⟨handler, hlive, hcamera⟩ := hf.context
  have hhears : b.Hears (n + 1) :=
    (hf.reaches.succ hlast hroom).hears_iff.mpr ⟨hdrop, hnull⟩
  have hfetch := Simulation.fetch_eq (s.turned camera).rig h
  rw [Act.receive_of_info (Simulation.rig pace allocator) (s := s.turned camera) hf.registered
    hlive]
  by_cases hfail : ((n + 1 : ℕ) : ℤ) ∈ b.failFetchOn
  · obtain ⟨⟨e, he⟩, hbehavior', hrunning'⟩ :=
      hrunning.fetch_of_failed hnewest (by rw [hbehavior]; exact hfail)
    rw [← SimulatorBehavior.backlog_of_unfetched hdrop (.inr hfail)] at hrunning'
    refine hf.hear hlive hcamera hlast hroom hhears (.failed e) ?_ rfl ?_
      (hbehavior'.trans hbehavior) hrunning'
    · show (Simulation.fetch h _).1 = _
      rw [hfetch]
      show (match (Simulator.fetch h camera).1 with
        | .ok latest => Fetched.frame latest.address
        | .error e => .failed e) = _
      rw [he]
    · show ((_ : ℤ), true) = (_, decide _)
      rw [decide_eq_true hfail]
      rfl
  · obtain ⟨⟨latest, he⟩, hbehavior', hrunning'⟩ :=
      hrunning.fetch_of_ok hnewest (by rw [hbehavior]; exact hfail)
    rw [← SimulatorBehavior.backlog_of_fetched hdrop fun hu => hu.elim hnull hfail] at hrunning'
    refine hf.hear hlive hcamera hlast hroom hhears (.frame latest.address) ?_ rfl ?_
      (hbehavior'.trans hbehavior) hrunning'
    · show (Simulation.fetch h _).1 = _
      rw [hfetch]
      show (match (Simulator.fetch h camera).1 with
        | .ok latest => Fetched.frame latest.address
        | .error e => .failed e) = _
      rw [he]
    · show ((_ : ℤ), false) = (_, decide _)
      rw [decide_eq_false hfail]
      rfl

/-- A frame period passes. -/
theorem tick (hf : Follows b h n s) :
    ∃ n', Follows b h n' (Act.deliverTick (Simulation.rig pace allocator) s).2 := by
  have hbehavior := hf.behavior
  have hrunning := hf.running
  by_cases hfinished : Simulator.isFinished b n = true
  · have ht := hrunning.tick_of_finished (by rw [hbehavior]; exact hfinished)
    refine ⟨n, ?_⟩
    rw [hf.silent (by rw [ht]), ht]
    exact hf
  have hfinished' : Simulator.isFinished s.rig.camera.behavior n = false := by
    rw [hbehavior]; simpa using hfinished
  have hlast := lasts_succ (by simpa using hfinished)
  by_cases hroom : b.readyQueueDepth ≤ b.backlog n
  · have ht := hrunning.tick_of_full hfinished' (by rw [hbehavior]; exact hroom)
    refine ⟨n, ?_⟩
    rw [hf.silent (by rw [ht]), ht]
    exact ⟨hf.handle, hbehavior, hf.registered, hf.context, hrunning, hf.reaches, hf.heard⟩
  have hroom' : b.backlog n < s.rig.camera.behavior.readyQueueDepth := by
    rw [hbehavior]; omega
  refine ⟨n + 1, ?_⟩
  by_cases hdrop : ((n + 1 : ℕ) : ℤ) ∈ b.dropFrames
  · obtain ⟨hnone, hbehavior', hrunning'⟩ :=
      hrunning.tick_of_dropped hfinished' hroom' (by rw [hbehavior]; exact hdrop)
    rw [hf.silent hnone]
    refine hf.skip hlast (by omega) (fun hhears => hhears.1.1.2.1 hdrop)
      (hbehavior'.trans hbehavior) ?_
    rw [SimulatorBehavior.backlog_of_dropped hdrop]
    exact hrunning'
  obtain ⟨⟨token, htoken⟩, hbehavior', hrunning', hnewest⟩ :=
    hrunning.tick_of_delivered hfinished' hroom' (by rw [hbehavior]; exact hdrop)
  rw [hf.announced htoken]
  dsimp only
  rw [hbehavior]
  by_cases hnull : ((n + 1 : ℕ) : ℤ) ∈ b.nullInfoOn
  · obtain ⟨handler, hlive, -⟩ := hf.context
    have hignored := Act.receive_of_missing (Simulation.rig pace allocator) (n := ⟨none, true⟩)
      (s := s.turned (Simulator.tick h s.rig.camera).2) hlive rfl
    rw [if_pos (by simpa using hnull), hignored]
    refine hf.skip hlast (by omega) (fun hhears => hhears.2 hnull) (hbehavior'.trans hbehavior) ?_
    rw [SimulatorBehavior.backlog_of_unfetched hdrop (.inl hnull)]
    exact hrunning'
  · rw [if_neg (by simpa using hnull)]
    exact hf.fetch (hbehavior'.trans hbehavior) hlast (by omega) hdrop hnull hrunning' hnewest

/-- Whatever happens during a watch, the run follows the camera. -/
theorem watches {s' : RunState Simulation}
    (hs : ReflTransGen (WatchMove (Simulation.rig pace allocator)) s s') (hf : Follows b h n s) :
    ∃ n', Follows b h n' s' :=
  keeps_of_tick (P := fun s => ∃ n', Follows b h n' s)
    (fun _ _ hagrees ⟨n', hf'⟩ => ⟨n', hf'.agree hagrees⟩) (fun _ ⟨_, hf'⟩ => hf'.tick) hs ⟨n, hf⟩

end Follows

end FrameWatch
