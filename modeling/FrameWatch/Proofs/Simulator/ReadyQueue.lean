import FrameWatch.Proofs.Simulator.Histories

/-!
# The ready queue

Frame periods fill the ready queue of a session, and whoever fetches a frame empties it.

1. `Event.frame?` gives the frames that were delivered; `Simulator.acquired` are those of the newest
   acquisition and `Simulator.waiting` those since the last fetch.
2. `Simulator.Queued` says how both stand to the session, and `Queued.turn` that every event
   keeps it.
3. `Simulator.Stuck`: an acquisition whose ready queue is full brings nothing until a frame is
   fetched or it is started again.
4. `Simulator.ready_queue_law` puts it together for every history.
-/

namespace FrameWatch

namespace SimulatorBehavior

variable (b : SimulatorBehavior) {n : ℕ}

/-- The frames up to frame `n` that are not dropped. -/
def undropped (n : ℕ) : List ℕ := (List.range' 1 n).filter fun k => (k : ℤ) ∉ b.dropFrames

/-- The frames up to frame `n` that are dropped, each of them once. -/
def dropped (n : ℕ) : Finset ℤ := b.dropFrames.toFinset.filter fun k => 1 ≤ k ∧ k ≤ n

theorem pairwise_undropped (n : ℕ) : (b.undropped n).Pairwise (· < ·) := by
  unfold undropped
  apply List.Pairwise.filter
  exact List.pairwise_lt_range'

variable {b}

theorem undropped_succ_of_dropped (hdrop : ((n + 1 : ℕ) : ℤ) ∈ b.dropFrames) :
    b.undropped (n + 1) = b.undropped n := by
  unfold undropped
  rw [List.range'_concat, List.filter_append, Nat.one_mul, Nat.add_comm 1 n,
    List.filter_cons_of_neg (by simpa using hdrop), List.filter_nil, List.append_nil]

theorem undropped_succ (hdrop : ((n + 1 : ℕ) : ℤ) ∉ b.dropFrames) :
    b.undropped (n + 1) = b.undropped n ++ [n + 1] := by
  unfold undropped
  rw [List.range'_concat, List.filter_append, Nat.one_mul, Nat.add_comm 1 n,
    List.filter_cons_of_pos (by simpa using hdrop), List.filter_nil]

theorem dropped_succ_of_dropped (hdrop : ((n + 1 : ℕ) : ℤ) ∈ b.dropFrames) :
    b.dropped (n + 1) = insert ((n + 1 : ℕ) : ℤ) (b.dropped n) := by
  ext k
  simp only [dropped, Finset.mem_filter, List.mem_toFinset, Finset.mem_insert]
  constructor
  · rintro ⟨hk, hlo, hhi⟩
    by_cases hlast : k = ((n + 1 : ℕ) : ℤ)
    · exact .inl hlast
    · exact .inr ⟨hk, hlo, by omega⟩
  · rintro (rfl | ⟨hk, hlo, hhi⟩)
    · exact ⟨hdrop, by omega, le_rfl⟩
    · exact ⟨hk, hlo, by omega⟩

theorem dropped_succ (hdrop : ((n + 1 : ℕ) : ℤ) ∉ b.dropFrames) :
    b.dropped (n + 1) = b.dropped n := by
  ext k
  simp only [dropped, Finset.mem_filter, List.mem_toFinset]
  constructor
  · rintro ⟨hk, hlo, hhi⟩
    have hne : k ≠ ((n + 1 : ℕ) : ℤ) := fun hlast => hdrop (hlast ▸ hk)
    exact ⟨hk, hlo, by omega⟩
  · rintro ⟨hk, hlo, hhi⟩
    exact ⟨hk, hlo, by omega⟩

variable (b) in
/-- Every frame is dropped or not. -/
theorem length_undropped (n : ℕ) : n = (b.undropped n).length + (b.dropped n).card := by
  induction n with
  | zero =>
    have hnone : b.dropped 0 = ∅ := Finset.filter_eq_empty_iff.mpr fun k _ hk => by omega
    rw [hnone]
    rfl
  | succ n ih =>
    by_cases hdrop : ((n + 1 : ℕ) : ℤ) ∈ b.dropFrames
    · have hnew : ((n + 1 : ℕ) : ℤ) ∉ b.dropped n := by
        intro hold
        have hle := (Finset.mem_filter.mp hold).2.2
        omega
      rw [undropped_succ_of_dropped hdrop, dropped_succ_of_dropped hdrop,
        Finset.card_insert_of_notMem hnew]
      omega
    · rw [undropped_succ hdrop, dropped_succ hdrop, List.length_append]
      simp only [List.length_singleton]
      omega

end SimulatorBehavior

namespace Simulator

variable {b : SimulatorBehavior} {h : Handle} {es : List Event} {e : Event}
  {o o' : Option CameraSession}

/-! ## Frames delivered -/

/-- The frames of a handle that were delivered. -/
def frames (h : Handle) (es : List Event) : List LatestFrame := es.filterMap (·.frame? h)

/-- The frames of a handle that were delivered after the last event with `p`. -/
def framesSince (p : Event → Bool) (h : Handle) (es : List Event) : List LatestFrame :=
  frames h (es.rtakeWhile fun e => !p e)

/-- A session begins, or an acquisition of it. -/
def Event.begins (h : Handle) (e : Event) : Bool := e.opens h || e.starts h

/-- The frames delivered since the acquisition was started. -/
def acquired (h : Handle) (es : List Event) : List LatestFrame := framesSince (·.begins h) h es

/-- The frames delivered since the acquisition was started or a frame was fetched. -/
def waiting (h : Handle) (es : List Event) : List LatestFrame :=
  framesSince (fun e => e.begins h || e.drains h) h es

theorem frames_concat : frames h (es ++ [e]) = frames h es ++ (e.frame? h).toList := by
  unfold frames
  rw [List.filterMap_append]
  cases he : e.frame? h <;> simp [he]

theorem frame?_passed {frame : Option LatestFrame} {announced : Option Announcement} :
    (Event.passed h frame announced).frame? h = frame := if_pos rfl

theorem begins_of_bears (he : e.bears h = false) : e.begins h = false := by
  obtain ⟨hopens, -, -, hstarts, -⟩ := Event.of_bears he
  unfold Event.begins
  rw [hopens, hstarts]
  rfl

section FramesSince

variable {p : Event → Bool}

theorem framesSince_concat (he : p e = false) :
    framesSince p h (es ++ [e]) = framesSince p h es ++ (e.frame? h).toList := by
  unfold framesSince
  rw [List.rtakeWhile_concat, if_pos (by simp [he]), frames_concat]

theorem framesSince_concat_self (he : p e = true) : framesSince p h (es ++ [e]) = [] := by
  unfold framesSince
  rw [List.rtakeWhile_concat, if_neg (by simp [he])]
  rfl

end FramesSince

/-! ## How the frames stand to the session -/

/-- What the events say about the session of `h`, where `a` is its newest acquisition. -/
structure Queued (b : SimulatorBehavior) (h : Handle) (a : Acquisition)
    (o : Option CameraSession) (es : List Event) : Prop where
  acquired : acquired h es = (b.undropped a.frame).map (a.shot b h)
  lasts : b.Lasts a.frame
  running : ∀ session a', o = some session → session.acquisition = some a' → a' = a
  pending : ∀ session, o = some session → session.queue.pending = (waiting h es).length
  bounded : ∀ session, o = some session → session.queue.pending ≤ b.readyQueueDepth
  newest : ∀ session, o = some session → 0 < session.queue.pending →
    ∃ latest, session.queue.latest = some latest ∧ (frames h es).getLast? = some latest

namespace Queued

variable {a : Acquisition} {session : CameraSession}

/-- An acquisition that has not come to any frame. -/
def unstarted : Acquisition := ⟨0, 0, 0, 0⟩

theorem nothing : Queued b h unstarted none [] where
  acquired := rfl
  lasts _ _ := Nat.zero_le _
  running _ _ hs := by cases hs
  pending _ hs := by cases hs
  bounded _ hs := by cases hs
  newest _ hs := by cases hs

/-- A session or an acquisition begins, with an empty queue. -/
theorem begin (he : e.begins h = true) (hframe : a.frame = 0) (hqueue : session.queue = .empty)
    (hrunning : ∀ a', session.acquisition = some a' → a' = a) :
    Queued b h a (some session) (es ++ [e]) where
  acquired := by
    unfold Simulator.acquired
    rw [framesSince_concat_self he, hframe]
    rfl
  lasts _ _ := by rw [hframe]; exact Nat.zero_le _
  running session' a' hs ha := by
    obtain rfl := Option.some.inj hs
    exact hrunning a' ha
  pending session' hs := by
    obtain rfl := Option.some.inj hs
    unfold waiting
    rw [framesSince_concat_self (by rw [he]; rfl), hqueue]
    rfl
  bounded session' hs := by
    obtain rfl := Option.some.inj hs
    rw [hqueue]
    exact Nat.zero_le _
  newest session' hs hpending := by
    obtain rfl := Option.some.inj hs
    rw [hqueue] at hpending
    exact absurd hpending (Nat.lt_irrefl 0)

/-- Nothing happens to the queue, and no other acquisition begins. -/
theorem keep (hq : Queued b h a o es) (he : e.begins h = false) (hdrains : e.drains h = false)
    (hframe : e.frame? h = none)
    (ho : ∀ session', o' = some session' → ∃ session, o = some session ∧
      session'.queue = session.queue ∧
      ∀ a', session'.acquisition = some a' → session.acquisition = some a') :
    Queued b h a o' (es ++ [e]) where
  acquired := by
    unfold Simulator.acquired
    rw [framesSince_concat he, hframe, Option.toList_none, List.append_nil]
    exact hq.acquired
  lasts := hq.lasts
  running session' a' hs ha := by
    obtain ⟨session, hs, -, hacquisition⟩ := ho session' hs
    exact hq.running session a' hs (hacquisition a' ha)
  pending session' hs := by
    obtain ⟨session, hs, hqueue, -⟩ := ho session' hs
    unfold waiting
    rw [framesSince_concat (by rw [he, hdrains]; rfl), hframe, Option.toList_none,
      List.append_nil, hqueue]
    exact hq.pending session hs
  bounded session' hs := by
    obtain ⟨session, hs, hqueue, -⟩ := ho session' hs
    rw [hqueue]
    exact hq.bounded session hs
  newest session' hs hpending := by
    obtain ⟨session, hs, hqueue, -⟩ := ho session' hs
    rw [hqueue] at hpending ⊢
    rw [frames_concat, hframe, Option.toList_none, List.append_nil]
    exact hq.newest session hs hpending

theorem fetch (hq : Queued b h a (some session) es) (he : e.begins h = false)
    (hdrains : e.drains h = true) (hframe : e.frame? h = none) :
    Queued b h a (some { session with queue := { session.queue with pending := 0 } })
      (es ++ [e]) where
  acquired := by
    unfold Simulator.acquired
    rw [framesSince_concat he, hframe, Option.toList_none, List.append_nil]
    exact hq.acquired
  lasts := hq.lasts
  running session' a' hs ha := by
    obtain rfl := Option.some.inj hs
    exact hq.running session a' rfl ha
  pending session' hs := by
    obtain rfl := Option.some.inj hs
    unfold waiting
    rw [framesSince_concat_self (by rw [hdrains]; simp)]
    rfl
  bounded session' hs := by
    obtain rfl := Option.some.inj hs
    exact Nat.zero_le _
  newest session' hs hpending := by
    obtain rfl := Option.some.inj hs
    exact absurd hpending (Nat.lt_irrefl 0)

theorem skip (hq : Queued b h a (some session) es) (hgoes : isFinished b a.frame = false)
    (hdrop : ((a.frame + 1 : ℕ) : ℤ) ∈ b.dropFrames) :
    Queued b h { a with frame := a.frame + 1 }
      (some { session with acquisition := some { a with frame := a.frame + 1 } })
      (es ++ [.passed h none none]) where
  acquired := by
    unfold Simulator.acquired
    rw [framesSince_concat rfl, frame?_passed, Option.toList_none, List.append_nil]
    dsimp only
    rw [SimulatorBehavior.undropped_succ_of_dropped hdrop]
    exact hq.acquired
  lasts := Follows.lasts_succ hgoes
  running session' a' hs ha' := by
    obtain rfl := Option.some.inj hs
    exact (Option.some.inj ha').symm
  pending session' hs := by
    obtain rfl := Option.some.inj hs
    unfold waiting
    rw [framesSince_concat rfl, frame?_passed, Option.toList_none, List.append_nil]
    exact hq.pending session rfl
  bounded session' hs := by
    obtain rfl := Option.some.inj hs
    exact hq.bounded session rfl
  newest session' hs hpending := by
    obtain rfl := Option.some.inj hs
    rw [frames_concat, frame?_passed, Option.toList_none, List.append_nil]
    exact hq.newest session rfl hpending

theorem deliver {announced : Option Announcement} (hq : Queued b h a (some session) es)
    (hgoes : isFinished b a.frame = false) (hroom : session.queue.pending < b.readyQueueDepth)
    (hdrop : ((a.frame + 1 : ℕ) : ℤ) ∉ b.dropFrames) :
    Queued b h { a with frame := a.frame + 1 }
      (some { session with
        queue := ⟨session.queue.pending + 1, some (a.shot b h (a.frame + 1))⟩
        acquisition := some { a with frame := a.frame + 1 } })
      (es ++ [.passed h (some (a.shot b h (a.frame + 1))) announced]) where
  acquired := by
    unfold Simulator.acquired
    rw [framesSince_concat rfl, frame?_passed, Option.toList_some]
    dsimp only
    rw [SimulatorBehavior.undropped_succ hdrop, List.map_append]
    exact congrArg (· ++ [a.shot b h (a.frame + 1)]) hq.acquired
  lasts := Follows.lasts_succ hgoes
  running session' a' hs ha' := by
    obtain rfl := Option.some.inj hs
    exact (Option.some.inj ha').symm
  pending session' hs := by
    obtain rfl := Option.some.inj hs
    unfold waiting
    rw [framesSince_concat rfl, frame?_passed, List.length_append]
    exact congrArg (· + 1) (hq.pending session rfl)
  bounded session' hs := by
    obtain rfl := Option.some.inj hs
    exact hroom
  newest session' hs _ := by
    obtain rfl := Option.some.inj hs
    refine ⟨_, rfl, ?_⟩
    rw [frames_concat, frame?_passed]
    exact List.getLast?_concat

/-- Every event keeps it. -/
theorem turn (hq : Queued b h a o es) (hturn : Turn b h o e o') :
    ∃ a', Queued b h a' o' (es ++ [e]) := by
  cases hturn with
  | opened =>
    refine ⟨unstarted, begin ?_ rfl rfl fun a' ha => by cases ha⟩
    simp [Event.begins, Event.opens]
  | closed => exact ⟨a, hq.keep rfl rfl rfl fun session' hs => by cases hs⟩
  | configured =>
    refine ⟨a, hq.keep rfl rfl rfl fun session' hs => ?_⟩
    obtain rfl := Option.some.inj hs
    exact ⟨_, rfl, rfl, fun _ ha => ha⟩
  | @started session base size bytes =>
    refine ⟨⟨0, base, bytes, size / bytes⟩,
      begin ?_ rfl rfl fun a' ha => (Option.some.inj ha).symm⟩
    simp [Event.begins, Event.starts]
  | aborted =>
    refine ⟨a, hq.keep rfl rfl rfl fun session' hs => ?_⟩
    obtain rfl := Option.some.inj hs
    exact ⟨_, rfl, rfl, fun _ ha => by cases ha⟩
  | fetched => exact ⟨a, hq.fetch rfl (by simp [Event.drains]) rfl⟩
  | skipped ha hgoes _ hdrop =>
    -- what runs is the newest acquisition; it goes on under its new frame number
    obtain rfl := hq.running _ _ rfl ha
    exact ⟨_, hq.skip hgoes hdrop⟩
  | delivered ha hgoes hroom hdrop =>
    obtain rfl := hq.running _ _ rfl ha
    exact ⟨_, hq.deliver hgoes hroom hdrop⟩
  | spared he =>
    obtain ⟨-, -, -, -, hdrains, hframe, -⟩ := Event.of_bears he
    refine ⟨a, hq.keep (begins_of_bears he) hdrains hframe fun session' hs => ?_⟩
    obtain rfl := Option.some.inj hs
    exact ⟨_, rfl, rfl, fun _ ha => ha⟩
  | absent he =>
    obtain ⟨-, -, -, -, hdrains, hframe, -⟩ := Event.of_bears he
    exact ⟨a, hq.keep (begins_of_bears he) hdrains hframe fun session' hs => by cases hs⟩

end Queued

theorem Turn.frame_le (hturn : Turn b h o e o') {frame : LatestFrame}
    (hframe : e.frame? h = some frame) {last : ℕ} (hlast : last ∈ b.stopAfter) :
    frame.info.number ≤ last := by
  cases hturn with
  | opened | closed | configured | started | aborted | fetched => cases hframe
  | skipped =>
    rw [frame?_passed] at hframe
    cases hframe
  | delivered _ hgoes =>
    rw [frame?_passed] at hframe
    obtain rfl := Option.some.inj hframe
    exact Int.ofNat_le.mpr (Follows.lasts_succ hgoes last hlast)
  | spared he | absent he =>
    obtain ⟨-, -, -, -, -, hnone, -⟩ := Event.of_bears he
    rw [hnone] at hframe
    cases hframe

/-! ## A full queue -/

/-- The ready queue is full, if an acquisition runs at all. -/
def Stuck (b : SimulatorBehavior) (o : Option CameraSession) : Prop :=
  ∀ session a, o = some session → session.acquisition = some a →
    b.readyQueueDepth ≤ session.queue.pending

/-- Only a fetch and a start end it. -/
theorem Turn.stuck (hturn : Turn b h o e o') (hstuck : Stuck b o) (hdrains : e.drains h = false)
    (hstarts : e.starts h = false) :
    Stuck b o' ∧ e.frame? h = none ∧ e.announced? h = none := by
  cases hturn with
  | opened =>
    refine ⟨fun session a hs ha => ?_, rfl, rfl⟩
    obtain rfl := Option.some.inj hs
    cases ha
  | closed => exact ⟨fun _ _ hs => (by cases hs), rfl, rfl⟩
  | configured =>
    refine ⟨fun session a hs ha => ?_, rfl, rfl⟩
    obtain rfl := Option.some.inj hs
    have hfull := hstuck _ a rfl ha
    exact hfull
  | started => simp [Event.starts] at hstarts
  | aborted =>
    refine ⟨fun session a hs ha => ?_, rfl, rfl⟩
    obtain rfl := Option.some.inj hs
    cases ha
  | fetched => simp [Event.drains] at hdrains
  | skipped ha _ hroom | delivered ha _ hroom =>
    exact absurd (hstuck _ _ rfl ha) (not_le.mpr hroom)
  | spared he =>
    obtain ⟨-, -, -, -, -, hquiet⟩ := Event.of_bears he
    refine ⟨fun session a hs ha => ?_, hquiet⟩
    obtain rfl := Option.some.inj hs
    have hfull := hstuck _ a rfl ha
    exact hfull
  | absent he =>
    obtain ⟨-, -, -, -, -, hquiet⟩ := Event.of_bears he
    exact ⟨hstuck, hquiet⟩

/-- An acquisition whose ready queue is full brings nothing until a frame is fetched or it is
started again. -/
theorem History.silent {x : History} (hx : x.Reached b)
    (hstuck : Stuck b (x.camera.sessions.get? h)) (more : List Input) :
    ∃ news, (x.after more).events = x.events ++ news ∧
      ((∀ e ∈ news, e.drains h = false ∧ e.starts h = false) →
        ∀ e ∈ news, e.frame? h = none ∧ e.announced? h = none) := by
  suffices hsilent : ∃ news, (x.after more).events = x.events ++ news ∧
      ((∀ e ∈ news, e.drains h = false ∧ e.starts h = false) →
        Stuck b ((x.after more).camera.sessions.get? h) ∧
          ∀ e ∈ news, e.frame? h = none ∧ e.announced? h = none) by
    obtain ⟨news, hevents, hquiet⟩ := hsilent
    exact ⟨news, hevents, fun hnews => (hquiet hnews).2⟩
  -- the events of the past are set apart, as they may hold fetches and starts
  refine after_turns (h := h) (P := fun o es => ∃ news, es = x.events ++ news ∧
      ((∀ e ∈ news, e.drains h = false ∧ e.starts h = false) →
        Stuck b o ∧ ∀ e ∈ news, e.frame? h = none ∧ e.announced? h = none)) ?_ hx
    ⟨[], by simp, fun _ => ⟨hstuck, by simp⟩⟩ more
  rintro o e o' es ⟨news, rfl, hquiet⟩ hturn
  refine ⟨news ++ [e], by simp, fun hnews => ?_⟩
  obtain ⟨hstuck, hold⟩ := hquiet fun e' he' => hnews e' (List.mem_append_left _ he')
  obtain ⟨hdrains, hstarts⟩ := hnews e (by simp)
  obtain ⟨hstuck', hnew⟩ := hturn.stuck hstuck hdrains hstarts
  refine ⟨hstuck', fun e' he' => ?_⟩
  rcases List.mem_append.mp he' with hpast | hlast
  · exact hold e' hpast
  · obtain rfl : e' = e := by simpa using hlast
    exact hnew

/-- While the queue is full, a frame period changes nothing but the count of those. -/
theorem tick_of_full {s : Simulator} {session : CameraSession} {a : Acquisition}
    (hs : s.sessions.get? h = some session) (ha : session.acquisition = some a)
    (hfull : s.behavior.readyQueueDepth ≤ session.queue.pending) :
    tick h s = (none, if isFinished s.behavior a.frame then s else
      { s with counts := { s.counts with blocked := s.counts.blocked + 1 } }) := by
  have hpassage := passage h s
  generalize tick h s = t at hpassage
  obtain ⟨announced, s'⟩ := t
  cases hpassage with
  | rested hrests => rw [if_pos (hrests session a hs ha)]
  | blocked hs' ha' hgoes =>
    obtain rfl := Option.some.inj (hs.symm.trans hs')
    obtain rfl := Option.some.inj (ha.symm.trans ha')
    rw [if_neg (by simp [hgoes])]
  | skipped hs' _ _ hroom | delivered hs' _ _ hroom =>
    obtain rfl := Option.some.inj (hs.symm.trans hs')
    exact absurd hfull (not_le.mpr hroom)

/-! ## Every history -/

/-- What holds of the ready queue of a handle. -/
structure ReadyQueueLaw (b : SimulatorBehavior) (h : Handle) (x : History) : Prop where
  /-- No more frames are pending than the queue holds. -/
  bounded : ∀ session, x.camera.sessions.get? h = some session →
    session.queue.pending ≤ b.readyQueueDepth
  /-- Where frames are pending, the newest frame is the one delivered last. -/
  newest : ∀ session, x.camera.sessions.get? h = some session → 0 < session.queue.pending →
    ∃ latest, session.queue.latest = some latest ∧ (frames h x.events).getLast? = some latest
  /-- Pending are the frames delivered since the last fetch or start. -/
  pending : ∀ session, x.camera.sessions.get? h = some session →
    session.queue.pending = (waiting h x.events).length
  /-- Every frame of the acquisition was delivered or dropped. -/
  numbered : ∀ session a, x.camera.sessions.get? h = some session →
    session.acquisition = some a →
      a.frame = (acquired h x.events).length + (b.dropped a.frame).card
  /-- The frames of the acquisition were delivered in their order. -/
  rising : ((acquired h x.events).map (·.info.number)).Pairwise (· < ·)
  /-- No frame comes after the last one. -/
  lasts : ∀ frame ∈ frames h x.events, ∀ last ∈ b.stopAfter, frame.info.number ≤ last
  /-- While the queue is full, a frame period brings nothing, and is counted unless the last frame
  has come. -/
  blocks : ∀ session a, x.camera.sessions.get? h = some session → session.acquisition = some a →
    session.queue.pending = b.readyQueueDepth →
      tick h x.camera = (none, if isFinished b a.frame then x.camera else
        { x.camera with counts := { x.camera.counts with
          blocked := x.camera.counts.blocked + 1 } })
  /-- It stays silent until a frame is fetched or the acquisition is started again. -/
  silent : ∀ session, x.camera.sessions.get? h = some session →
    session.queue.pending = b.readyQueueDepth → ∀ more, ∃ news,
      (x.after more).events = x.events ++ news ∧
        ((∀ e ∈ news, e.drains h = false ∧ e.starts h = false) →
          ∀ e ∈ news, e.frame? h = none ∧ e.announced? h = none)
  /-- A fetch that fails changes no queue. -/
  refused : ∀ k e, ((Call.fetch k).perform x.camera).1 = .failed e →
    ((Call.fetch k).perform x.camera).2.sessions = x.camera.sessions

theorem lasts_concat
    (hes : ∀ frame ∈ frames h es, ∀ last ∈ b.stopAfter, frame.info.number ≤ last)
    (hturn : Turn b h o e o') :
    ∀ frame ∈ frames h (es ++ [e]), ∀ last ∈ b.stopAfter, frame.info.number ≤ last := by
  intro frame hframe last hlast
  rw [frames_concat, List.mem_append] at hframe
  rcases hframe with hold | hnew
  · exact hes frame hold last hlast
  · exact hturn.frame_le (by simpa using hnew) hlast

/-- **The ready queue.** Whatever calls are made and frame periods pass in whatever order: the ready
queue holds the frames delivered since they were last fetched, and once it is full the camera is
silent until they are. -/
theorem ready_queue_law (b : SimulatorBehavior) (canSpawn : Bool) (inputs : List Input)
    (h : Handle) : ReadyQueueLaw b h (.of b canSpawn inputs) := by
  have hreached := History.reached_of b canSpawn inputs
  have hlasts := History.of_turns (b := b) (h := h)
    (P := fun _ es => ∀ frame ∈ frames h es, ∀ last ∈ b.stopAfter, frame.info.number ≤ last)
    (fun _ _ _ _ hes hturn => lasts_concat hes hturn) (by simp [frames]) canSpawn inputs
  obtain ⟨a, hq⟩ := History.of_turns (b := b) (h := h) (P := fun o es => ∃ a, Queued b h a o es)
    (fun _ _ _ _ hes hturn => hes.elim fun _ hq => hq.turn hturn) ⟨_, Queued.nothing⟩
    canSpawn inputs
  generalize History.of b canSpawn inputs = x at hreached hlasts hq ⊢
  refine ⟨hq.bounded, hq.newest, hq.pending, ?numbered, ?rising, hlasts, ?blocks, ?silent,
    ?refused⟩
  case numbered =>
    intro session a' hs ha
    obtain rfl := hq.running session a' hs ha
    rw [hq.acquired, List.length_map]
    exact b.length_undropped a'.frame
  case rising =>
    rw [hq.acquired, List.map_map]
    refine List.Pairwise.map _ ?_ (b.pairwise_undropped a.frame)
    intro n n' hlt
    exact Int.ofNat_lt.mpr hlt
  case blocks =>
    intro session a' hs ha hfull
    obtain rfl := hreached.behavior
    exact tick_of_full hs ha hfull.ge
  case silent =>
    intro session hs hfull more
    refine History.silent hreached ?_ more
    intro session' a' hs' _
    obtain rfl := Option.some.inj (hs.symm.trans hs')
    exact hfull.ge
  case refused =>
    intro k e hfailed
    have heffect := (Call.fetch k).effect x.camera
    rw [hfailed] at heffect
    rw [heffect.eq_of_failed hreached.consistent]
    rfl

/-- A camera whose ready queue holds one frame is silent after that frame, until it is fetched. -/
example :
    let h := Handle.ofCount 0
    let x := History.of { SimulatorBehavior.standard with readyQueueDepth := 1 } true
      [.call (.openCamera RunSettings.standardCamera),
        .call (.configure h (.square 1) ⟨.timed, 0⟩ 10 .overwrite),
        .call (.start h (some 4096) 2), .period h, .period h, .call (.fetch h), .period h]
    (frames h x.events).map (·.info.number) = [1, 2] ∧ x.camera.counts.blocked = 1 := by
  decide

end Simulator

end FrameWatch
