import FrameWatch.Simulator.Basic
import Mathlib.Data.Int.Notation
import Mathlib.Data.Nat.Notation

/-!
# What a frame period brings

What the simulated camera does when a frame period passes and when its newest frame is fetched, told
by how far a running acquisition has come and by how many frames lie in its ready queue
(`Simulator.Running`). `Simulator.Passage` lists all that can come of a frame period.
-/

namespace FrameWatch

namespace Simulator

/-- The acquisition of a handle has come to frame `n`, with so many frames in the ready queue. -/
def Running (s : Simulator) (h : Handle) (n pending : ℕ) : Prop :=
  ∃ session a, s.sessions.get? h = some session ∧ session.registration.isSome = true ∧
    session.acquisition = some a ∧ a.frame = n ∧ session.queue.pending = pending

/-- The newest frame of a handle is frame `n`. -/
def Newest (s : Simulator) (h : Handle) (n : ℕ) : Prop :=
  ∃ session address, s.sessions.get? h = some session ∧
    session.queue.latest = some ⟨address, frameInfo s.behavior h n⟩

variable {s : Simulator} {h : Handle} {n pending : ℕ}

theorem tick_of_closed (hs : s.sessions.get? h = none) : tick h s = (none, s) := by
  unfold tick
  rw [hs]

theorem tick_of_idle {session : CameraSession} (hs : s.sessions.get? h = some session)
    (ha : session.acquisition = none) : tick h s = (none, s) := by
  unfold tick
  rw [hs]
  dsimp only
  rw [ha]

/-- `Passage s h announced s'`: a frame period of `h` takes the camera from `s` to `s'`, and this is
announced. -/
inductive Passage (s : Simulator) (h : Handle) : Option Announcement → Simulator → Prop
  /-- No acquisition runs, or its last frame has come. -/
  | rested (hrests : ∀ session a, s.sessions.get? h = some session →
      session.acquisition = some a → isFinished s.behavior a.frame = true) : Passage s h none s
  /-- The ready queue is full. -/
  | blocked {session : CameraSession} {a : Acquisition} (hs : s.sessions.get? h = some session)
      (ha : session.acquisition = some a) (hgoes : isFinished s.behavior a.frame = false)
      (hfull : s.behavior.readyQueueDepth ≤ session.queue.pending) :
      Passage s h none { s with counts := { s.counts with blocked := s.counts.blocked + 1 } }
  /-- The next frame is dropped. -/
  | skipped {session : CameraSession} {a : Acquisition} (hs : s.sessions.get? h = some session)
      (ha : session.acquisition = some a) (hgoes : isFinished s.behavior a.frame = false)
      (hroom : session.queue.pending < s.behavior.readyQueueDepth)
      (hdrop : ((a.frame + 1 : ℕ) : ℤ) ∈ s.behavior.dropFrames) :
      Passage s h none { s with
        sessions := s.sessions.modify h fun _ =>
          { session with acquisition := some { a with frame := a.frame + 1 } } }
  /-- The next frame comes. -/
  | delivered {session : CameraSession} {a : Acquisition} (hs : s.sessions.get? h = some session)
      (ha : session.acquisition = some a) (hgoes : isFinished s.behavior a.frame = false)
      (hroom : session.queue.pending < s.behavior.readyQueueDepth)
      (hdrop : ((a.frame + 1 : ℕ) : ℤ) ∉ s.behavior.dropFrames) :
      Passage s h (deliver h session a (a.frame + 1) s).1 (deliver h session a (a.frame + 1) s).2

/-- No frame period does anything else. -/
theorem passage (h : Handle) (s : Simulator) : Passage s h (tick h s).1 (tick h s).2 := by
  cases hs : s.sessions.get? h with
  | none =>
    rw [tick_of_closed hs]
    exact .rested fun _ _ hs' => by rw [hs] at hs'; cases hs'
  | some session =>
    cases ha : session.acquisition with
    | none =>
      rw [tick_of_idle hs ha]
      refine .rested fun _ _ hs' ha' => ?_
      obtain rfl := Option.some.inj (hs.symm.trans hs')
      rw [ha] at ha'
      cases ha'
    | some a =>
      unfold tick
      rw [hs]
      dsimp only
      rw [ha]
      dsimp only
      by_cases hfinished : isFinished s.behavior a.frame = true
      · rw [if_pos hfinished]
        refine .rested fun _ _ hs' ha' => ?_
        obtain rfl := Option.some.inj (hs.symm.trans hs')
        obtain rfl := Option.some.inj (ha.symm.trans ha')
        exact hfinished
      · rw [if_neg hfinished]
        have hgoes : isFinished s.behavior a.frame = false := by simpa using hfinished
        by_cases hfull : isFull s.behavior session.queue = true
        · rw [if_pos hfull]
          exact .blocked hs ha hgoes (by simpa [isFull] using hfull)
        · rw [if_neg hfull]
          have hroom : session.queue.pending < s.behavior.readyQueueDepth := by
            simpa [isFull] using hfull
          by_cases hdrop : ((a.frame + 1 : ℕ) : ℤ) ∈ s.behavior.dropFrames
          · rw [if_pos (by simpa using hdrop)]
            exact .skipped hs ha hgoes hroom hdrop
          · rw [if_neg (by simpa using hdrop)]
            exact .delivered hs ha hgoes hroom hdrop

/-- A frame period changes sessions, counts and memory only. -/
theorem Passage.keeps {announced : Option Announcement} {s' : Simulator}
    (hpassage : Passage s h announced s') :
    s'.behavior = s.behavior ∧ s'.canSpawn = s.canSpawn ∧ s'.lastError = s.lastError ∧
      s'.opened = s.opened := by
  cases hpassage <;> exact ⟨rfl, rfl, rfl, rfl⟩

/-- Where an acquisition runs, a frame period brings nothing, leaves a frame out or delivers one. -/
theorem tick_cases {session : CameraSession} {a : Acquisition}
    (hs : s.sessions.get? h = some session) (ha : session.acquisition = some a) :
    (∃ counts, tick h s = (none, { s with counts := counts })) ∨
    (((a.frame + 1 : ℕ) : ℤ) ∈ s.behavior.dropFrames ∧ tick h s = (none, { s with
      sessions := s.sessions.modify h fun _ =>
        { session with acquisition := some { a with frame := a.frame + 1 } } })) ∨
    (((a.frame + 1 : ℕ) : ℤ) ∉ s.behavior.dropFrames ∧
      tick h s = deliver h session a (a.frame + 1) s) := by
  have hpassage := passage h s
  generalize tick h s = t at hpassage
  obtain ⟨announced, s'⟩ := t
  cases hpassage with
  | rested => exact .inl ⟨_, rfl⟩
  | blocked => exact .inl ⟨_, rfl⟩
  | skipped hs' ha' _ _ hdrop =>
    obtain rfl := Option.some.inj (hs.symm.trans hs')
    obtain rfl := Option.some.inj (ha.symm.trans ha')
    exact .inr (.inl ⟨hdrop, rfl⟩)
  | delivered hs' ha' _ _ hdrop =>
    obtain rfl := Option.some.inj (hs.symm.trans hs')
    obtain rfl := Option.some.inj (ha.symm.trans ha')
    exact .inr (.inr ⟨hdrop, rfl⟩)

theorem Running.tick_of_finished (hr : s.Running h n pending)
    (hfinished : isFinished s.behavior n = true) : tick h s = (none, s) := by
  obtain ⟨session, a, hs, -, ha, rfl, -⟩ := hr
  unfold tick
  rw [hs]
  dsimp only
  rw [ha]
  dsimp only
  rw [if_pos hfinished]

theorem Running.tick_of_full (hr : s.Running h n pending)
    (hfinished : isFinished s.behavior n = false) (hfull : s.behavior.readyQueueDepth ≤ pending) :
    tick h s = (none, { s with counts := { s.counts with blocked := s.counts.blocked + 1 } }) := by
  obtain ⟨session, a, hs, -, ha, rfl, rfl⟩ := hr
  unfold tick
  rw [hs]
  dsimp only
  rw [ha]
  dsimp only
  rw [if_neg (by simp [hfinished]), if_pos (by simpa [isFull] using hfull)]

theorem Running.tick_of_dropped (hr : s.Running h n pending)
    (hfinished : isFinished s.behavior n = false) (hroom : pending < s.behavior.readyQueueDepth)
    (hdrop : ((n + 1 : ℕ) : ℤ) ∈ s.behavior.dropFrames) :
    (tick h s).1 = none ∧ (tick h s).2.behavior = s.behavior ∧
      (tick h s).2.Running h (n + 1) pending := by
  obtain ⟨session, a, hs, hreg, ha, rfl, rfl⟩ := hr
  have hrun : tick h s = (none, { s with
      sessions := s.sessions.modify h fun _ =>
        { session with acquisition := some { a with frame := a.frame + 1 } } }) := by
    unfold tick
    rw [hs]
    dsimp only
    rw [ha]
    dsimp only
    rw [if_neg (by simp [hfinished]), if_neg (by simpa [isFull] using hroom),
      if_pos (by simpa using hdrop)]
  rw [hrun]
  refine ⟨rfl, rfl, { session with acquisition := some { a with frame := a.frame + 1 } },
    { a with frame := a.frame + 1 }, ?_, hreg, rfl, rfl, rfl⟩
  rw [SessionTable.get?_modify, if_pos rfl, hs]
  rfl

theorem Running.tick_of_delivered (hr : s.Running h n pending)
    (hfinished : isFinished s.behavior n = false) (hroom : pending < s.behavior.readyQueueDepth)
    (hdrop : ((n + 1 : ℕ) : ℤ) ∉ s.behavior.dropFrames) :
    (∃ token, (tick h s).1 = some ⟨token,
      if s.behavior.nullInfoOn.contains ((n + 1 : ℕ) : ℤ) then none
      else some (frameInfo s.behavior h (n + 1))⟩) ∧
    (tick h s).2.behavior = s.behavior ∧ (tick h s).2.Running h (n + 1) (pending + 1) ∧
    (tick h s).2.Newest h (n + 1) := by
  obtain ⟨session, a, hs, hreg, ha, rfl, rfl⟩ := hr
  have hrun : tick h s = deliver h session a (a.frame + 1) s := by
    unfold tick
    rw [hs]
    dsimp only
    rw [ha]
    dsimp only
    rw [if_neg (by simp [hfinished]), if_neg (by simpa [isFull] using hroom),
      if_neg (by simpa using hdrop)]
  rw [hrun]
  obtain ⟨token, htoken⟩ := Option.isSome_iff_exists.mp hreg
  let session' := { session with
    queue := ⟨session.queue.pending + 1,
      some ⟨a.address (a.frame + 1), frameInfo s.behavior h (a.frame + 1)⟩⟩
    acquisition := some { a with frame := a.frame + 1 } }
  have hsessions : (deliver h session a (a.frame + 1) s).2.sessions =
      s.sessions.modify h fun _ => session' := rfl
  have hsession : (deliver h session a (a.frame + 1) s).2.sessions.get? h = some session' := by
    rw [hsessions, SessionTable.get?_modify, if_pos rfl, hs]
    rfl
  refine ⟨⟨token, ?_⟩, rfl, ⟨session', { a with frame := a.frame + 1 }, hsession, hreg, rfl, rfl,
    rfl⟩, session', _, hsession, rfl⟩
  show session.registration.map _ = _
  rw [htoken]
  rfl

/-! ## Fetching -/

theorem withSession_of_some {α : Type} {session : CameraSession}
    (hs : s.sessions.get? h = some session) (call : CameraSession → Action (Reply α)) :
    withSession h call s = call session s := by
  unfold withSession
  simp only [bind, StateT.bind, get, getThe, MonadStateOf.get, StateT.get, pure, hs]

theorem withSession_of_none {α : Type} (hs : s.sessions.get? h = none)
    (call : CameraSession → Action (Reply α)) : withSession h call s = failHandle h s := by
  unfold withSession
  simp only [bind, StateT.bind, get, getThe, MonadStateOf.get, StateT.get, pure, hs]

theorem fetch_of_some {session : CameraSession} {latest : LatestFrame}
    (hs : s.sessions.get? h = some session) (hlatest : session.queue.latest = some latest)
    (hpos : session.queue.pending ≠ 0) :
    fetch h s =
      let s₁ := { s with counts := { s.counts with fetches := s.counts.fetches + 1 } }
      if s.behavior.failFetchOn.contains latest.info.number then
        fail fetchFailed ("Injected fetch failure on frame " ++ toString latest.info.number) s₁
      else (.ok latest, { s₁ with sessions := s.sessions.modify h fun session =>
        { session with queue := { session.queue with pending := 0 } } }) := by
  have hrun : fetch h s = withSession h _
      { s with counts := { s.counts with fetches := s.counts.fetches + 1 } } := rfl
  have hs₁ : ({ s with counts := { s.counts with fetches := s.counts.fetches + 1 } } :
      Simulator).sessions.get? h = some session := hs
  rw [hrun, withSession_of_some hs₁]
  dsimp only
  rw [hlatest]
  dsimp only
  rw [if_neg hpos]
  show (if s.behavior.failFetchOn.contains latest.info.number then
      fail fetchFailed ("Injected fetch failure on frame " ++ toString latest.info.number)
    else _) _ = _
  split <;> rfl

/-- The newest frame of a running acquisition cannot be fetched. -/
theorem Running.fetch_of_failed (hr : s.Running h n (pending + 1)) (hn : s.Newest h n)
    (hfail : (n : ℤ) ∈ s.behavior.failFetchOn) :
    (∃ e, (fetch h s).1 = .error e) ∧ (fetch h s).2.behavior = s.behavior ∧
      (fetch h s).2.Running h n (pending + 1) := by
  obtain ⟨session, a, hs, hreg, ha, hframe, hpending⟩ := hr
  obtain ⟨session', address, hs', hlatest⟩ := hn
  obtain rfl : session' = session := by rw [hs] at hs'; cases hs'; rfl
  have hcontains : s.behavior.failFetchOn.contains (frameInfo s.behavior h n).number = true := by
    simpa [frameInfo] using hfail
  have hrun := fetch_of_some hs hlatest (by omega)
  dsimp only at hrun
  rw [if_pos hcontains] at hrun
  rw [hrun]
  exact ⟨⟨_, rfl⟩, rfl, session', a, hs, hreg, ha, hframe, hpending⟩

/-- Fetching the newest frame empties the ready queue. -/
theorem Running.fetch_of_ok (hr : s.Running h n (pending + 1)) (hn : s.Newest h n)
    (hfail : (n : ℤ) ∉ s.behavior.failFetchOn) :
    (∃ latest, (fetch h s).1 = .ok latest) ∧ (fetch h s).2.behavior = s.behavior ∧
      (fetch h s).2.Running h n 0 := by
  obtain ⟨session, a, hs, hreg, ha, hframe, hpending⟩ := hr
  obtain ⟨session', address, hs', hlatest⟩ := hn
  obtain rfl : session' = session := by rw [hs] at hs'; cases hs'; rfl
  have hcontains : ¬ s.behavior.failFetchOn.contains (frameInfo s.behavior h n).number = true := by
    simpa [frameInfo] using hfail
  have hrun := fetch_of_some hs hlatest (by omega)
  dsimp only at hrun
  rw [if_neg hcontains] at hrun
  rw [hrun]
  refine ⟨⟨_, rfl⟩, rfl, { session' with queue := { session'.queue with pending := 0 } }, a, ?_,
    hreg, ha, hframe, rfl⟩
  rw [SessionTable.get?_modify, if_pos rfl, hs]
  rfl

end Simulator

end FrameWatch
