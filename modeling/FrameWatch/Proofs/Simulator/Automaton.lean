import FrameWatch.Proofs.Simulator.Histories

/-!
# Sessions as automata

What can be done with a handle of the simulated camera follows from the calls that were made with
it, whatever was done with other handles.

1. `Turn.opened_iff`, `Turn.running_iff` and `Turn.agreed_iff`: what one event changes.
2. `Simulator.Tracked`: what the events say about a session, kept by every event.
3. `Simulator.start_done_iff`: when a start succeeds. `Simulator.first_frame`: what comes next.
4. `Simulator.Numbered`: the handles returned so far are those of the openings counted.
5. `Simulator.session_automaton` puts it together for every history.
-/

namespace FrameWatch

/-- Handles come round again after 65536 openings, not earlier. -/
theorem Handle.ofCount_inj {i j : ℕ} (hi : i < 65536) (hj : j < 65536)
    (hij : Handle.ofCount i = Handle.ofCount j) : i = j := by
  have hbmod : Int.bmod i 65536 = Int.bmod j 65536 := by injection hij
  have hi' : (i : ℤ).bmod 65536 % (65536 : ℕ) = i % (65536 : ℕ) := Int.bmod_emod
  have hj' : (j : ℤ).bmod 65536 % (65536 : ℕ) = j % (65536 : ℕ) := Int.bmod_emod
  rw [hbmod, hj'] at hi'
  omega

namespace Simulator

variable {b : SimulatorBehavior} {h k : Handle} {e : Event} {o o' : Option CameraSession}
  {es : List Event} {s s' : Simulator} {c : Call} {answer : Answer}

/-! ## One event -/

theorem Turn.opened_iff (hturn : Turn b h o e o') :
    o'.isSome = true ↔ e.opens h = true ∨ (o.isSome = true ∧ ¬ e.closes h = true) := by
  cases hturn with
  | opened => simp [Event.opens]
  | closed => simp [Event.opens, Event.closes]
  | configured | started | aborted | fetched | skipped | delivered =>
    simp [Event.opens, Event.closes]
  | spared he | absent he =>
    obtain ⟨hopens, hcloses, -⟩ := Event.of_bears he
    simp [hopens, hcloses]

theorem Turn.running_iff (hturn : Turn b h o e o') :
    (o'.bind (·.acquisition)).isSome = true ↔ e.starts h = true ∨
      ((o.bind (·.acquisition)).isSome = true ∧ ¬ (e.opens h || e.halts h) = true) := by
  cases hturn with
  | opened => simp [Event.starts, Event.opens, CameraSession.fresh]
  | closed => simp [Event.starts, Event.opens, Event.halts]
  | configured | fetched => simp [Event.starts, Event.opens, Event.halts]
  | started => simp [Event.starts]
  | aborted => simp [Event.starts, Event.opens, Event.halts]
  | skipped ha | delivered ha => simp [Event.starts, Event.opens, Event.halts, ha]
  | spared he hhalts =>
    obtain ⟨hopens, -, -, hstarts, -⟩ := Event.of_bears he
    simp [hopens, hhalts, hstarts]
  | absent he =>
    obtain ⟨-, -, -, hstarts, -⟩ := Event.of_bears he
    simp [hstarts]

theorem Turn.agreed_iff (hturn : Turn b h o e o') {session' : CameraSession} {bytes : ℕ}
    (hs' : o' = some session') :
    session'.frameBytes = some bytes ↔ e.agreed? h = some bytes ∨
      ((o.bind (·.frameBytes)) = some bytes ∧
        ¬ (e.opens h || (e.agreed? h).isSome) = true) := by
  cases hturn with
  | opened =>
    obtain rfl := Option.some.inj hs'
    simp [Event.agreed?, Event.opens, CameraSession.fresh]
  | closed => cases hs'
  | configured =>
    obtain rfl := Option.some.inj hs'
    simp [Event.agreed?]
  | started | aborted | fetched | skipped | delivered =>
    obtain rfl := Option.some.inj hs'
    simp [Event.agreed?, Event.opens]
  | spared he =>
    obtain ⟨hopens, -, hagreed, -⟩ := Event.of_bears he
    obtain rfl := Option.some.inj hs'
    simp [hopens, hagreed]
  | absent => cases hs'

/-! ## What the events say about a session -/

/-- The bytes of a frame agreed on last, since the handle was opened. -/
def Agreed (h : Handle) (bytes : ℕ) (es : List Event) : Prop :=
  Since (fun e => e.agreed? h = some bytes) (fun e => e.opens h || (e.agreed? h).isSome) es

/-- The session of `h` is what the events say. -/
structure Tracked (h : Handle) (o : Option CameraSession) (es : List Event) : Prop where
  opened : o.isSome = true ↔ Since (·.opens h) (·.closes h) es
  running : (o.bind (·.acquisition)).isSome = true ↔
    Since (·.starts h) (fun e => e.opens h || e.halts h) es
  agreed : ∀ session bytes, o = some session →
    (session.frameBytes = some bytes ↔ Agreed h bytes es)

theorem Tracked.nothing : Tracked h none [] where
  opened := by simp
  running := by simp
  agreed _ _ hs := by cases hs

theorem Tracked.turn (ht : Tracked h o es) (hturn : Turn b h o e o') :
    Tracked h o' (es ++ [e]) where
  opened := by rw [since_concat, ← ht.opened, hturn.opened_iff]
  running := by rw [since_concat, ← ht.running, hturn.running_iff]
  agreed session' bytes hs' := by
    unfold Agreed
    rw [since_concat, hturn.agreed_iff hs']
    cases o with
    | none =>
      -- the session has just come about, so that nothing agreed on before counts
      have hopens : e.opens h = true := by simpa using hturn.opened_iff.mp (by rw [hs']; rfl)
      simp [hopens]
    | some session =>
      rw [Option.bind_some, ht.agreed session bytes rfl]
      rfl

/-! ## Starting -/

section Start

variable {base : Option ℕ} {size : ℕ} {session : CameraSession} {a : Acquisition}

/-- When a start succeeds. -/
theorem start_done_iff (hstage : s.behavior.failStage ≠ some .startAcquisition)
    (hspawn : s.canSpawn = true) :
    ((Call.start h base size).perform s).1 = .done ↔
      ∃ session bytes, s.sessions.get? h = some session ∧ session.acquisition = none ∧
        session.frameBytes = some bytes ∧ bytes ≠ 0 ∧ bytes ≤ size ∧ base.isSome = true := by
  have heffect := (Call.start h base size).effect s
  generalize (Call.start h base size).perform s = t at heffect
  obtain ⟨answer, s'⟩ := t
  constructor
  · rintro rfl
    cases heffect with
    | started hs hidle hbytes hpos hfits => exact ⟨_, _, hs, hidle, hbytes, hpos, hfits, rfl⟩
  · rintro ⟨session, bytes, hs, hidle, hbytes, hpos, hfits, hbase⟩
    cases heffect with
    | started => rfl
    | threadless _ _ _ _ _ hnone =>
      rw [hspawn] at hnone
      cases hnone
    | refused hrefused =>
      -- each reason to refuse is ruled out by what the start asks for
      exfalso
      cases hrefused with
      | injected hc hinjected =>
        obtain rfl := Option.some.inj hc
        exact hstage hinjected
      | notOpen hc hnone =>
        obtain rfl : h = _ := Option.some.inj hc
        rw [hs] at hnone
        cases hnone
      | running hs' hrunning =>
        obtain rfl := Option.some.inj (hs.symm.trans hs')
        rw [hidle] at hrunning
        cases hrunning
      | notConfigured hs' hnone =>
        obtain rfl := Option.some.inj (hs.symm.trans hs')
        rw [hbytes] at hnone
        cases hnone
      | badBuffer hs' hbytes' hbuffer =>
        obtain rfl := Option.some.inj (hs.symm.trans hs')
        obtain rfl := Option.some.inj (hbytes.symm.trans hbytes')
        rcases hbuffer with rfl | hzero | hlarge
        · cases hbase
        · exact hpos hzero
        · exact absurd hlarge (not_lt.mpr hfits)

theorem isFinished_iff {n : ℕ} : isFinished b n = true ↔ ¬ b.Lasts (n + 1) := by
  unfold isFinished SimulatorBehavior.Lasts
  cases b.stopAfter with
  | none => simp
  | some last => simp

/-- The first frame of an acquisition is frame 1, unless it is left out. -/
theorem first_frame (hs : s.sessions.get? h = some session) (ha : session.acquisition = some a)
    (hframe : a.frame = 0) (hqueue : session.queue = .empty) :
    frameBetween h s (tick h s).2 =
      if s.behavior.Candidate 1 ∧ 0 < s.behavior.readyQueueDepth then
        some (a.shot s.behavior h 1) else none := by
  have hpassage := passage h s
  generalize (tick h s).1 = announced, (tick h s).2 = s' at hpassage ⊢
  have hpending : session.queue.pending = 0 := by rw [hqueue]; rfl
  cases hpassage with
  | rested hrests =>
    have hfinished := isFinished_iff.mp (hrests session a hs ha)
    rw [hframe] at hfinished
    rw [frameBetween_of_eq rfl, if_neg fun hfirst => hfinished hfirst.1.2.2]
  | blocked hs' _ _ hfull =>
    obtain rfl := Option.some.inj (hs.symm.trans hs')
    rw [frameBetween_of_eq, if_neg fun hfirst => by omega]
    rfl
  | skipped hs' ha' _ _ hdrop =>
    obtain rfl := Option.some.inj (hs.symm.trans hs')
    obtain rfl := Option.some.inj (ha.symm.trans ha')
    rw [hframe] at hdrop
    rw [frameBetween_of_eq, if_neg fun hfirst => hfirst.1.2.1 hdrop]
    rfl
  | delivered hs' ha' hgoes hroom hdrop =>
    obtain rfl := Option.some.inj (hs.symm.trans hs')
    obtain rfl := Option.some.inj (ha.symm.trans ha')
    rw [hframe] at hdrop hgoes
    rw [frameBetween_deliver hs, hframe,
      if_pos ⟨⟨le_rfl, hdrop, Follows.lasts_succ hgoes⟩, by omega⟩]

/-- A start begins again with an empty ready queue, and keeps what was agreed on and registered. -/
theorem start_of_done (hdone : (Call.start h base size).perform s = (.done, s')) :
    ∃ session a, s.sessions.get? h = some session ∧ a.frame = 0 ∧
      s'.sessions.get? h = some { session with queue := .empty, acquisition := some a } := by
  have heffect := (Call.start h base size).effect s
  rw [hdone] at heffect
  cases heffect with
  | @started _ base _ bytes session hs =>
    refine ⟨session, ⟨0, base, bytes, size / bytes⟩, hs, rfl, ?_⟩
    dsimp only
    rw [get?_modify_of_some hs]

end Start

/-! ## Aborting -/

section Abort

variable {session : CameraSession}

/-- An abort stops the acquisition, whether or not there is one. -/
theorem perform_abort (hs : s.sessions.get? h = some session) :
    (Call.abort h).perform s = (.done, { s.counting (.abort h) with
      sessions := s.sessions.modify h fun session => { session with acquisition := none } }) := by
  have heffect := (Call.abort h).effect s
  generalize (Call.abort h).perform s = t at heffect ⊢
  obtain ⟨answer, s'⟩ := t
  cases heffect with
  | aborted => rfl
  | refused hrefused =>
    exfalso
    cases hrefused with
    | injected hc => cases hc
    | notOpen hc hnone =>
      obtain rfl : h = _ := Option.some.inj hc
      rw [hs] at hnone
      cases hnone

/-- A second abort changes nothing but the count of calls. -/
theorem abort_twice (hs : s.sessions.get? h = some session) :
    ∃ s', (Call.abort h).perform s = (.done, s') ∧
      s'.sessions.get? h = some { session with acquisition := none } ∧
      (Call.abort h).perform s' = (.done, { s' with counts := s'.counts.made (.abort h) }) := by
  set s' : Simulator := { s.counting (.abort h) with
    sessions := s.sessions.modify h fun session => { session with acquisition := none } } with hs'
  have hstopped : s'.sessions.get? h = some { session with acquisition := none } :=
    get?_modify_of_some hs fun session => { session with acquisition := none }
  have htwice : s'.sessions.modify h (fun session => { session with acquisition := none }) =
      s'.sessions :=
    s.sessions.modify_modify h (fun session => { session with acquisition := none })
      fun session => { session with acquisition := none }
  refine ⟨s', perform_abort hs, hstopped, ?_⟩
  rw [perform_abort hstopped, htwice]
  rfl

end Abort

/-! ## The handles returned -/

theorem Effect.opened_eq (heffect : Effect s c answer s') :
    s'.opened = s.opened + if (Event.called c answer).isOpening then 1 else 0 := by
  cases heffect with
  | opened => rfl
  | @refused c => cases c <;> rfl
  | closed | selected | configured | registered | deregistered | started | threadless | aborted
  | fetched => rfl

theorem Effect.handle_eq (heffect : Effect s c answer s') (hanswer : answer = .opened h) :
    h = .ofCount s.opened := by
  cases heffect with
  | opened => exact (Answer.opened.inj hanswer).symm
  | refused | closed | selected | configured | registered | deregistered | started | threadless
  | aborted | fetched => cases hanswer

theorem Effect.handle?_of_opened (heffect : Effect s c answer s') (hanswer : answer = .opened h) :
    c.handle? = none := by
  cases heffect with
  | opened => rfl
  | refused | closed | selected | configured | registered | deregistered | started | threadless
  | aborted | fetched => cases hanswer

theorem opens_called (hopens : (Event.called c answer).opens h = true) :
    answer = .opened h ∧ (Event.called c answer).isOpening = true := by
  cases c with
  | openCamera name =>
    cases answer with
    | opened k =>
      obtain rfl : k = h := of_decide_eq_true hopens
      exact ⟨rfl, rfl⟩
    | negotiated | agreed | fetched | done | failed => cases hopens
  | close | selectMode | configure | register | deregister | start | abort | fetch => cases hopens

/-- The handles that are open were returned by the openings counted. -/
structure Numbered (x : History) : Prop where
  consistent : x.camera.Consistent
  opened : x.camera.opened = x.events.countP Event.isOpening
  handles : ∀ h, (x.camera.sessions.get? h).isSome = true →
    ∃ i < x.camera.opened, h = .ofCount i

namespace Numbered

variable {x : History} {announced : Option Announcement}

theorem called (hx : Numbered x) (heffect : Effect x.camera c answer s') :
    Numbered ⟨s', x.events ++ [.called c answer]⟩ where
  consistent := heffect.consistent hx.consistent
  opened := by
    rw [List.countP_append, List.countP_singleton, ← hx.opened]
    exact heffect.opened_eq
  handles h hopen := by
    show ∃ i < s'.opened, h = .ofCount i
    have hcount := heffect.opened_eq
    rcases (heffect.turn hx.consistent h).opened_iff.mp hopen with hnew | ⟨hold, -⟩
    · obtain ⟨hanswer, hopening⟩ := opens_called hnew
      rw [if_pos hopening] at hcount
      exact ⟨x.camera.opened, by omega, heffect.handle_eq hanswer⟩
    · obtain ⟨i, hi, hh⟩ := hx.handles h hold
      exact ⟨i, by omega, hh⟩

theorem passed (hx : Numbered x) (hpassage : Passage x.camera k announced s') :
    Numbered ⟨s', x.events ++ [.passed k (frameBetween k x.camera s') announced]⟩ where
  consistent := hpassage.consistent hx.consistent
  opened := by
    rw [List.countP_append, List.countP_singleton, ← hx.opened]
    exact hpassage.keeps.2.2.2
  handles h hopen := by
    show ∃ i < s'.opened, h = .ofCount i
    rw [hpassage.keeps.2.2.2]
    rcases (hpassage.turn h).opened_iff.mp hopen with hnew | ⟨hold, -⟩
    · cases hnew
    · exact hx.handles h hold

theorem of (b : SimulatorBehavior) (canSpawn : Bool) (inputs : List Input) :
    Numbered (.of b canSpawn inputs) :=
  History.after_induction (P := Numbered) (fun _ _ _ _ hx heffect => hx.called heffect)
    (fun _ _ _ _ hx hpassage => hx.passed hpassage)
    ⟨(History.reached_fresh b canSpawn).consistent, rfl, fun _ hopen => by cases hopen⟩ inputs

/-- Up to 65536 openings, no opening returns a handle that is open. -/
theorem openCamera (hx : Numbered x) (hcount : x.events.countP Event.isOpening < 65536)
    (hopen : (x.camera.sessions.get? h).isSome = true) (name : String) :
    ((Call.openCamera name).perform x.camera).2.sessions.get? h = x.camera.sessions.get? h := by
  have heffect := (Call.openCamera name).effect x.camera
  refine heffect.get?_of_ne (by simp [Call.handle?]) fun hanswer => ?_
  obtain ⟨i, hi, hh⟩ := hx.handles h hopen
  rw [← hx.opened] at hcount
  have hsame := Handle.ofCount_inj (hi.trans hcount) hcount
    (hh.symm.trans (heffect.handle_eq hanswer))
  omega

end Numbered

/-! ## Every history -/

/-- What holds of the session of a handle. -/
structure SessionAutomaton (b : SimulatorBehavior) (h : Handle) (x : History) : Prop where
  /-- A handle is open if an opening returned it and it has not been closed since. -/
  opened : (x.camera.sessions.get? h).isSome = true ↔
    Since (·.opens h) (·.closes h) x.events
  /-- An acquisition runs if it was started since the handle was opened, and was not to be stopped
  since. -/
  acquiring : x.camera.isAcquiring h = true ↔
    Since (·.starts h) (fun e => e.opens h || e.halts h) x.events
  /-- A start succeeds on an open handle without an acquisition, where a frame has bytes and fits
  into the buffer. -/
  starts : ∀ base size, b.failStage ≠ some .startAcquisition → x.camera.canSpawn = true →
    (((Call.start h base size).perform x.camera).1 = .done ↔
      (x.camera.sessions.get? h).isSome = true ∧ x.camera.isAcquiring h = false ∧
        base.isSome = true ∧ ∃ bytes, Agreed h bytes x.events ∧ bytes ≠ 0 ∧ bytes ≤ size)
  /-- An abort succeeds on an open handle, and a second one changes nothing but the count of
  calls. -/
  aborts : ∀ session, x.camera.sessions.get? h = some session →
    ∃ s', (Call.abort h).perform x.camera = (.done, s') ∧
      s'.sessions.get? h = some { session with acquisition := none } ∧
      (Call.abort h).perform s' = (.done, { s' with counts := s'.counts.made (.abort h) })
  /-- A start, after an abort as well, begins again with an empty ready queue and at frame 1, and
  keeps the bytes of a frame and the registration. -/
  begins : ∀ base size s', (Call.start h base size).perform x.camera = (.done, s') →
    ∃ session a, x.camera.sessions.get? h = some session ∧ a.frame = 0 ∧
      s'.sessions.get? h = some { session with queue := .empty, acquisition := some a } ∧
      frameBetween h s' (tick h s').2 =
        if b.Candidate 1 ∧ 0 < b.readyQueueDepth then some (a.shot b h 1) else none
  /-- No call with the handle, and no frame period of it, changes another session. -/
  apart : ∀ k, k ≠ h →
    (∀ c, Call.handle? c = some h →
      (c.perform x.camera).2.sessions.get? k = x.camera.sessions.get? k) ∧
    (tick h x.camera).2.sessions.get? k = x.camera.sessions.get? k
  /-- With fewer than 65536 openings, no opening changes the session. -/
  lasts : x.events.countP Event.isOpening < 65536 →
    (x.camera.sessions.get? h).isSome = true → ∀ name,
      ((Call.openCamera name).perform x.camera).2.sessions.get? h = x.camera.sessions.get? h

/-- **Sessions.** What can be done with a handle follows from what was done with it: whether it is
open, whether an acquisition runs, and whether one can be started. -/
theorem session_automaton (b : SimulatorBehavior) (canSpawn : Bool) (inputs : List Input)
    (h : Handle) : SessionAutomaton b h (.of b canSpawn inputs) := by
  have hreached := History.reached_of b canSpawn inputs
  have hnumbered := Numbered.of b canSpawn inputs
  have ht := History.of_turns (b := b) (h := h) (P := fun o es => Tracked h o es)
    (fun _ _ _ _ hes hturn => hes.turn hturn) Tracked.nothing canSpawn inputs
  generalize History.of b canSpawn inputs = x at hreached hnumbered ht ⊢
  obtain rfl := hreached.behavior
  refine ⟨ht.opened, ht.running, ?starts, fun session hs => abort_twice hs, ?begins, ?apart,
    fun hcount hopen name => hnumbered.openCamera hcount hopen name⟩
  case starts =>
    intro base size hstage hspawn
    rw [start_done_iff hstage hspawn]
    constructor
    · rintro ⟨session, bytes, hs, hidle, hbytes, hpos, hfits, hbase⟩
      refine ⟨by rw [hs]; rfl, ?_, hbase, bytes, (ht.agreed session bytes hs).mp hbytes, hpos,
        hfits⟩
      unfold isAcquiring
      rw [hs, Option.bind_some, hidle]
      rfl
    · rintro ⟨hopen, hidle, hbase, bytes, hagreed, hpos, hfits⟩
      obtain ⟨session, hs⟩ := Option.isSome_iff_exists.mp hopen
      refine ⟨session, bytes, hs, ?_, (ht.agreed session bytes hs).mpr hagreed, hpos, hfits,
        hbase⟩
      unfold isAcquiring at hidle
      rw [hs, Option.bind_some] at hidle
      exact Option.isNone_iff_eq_none.mp (Option.isSome_eq_false_iff.mp hidle)
  case begins =>
    intro base size s' hdone
    obtain ⟨session, a, hs, hframe, hs'⟩ := start_of_done hdone
    refine ⟨session, a, hs, hframe, hs', ?_⟩
    have heffect := (Call.start h base size).effect x.camera
    rw [hdone] at heffect
    rw [← heffect.behavior]
    exact first_frame hs' rfl hframe rfl
  case apart =>
    intro k hk
    refine ⟨fun c hc => ?_, (passage h x.camera).get?_of_ne hk.symm⟩
    refine (c.effect x.camera).get?_of_ne ?_ ?_
    · rw [hc]
      exact fun hsame => hk (Option.some.inj hsame).symm
    · intro hanswer
      rw [(c.effect x.camera).handle?_of_opened hanswer] at hc
      cases hc

end Simulator

end FrameWatch
