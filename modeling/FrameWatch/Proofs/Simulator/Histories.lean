import FrameWatch.Proofs.Simulator.Effects

/-!
# Histories of a camera

Calls are made to a simulated camera and frame periods pass, in any order.

1. `Simulator.History` is a camera with the events that brought it where it is, and
   `Simulator.History.of` the one that a sequence of inputs leads to.
2. `Simulator.Since` says that one kind of event has happened, and none of another kind since.
3. `Simulator.Consistent`: a camera that cannot be started has no frames waiting. So in a history a
   refused call leaves nothing behind but its error (`Effect.eq_of_failed`).
4. `Simulator.Turn` says what an event does to the session of one handle, and
   `Simulator.History.of_turns` takes an invariant of one session along a history.
-/

namespace FrameWatch

namespace SessionTable

variable {t : SessionTable} {h : Handle} {session : CameraSession}

theorem mem_of_get? (hs : t.get? h = some session) : (h, session) ∈ t := by
  induction t with
  | nil => cases hs
  | cons entry t ih =>
    obtain ⟨key, first⟩ := entry
    rw [get?_cons] at hs
    split at hs
    · rename_i hkey
      cases hs
      rw [hkey]
      exact List.mem_cons_self
    · exact List.mem_cons_of_mem _ (ih hs)

theorem modify_of_eq {f : CameraSession → CameraSession} (hf : ∀ entry ∈ t, f entry.2 = entry.2) :
    t.modify h f = t := by
  unfold modify
  conv_rhs => rw [← List.map_id t]
  refine List.map_congr_left fun entry hentry => ?_
  by_cases hkey : entry.1 = h
  · rw [if_pos hkey, hf entry hentry]
    rfl
  · rw [if_neg hkey]
    rfl

theorem forall_modify {P : CameraSession → Prop} {f : CameraSession → CameraSession}
    (ht : ∀ entry ∈ t, P entry.2) (hf : ∀ session, P session → P (f session)) :
    ∀ entry ∈ t.modify h f, P entry.2 := by
  intro entry hentry
  obtain ⟨entry', hentry', rfl⟩ := List.mem_map.mp hentry
  by_cases hkey : entry'.1 = h
  · rw [if_pos hkey]
    exact hf _ (ht entry' hentry')
  · rw [if_neg hkey]
    exact ht entry' hentry'

end SessionTable

/-- Frame number `n` of an acquisition, as it lies in the ready queue. -/
def Acquisition.shot (b : SimulatorBehavior) (h : Handle) (a : Acquisition) (n : ℕ) : LatestFrame :=
  ⟨a.address n, Simulator.frameInfo b h n⟩

/-- No acquisition runs, and no frame has come. -/
def CameraSession.Unused (session : CameraSession) : Prop :=
  session.queue = .empty ∧ session.acquisition = none

namespace Simulator

/-! ## Inputs and events -/

/-- What is done with the camera. -/
inductive Input
  | call (c : Call)
  | period (h : Handle)
deriving DecidableEq

/-- What has come of an input. -/
inductive Event
  | called (c : Call) (answer : Answer)
  | passed (h : Handle) (frame : Option LatestFrame) (announced : Option Announcement)
deriving DecidableEq

namespace Event

variable (h : Handle)

/-- A call returned the handle. -/
def opens : Event → Bool
  | called (.openCamera _) (.opened k) => k = h
  | _ => false

/-- The handle was closed. -/
def closes : Event → Bool
  | called (.close k) .done => k = h
  | _ => false

/-- The bytes of a frame that were agreed on. -/
def agreed? : Event → Option ℕ
  | called (.configure k ..) (.agreed bytes) => if k = h then some bytes else none
  | _ => none

/-- An acquisition was started. -/
def starts : Event → Bool
  | called (.start k ..) .done => k = h
  | _ => false

/-- The acquisition was to be stopped, by whatever call. -/
def halts : Event → Bool
  | called (.abort k) _ | called (.close k) _ => k = h
  | _ => false

/-- A frame was fetched. -/
def drains : Event → Bool
  | called (.fetch k) (.fetched _) => k = h
  | _ => false

/-- The frame that was delivered. -/
def frame? : Event → Option LatestFrame
  | passed k frame _ => if k = h then frame else none
  | _ => none

/-- What was announced. -/
def announced? : Event → Option Announcement
  | passed k _ announced => if k = h then announced else none
  | _ => none

/-- Something has come of the event for the handle. -/
def bears (e : Event) : Bool :=
  e.opens h || e.closes h || (e.agreed? h).isSome || e.starts h || e.drains h ||
    (e.frame? h).isSome || (e.announced? h).isSome

variable {h} in
theorem of_bears {e : Event} (he : e.bears h = false) :
    e.opens h = false ∧ e.closes h = false ∧ e.agreed? h = none ∧ e.starts h = false ∧
      e.drains h = false ∧ e.frame? h = none ∧ e.announced? h = none := by
  simp only [bears, Bool.or_eq_false_iff, Option.isSome_eq_false_iff,
    Option.isNone_iff_eq_none] at he
  obtain ⟨⟨⟨⟨⟨⟨hopens, hcloses⟩, hagreed⟩, hstarts⟩, hdrains⟩, hframe⟩, hannounced⟩ := he
  exact ⟨hopens, hcloses, hagreed, hstarts, hdrains, hframe, hannounced⟩

/-- The error that a call returned. -/
def failure? : Event → Option CameraError
  | called _ (.failed e) => some e
  | _ => none

/-- A call opened the camera. -/
def isOpening : Event → Bool
  | called (.openCamera _) (.opened _) => true
  | _ => false

end Event

/-- The frame of a handle that is delivered between two states. -/
def frameBetween (h : Handle) (s s' : Simulator) : Option LatestFrame :=
  if s.counts.delivered < s'.counts.delivered then
    ((s'.sessions.get? h).bind (·.acquisition)).map fun a => a.shot s'.behavior h a.frame
  else none

/-- A camera, with the events that brought it where it is. -/
structure History where
  camera : Simulator
  events : List Event

namespace History

/-- One input more. -/
def proceed (x : History) : Input → History
  | .call c =>
    ⟨(c.perform x.camera).2, x.events ++ [.called c (c.perform x.camera).1]⟩
  | .period h =>
    ⟨(tick h x.camera).2,
      x.events ++ [.passed h (frameBetween h x.camera (tick h x.camera).2) (tick h x.camera).1]⟩

/-- More inputs. -/
def after (x : History) (inputs : List Input) : History := inputs.foldl proceed x

/-- Where the inputs lead a camera that no call was made to. -/
def of (b : SimulatorBehavior) (canSpawn : Bool) (inputs : List Input) : History :=
  after ⟨.fresh b canSpawn, []⟩ inputs

end History

/-! ## What has happened since -/

/-- An event with `p` has happened, and none with `q` since. -/
def Since (p q : Event → Prop) (es : List Event) : Prop :=
  ∃ before e rest, es = before ++ e :: rest ∧ p e ∧ ∀ e' ∈ rest, ¬ q e'

section Since

variable {p q : Event → Prop} {es : List Event} {e : Event}

@[simp] theorem since_nil : ¬ Since p q [] := by
  rintro ⟨before, e, rest, hes, -⟩
  cases before <;> cases hes

theorem since_concat : Since p q (es ++ [e]) ↔ p e ∨ (Since p q es ∧ ¬ q e) := by
  constructor
  · rintro ⟨before, e₁, rest, hes, hp, hq⟩
    cases rest using List.reverseRecOn with
    | nil =>
      obtain rfl : e = e₁ := by simpa using (List.append_inj' hes rfl).2
      exact .inl hp
    | append_singleton rest e₂ =>
      have hes' : es ++ [e] = (before ++ e₁ :: rest) ++ [e₂] := by simpa using hes
      obtain ⟨hold, he⟩ := List.append_inj' hes' rfl
      obtain rfl : e = e₂ := by simpa using he
      refine .inr ⟨⟨before, e₁, rest, hold, hp, fun e' he' => hq e' ?_⟩, hq e (by simp)⟩
      exact List.mem_append_left _ he'
  · rintro (hp | ⟨⟨before, e₁, rest, rfl, hp, hq⟩, he⟩)
    · exact ⟨es, e, [], rfl, hp, by simp⟩
    · refine ⟨before, e₁, rest ++ [e], by simp, hp, fun e' he' => ?_⟩
      rcases List.mem_append.mp he' with hrest | hlast
      · exact hq e' hrest
      · obtain rfl : e' = e := by simpa using hlast
        exact he

end Since

/-! ## Cameras that cannot be started -/

/-- Where a camera cannot be started, no acquisition has run. -/
def Consistent (s : Simulator) : Prop :=
  s.canSpawn = true ∨ ∀ entry ∈ s.sessions, entry.2.Unused

section Consistent

variable {s s' : Simulator} {c : Call} {answer : Answer} {h : Handle}
  {announced : Option Announcement}

theorem Effect.behavior (heffect : Effect s c answer s') : s'.behavior = s.behavior := by
  cases heffect <;> rfl

theorem Effect.consistent (heffect : Effect s c answer s') (hconsistent : s.Consistent) :
    s'.Consistent := by
  rcases hconsistent with hspawn | hunused
  · cases heffect <;> exact .inl hspawn
  · cases heffect with
    | refused => exact .inr hunused
    | opened =>
      refine .inr fun entry hentry => ?_
      rcases List.mem_cons.mp hentry with rfl | hold
      · exact ⟨rfl, rfl⟩
      · exact hunused entry hold
    | closed => exact .inr fun entry hentry => hunused entry (List.mem_filter.mp hentry).1
    | selected => exact .inr hunused
    | configured =>
      refine .inr ?_
      dsimp only
      refine SessionTable.forall_modify hunused fun session hsession => ?_
      exact hsession
    | registered =>
      refine .inr ?_
      dsimp only
      refine SessionTable.forall_modify hunused fun session hsession => ?_
      exact hsession
    | deregistered =>
      refine .inr ?_
      dsimp only
      refine SessionTable.forall_modify hunused fun session hsession => ?_
      exact hsession
    | started _ _ _ _ _ hspawn => exact .inl hspawn
    | threadless =>
      refine .inr ?_
      dsimp only
      refine SessionTable.forall_modify hunused fun session hsession => ?_
      exact ⟨rfl, hsession.2⟩
    | aborted =>
      refine .inr ?_
      dsimp only
      refine SessionTable.forall_modify hunused fun session hsession => ?_
      exact ⟨hsession.1, rfl⟩
    | fetched =>
      refine .inr ?_
      dsimp only
      refine SessionTable.forall_modify hunused fun session hsession => ?_
      refine ⟨?_, hsession.2⟩
      show ReadyQueue.mk 0 session.queue.latest = _
      rw [hsession.1]
      rfl

theorem Passage.consistent (hpassage : Passage s h announced s') (hconsistent : s.Consistent) :
    s'.Consistent := by
  rcases hconsistent with hspawn | hunused
  · cases hpassage <;> exact .inl hspawn
  · cases hpassage with
    | rested => exact .inr hunused
    | blocked => exact .inr hunused
    | skipped hs ha | delivered hs ha =>
      have hnone := (hunused _ (SessionTable.mem_of_get? hs)).2
      rw [ha] at hnone
      cases hnone

/-- A refused call leaves nothing but its error behind. -/
theorem Effect.eq_of_failed {e : CameraError} (heffect : Effect s c (.failed e) s')
    (hconsistent : s.Consistent) : s' = { s.counting c with lastError := e } := by
  cases heffect with
  | refused => rfl
  | @threadless h base size bytes session _ _ _ _ _ hspawn =>
    rcases hconsistent with hspawn' | hunused
    · rw [hspawn] at hspawn'
      cases hspawn'
    · -- no acquisition has ever run here, so that the queue made empty was empty before
      have hsame : s.sessions.modify h (fun session => { session with queue := .empty }) =
          s.sessions := SessionTable.modify_of_eq fun entry hentry => by
        rw [← (hunused entry hentry).1]
      rw [hsame]
      rfl

end Consistent

/-! ## One session -/

/-- `Turn b h o e o'`: the event `e` takes the session of `h` from `o` to `o'`; there is none where
the handle is not open. -/
inductive Turn (b : SimulatorBehavior) (h : Handle) :
    Option CameraSession → Event → Option CameraSession → Prop
  | opened {o : Option CameraSession} {name : String} :
      Turn b h o (.called (.openCamera name) (.opened h)) (some .fresh)
  | closed {session : CameraSession} : Turn b h (some session) (.called (.close h) .done) none
  | configured {session : CameraSession} {region : Region} {mode : NegotiatedMode} {exposureMs : ℕ}
      {policy : BufferPolicy} {bytes : ℕ} :
      Turn b h (some session) (.called (.configure h region mode exposureMs policy) (.agreed bytes))
        (some { session with frameBytes := some bytes })
  | started {session : CameraSession} {base size bytes : ℕ} (hidle : session.acquisition = none)
      (hbytes : session.frameBytes = some bytes) :
      Turn b h (some session) (.called (.start h (some base) size) .done)
        (some { session with
          queue := .empty
          acquisition := some ⟨0, base, bytes, size / bytes⟩ })
  | aborted {session : CameraSession} :
      Turn b h (some session) (.called (.abort h) .done) (some { session with acquisition := none })
  | fetched {session : CameraSession} {latest : LatestFrame}
      (hlatest : session.queue.latest = some latest) (hpending : session.queue.pending ≠ 0) :
      Turn b h (some session) (.called (.fetch h) (.fetched latest))
        (some { session with queue := { session.queue with pending := 0 } })
  | skipped {session : CameraSession} {a : Acquisition} (ha : session.acquisition = some a)
      (hgoes : isFinished b a.frame = false) (hroom : session.queue.pending < b.readyQueueDepth)
      (hdrop : ((a.frame + 1 : ℕ) : ℤ) ∈ b.dropFrames) :
      Turn b h (some session) (.passed h none none)
        (some { session with acquisition := some { a with frame := a.frame + 1 } })
  | delivered {session : CameraSession} {a : Acquisition} {announced : Option Announcement}
      (ha : session.acquisition = some a) (hgoes : isFinished b a.frame = false)
      (hroom : session.queue.pending < b.readyQueueDepth)
      (hdrop : ((a.frame + 1 : ℕ) : ℤ) ∉ b.dropFrames) :
      Turn b h (some session) (.passed h (some (a.shot b h (a.frame + 1))) announced)
        (some { session with
          queue := ⟨session.queue.pending + 1, some (a.shot b h (a.frame + 1))⟩
          acquisition := some { a with frame := a.frame + 1 } })
  /-- Nothing that concerns the acquisition. -/
  | spared {session : CameraSession} {e : Event} {registration : Option ℕ}
      (he : e.bears h = false) (hhalts : e.halts h = false) :
      Turn b h (some session) e (some { session with registration := registration })
  | absent {e : Event} (he : e.bears h = false) : Turn b h none e none

section Turn

variable {b : SimulatorBehavior} {s s' : Simulator} {c : Call} {answer : Answer} {h k : Handle}
  {announced : Option Announcement} {o : Option CameraSession} {e : Event}

theorem turn_of_same (he : e.bears h = false) (hhalts : o.isSome = true → e.halts h = false) :
    Turn b h o e o := by
  cases o with
  | none => exact .absent he
  | some session => exact .spared he (hhalts rfl)

/-- What is called with another handle leaves the session of a handle alone. -/
theorem Effect.get?_of_ne (heffect : Effect s c answer s') (hc : c.handle? ≠ some h)
    (hanswer : answer ≠ .opened h) : s'.sessions.get? h = s.sessions.get? h := by
  cases heffect with
  | refused | selected => rfl
  | opened =>
    have hkey : Handle.ofCount s.opened ≠ h := fun hkey => hanswer (by rw [hkey])
    dsimp only
    rw [SessionTable.get?_insert, if_neg hkey]
  | @closed k =>
    have hk : k ≠ h := fun hk => hc (by rw [hk]; rfl)
    dsimp only
    rw [SessionTable.get?_erase, if_neg hk]
  | @configured k | @registered k | @deregistered k | @started k | @threadless k | @aborted k
  | @fetched k =>
    have hk : k ≠ h := fun hk => hc (by rw [hk]; rfl)
    dsimp only
    rw [SessionTable.get?_modify, if_neg hk]

/-- A frame period of another handle leaves the session of a handle alone. -/
theorem Passage.get?_of_ne (hpassage : Passage s k announced s') (hk : k ≠ h) :
    s'.sessions.get? h = s.sessions.get? h := by
  cases hpassage with
  | rested | blocked => rfl
  | skipped =>
    dsimp only
    rw [SessionTable.get?_modify, if_neg hk]
  | delivered =>
    unfold deliver
    dsimp only
    rw [SessionTable.get?_modify, if_neg hk]

theorem bears_of_ne (hc : c.handle? ≠ some h) (hanswer : answer ≠ .opened h) :
    (Event.called c answer).bears h = false ∧ (Event.called c answer).halts h = false := by
  cases c <;> cases answer <;> simp_all [Event.bears, Event.opens, Event.closes, Event.agreed?,
    Event.starts, Event.halts, Event.drains, Event.frame?, Event.announced?, Call.handle?]

theorem bears_failed (e : CameraError) : (Event.called c (.failed e)).bears h = false := by
  cases c <;> rfl

/-- Closing and aborting fail for handles that are not open only. -/
theorem halts_of_refused {session : CameraSession} {e : CameraError} (hrefused : Refusal s c e)
    (hs : s.sessions.get? h = some session) : (Event.called c (.failed e)).halts h = false := by
  cases c with
  | close k | abort k =>
    cases hrefused with
    | injected hc => cases hc
    | notOpen hc hnone =>
      obtain rfl : k = _ := Option.some.inj hc
      refine decide_eq_false fun hk => ?_
      rw [hk, hs] at hnone
      cases hnone
  | _ => rfl

theorem Effect.turn_of_failed {e : CameraError} (heffect : Effect s c (.failed e) s')
    (hconsistent : s.Consistent) (h : Handle) :
    Turn s.behavior h (s.sessions.get? h) (.called c (.failed e)) (s'.sessions.get? h) := by
  have hsessions : s'.sessions = s.sessions := by rw [heffect.eq_of_failed hconsistent]; rfl
  rw [hsessions]
  refine turn_of_same (bears_failed e) fun hopen => ?_
  obtain ⟨session, hs⟩ := Option.isSome_iff_exists.mp hopen
  cases heffect with
  | refused hrefused => exact halts_of_refused hrefused hs
  | threadless => rfl

/-- What a call does to the session of a handle. -/
theorem Effect.turn (heffect : Effect s c answer s') (hconsistent : s.Consistent) (h : Handle) :
    Turn s.behavior h (s.sessions.get? h) (.called c answer) (s'.sessions.get? h) := by
  by_cases hother : c.handle? ≠ some h ∧ answer ≠ .opened h
  · rw [heffect.get?_of_ne hother.1 hother.2]
    exact turn_of_same (bears_of_ne hother.1 hother.2).1 fun _ =>
      (bears_of_ne hother.1 hother.2).2
  · have hown : c.handle? = some h ∨ answer = .opened h := by
      by_contra hneither
      exact hother (not_or.mp hneither)
    cases heffect with
    | refused hrefused => exact (Effect.refused hrefused).turn_of_failed hconsistent h
    | threadless hs hidle hbytes hpos hfits hspawn =>
      exact (Effect.threadless hs hidle hbytes hpos hfits hspawn).turn_of_failed hconsistent h
    | opened =>
      obtain rfl : Handle.ofCount s.opened = h := by simpa [Call.handle?] using hown
      dsimp only
      rw [SessionTable.get?_insert, if_pos rfl]
      exact .opened
    | @closed k session hs =>
      obtain rfl : k = h := by simpa [Call.handle?] using hown
      dsimp only
      rw [SessionTable.get?_erase, if_pos rfl, hs]
      exact .closed
    | @selected k mode session hs =>
      exact turn_of_same rfl fun _ => rfl
    | @configured k region mode exposureMs policy bytes session hs =>
      obtain rfl : k = h := by simpa [Call.handle?] using hown
      dsimp only
      rw [get?_modify_of_some hs, hs]
      exact .configured
    | @registered k token session hs =>
      obtain rfl : k = h := by simpa [Call.handle?] using hown
      dsimp only
      rw [get?_modify_of_some hs, hs]
      exact .spared rfl rfl
    | @deregistered k session hs =>
      obtain rfl : k = h := by simpa [Call.handle?] using hown
      dsimp only
      rw [get?_modify_of_some hs, hs]
      exact .spared rfl rfl
    | @started k base size bytes session hs hidle hbytes =>
      obtain rfl : k = h := by simpa [Call.handle?] using hown
      dsimp only
      rw [get?_modify_of_some hs, hs]
      exact .started hidle hbytes
    | @aborted k session hs =>
      obtain rfl : k = h := by simpa [Call.handle?] using hown
      dsimp only
      rw [get?_modify_of_some hs, hs]
      exact .aborted
    | @fetched k latest session hs hlatest hpending =>
      obtain rfl : k = h := by simpa [Call.handle?] using hown
      dsimp only
      rw [get?_modify_of_some hs, hs]
      exact .fetched hlatest hpending

theorem bears_passed_none (h k : Handle) : (Event.passed k none none).bears h = false := by
  simp [Event.bears, Event.opens, Event.closes, Event.agreed?, Event.starts, Event.drains,
    Event.frame?, Event.announced?]

theorem frameBetween_of_eq (hs' : s'.counts.delivered = s.counts.delivered) :
    frameBetween h s s' = none := by
  unfold frameBetween
  rw [hs', if_neg (lt_irrefl _)]

theorem frameBetween_deliver {session : CameraSession} {a : Acquisition}
    (hs : s.sessions.get? h = some session) (n : ℕ) :
    frameBetween h s (deliver h session a n s).2 = some (a.shot s.behavior h n) := by
  unfold frameBetween deliver
  dsimp only
  rw [if_pos (Nat.lt_succ_self _), get?_modify_of_some hs]
  rfl

/-- What a frame period does to the session of a handle. -/
theorem Passage.turn (hpassage : Passage s k announced s') (h : Handle) :
    Turn s.behavior h (s.sessions.get? h) (.passed k (frameBetween k s s') announced)
      (s'.sessions.get? h) := by
  by_cases hk : k = h
  · subst hk
    cases hpassage with
    | rested =>
      rw [frameBetween_of_eq rfl]
      exact turn_of_same (bears_passed_none k k) fun _ => rfl
    | blocked =>
      rw [frameBetween_of_eq]
      · exact turn_of_same (bears_passed_none k k) fun _ => rfl
      · rfl
    | skipped hs ha hgoes hroom hdrop =>
      rw [frameBetween_of_eq, hs]
      · dsimp only
        rw [get?_modify_of_some hs]
        exact .skipped ha hgoes hroom hdrop
      · rfl
    | delivered hs ha hgoes hroom hdrop =>
      rw [frameBetween_deliver hs]
      unfold deliver
      dsimp only
      rw [get?_modify_of_some hs, hs]
      exact .delivered ha hgoes hroom hdrop
  · rw [hpassage.get?_of_ne hk]
    refine turn_of_same ?_ fun _ => rfl
    simp [Event.bears, Event.opens, Event.closes, Event.agreed?, Event.starts, Event.drains,
      Event.frame?, Event.announced?, hk]

end Turn

/-! ## Along a history -/

namespace History

variable {b : SimulatorBehavior} {h : Handle} {x : History}

/-- What every call and every frame period keeps holds after all of them. -/
theorem after_induction {P : History → Prop}
    (hcall : ∀ x c answer s', P x → Effect x.camera c answer s' →
      P ⟨s', x.events ++ [.called c answer]⟩)
    (hperiod : ∀ x h announced s', P x → Passage x.camera h announced s' →
      P ⟨s', x.events ++ [.passed h (frameBetween h x.camera s') announced]⟩)
    (hx : P x) (inputs : List Input) : P (x.after inputs) := by
  induction inputs generalizing x with
  | nil => exact hx
  | cons input inputs ih =>
    refine ih ?_
    cases input with
    | call c => exact hcall x c _ _ hx (c.effect x.camera)
    | period h => exact hperiod x h _ _ hx (passage h x.camera)

/-- The camera behaves like this, and does not run without a thread. -/
structure Reached (b : SimulatorBehavior) (x : History) : Prop where
  behavior : x.camera.behavior = b
  consistent : x.camera.Consistent

section Reached

variable {c : Call} {answer : Answer} {k : Handle} {announced : Option Announcement}
  {s' : Simulator}

theorem Reached.called (hx : x.Reached b) (heffect : Effect x.camera c answer s') :
    Reached b ⟨s', x.events ++ [.called c answer]⟩ where
  behavior := heffect.behavior.trans hx.behavior
  consistent := heffect.consistent hx.consistent

theorem Reached.passed (hx : x.Reached b) (hpassage : Passage x.camera k announced s') :
    Reached b ⟨s', x.events ++ [.passed k (frameBetween k x.camera s') announced]⟩ where
  behavior := hpassage.keeps.1.trans hx.behavior
  consistent := hpassage.consistent hx.consistent

end Reached

theorem reached_fresh (b : SimulatorBehavior) (canSpawn : Bool) :
    Reached b ⟨.fresh b canSpawn, []⟩ where
  behavior := rfl
  consistent := .inr fun _ hentry => absurd hentry List.not_mem_nil

theorem reached_of (b : SimulatorBehavior) (canSpawn : Bool) (inputs : List Input) :
    (of b canSpawn inputs).Reached b :=
  after_induction (P := Reached b) (fun _ _ _ _ hx heffect => hx.called heffect)
    (fun _ _ _ _ hx hpassage => hx.passed hpassage) (reached_fresh b canSpawn) inputs

/-- What every event keeps of one session holds after all of them. -/
theorem after_turns {P : Option CameraSession → List Event → Prop}
    (hturn : ∀ o e o' es, P o es → Turn b h o e o' → P o' (es ++ [e])) (hx : x.Reached b)
    (hP : P (x.camera.sessions.get? h) x.events) (inputs : List Input) :
    P ((x.after inputs).camera.sessions.get? h) (x.after inputs).events := by
  suffices hboth : (x.after inputs).Reached b ∧
      P ((x.after inputs).camera.sessions.get? h) (x.after inputs).events from hboth.2
  refine after_induction (P := fun x => x.Reached b ∧ P (x.camera.sessions.get? h) x.events)
    ?_ ?_ ⟨hx, hP⟩ inputs
  · rintro x c answer s' ⟨hx, hP⟩ heffect
    refine ⟨hx.called heffect, ?_⟩
    have hsession := heffect.turn hx.consistent h
    rw [hx.behavior] at hsession
    exact hturn _ _ _ _ hP hsession
  · rintro x k announced s' ⟨hx, hP⟩ hpassage
    refine ⟨hx.passed hpassage, ?_⟩
    have hsession := hpassage.turn h
    rw [hx.behavior] at hsession
    exact hturn _ _ _ _ hP hsession

theorem of_turns {P : Option CameraSession → List Event → Prop}
    (hturn : ∀ o e o' es, P o es → Turn b h o e o' → P o' (es ++ [e])) (hfresh : P none [])
    (canSpawn : Bool) (inputs : List Input) :
    P ((of b canSpawn inputs).camera.sessions.get? h) (of b canSpawn inputs).events :=
  after_turns hturn (reached_fresh b canSpawn) hfresh inputs

end History

end Simulator

end FrameWatch
