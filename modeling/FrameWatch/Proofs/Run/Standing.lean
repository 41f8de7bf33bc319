import FrameWatch.Run.Runner

/-!
# Where a run stands

Notifications come at any moment of a run and whenever the camera likes. What they change is kept
apart here from what the run does itself: `RunState.standing` leaves out the mailbox, the handler's
counters and the steps that notifications lead to, so that no notification changes it
(`standing_deliver`). A call adds itself and its answer (`standing_call`).
-/

namespace FrameWatch

/-- Whether a step is the run's own. The others come with a notification. -/
def RunStep.isOwn : RunStep → Bool
  | noted (.call (.fetch _)) => false
  | handled .. => false
  | strayed _ => false
  | _ => true

theorem RunStep.eq_of_not_own {e : RunStep} (h : e.isOwn = false) :
    (∃ camera, e = .noted (.call (.fetch camera))) ∨
      (∃ n answer signalled, e = .handled n answer signalled) ∨ ∃ n, e = .strayed n := by
  unfold isOwn at h
  split at h
  · exact .inl ⟨_, rfl⟩
  · exact .inr (.inl ⟨_, _, _, rfl⟩)
  · exact .inr (.inr ⟨_, rfl⟩)
  · cases h

/-- What a run holds and has done, apart from what notifications change. -/
structure Standing where
  camera : Option Handle
  registered : Bool
  /-- The handler as it was before any notification. -/
  context : Custody Handler
  buffer : Custody FrameBuffer
  phase : Phase
  tornDown : Bool
  /-- The run's own steps, in order. -/
  trail : List RunStep

namespace Standing

/-- Some own steps more. -/
def did (s : Standing) (steps : List RunStep) : Standing := { s with trail := s.trail ++ steps }

@[simp] theorem did_nil (s : Standing) : s.did [] = s := by simp [did]

@[simp] theorem did_did (s : Standing) (xs ys : List RunStep) :
    (s.did xs).did ys = s.did (xs ++ ys) := by simp [did]

@[simp] theorem buffer_did (s : Standing) (xs : List RunStep) : (s.did xs).buffer = s.buffer := rfl

@[simp] theorem trail_did (s : Standing) (xs : List RunStep) :
    (s.did xs).trail = s.trail ++ xs := rfl

end Standing

namespace RunState

variable {σ : Type}

/-- The run's own steps, in order. -/
def trail (s : RunState σ) : List RunStep := s.past.toList.filter RunStep.isOwn

/-- Where the run stands. -/
def standing (s : RunState σ) : Standing :=
  ⟨s.camera, s.registered, s.context.map Handler.pristine, s.buffer, s.phase, s.tornDown, s.trail⟩

section Fields

variable (s : RunState σ)

@[simp] theorem camera_standing : s.standing.camera = s.camera := rfl

@[simp] theorem registered_standing : s.standing.registered = s.registered := rfl

@[simp] theorem context_standing : s.standing.context = s.context.map Handler.pristine := rfl

@[simp] theorem buffer_standing : s.standing.buffer = s.buffer := rfl

end Fields

theorem mem_step {s : RunState σ} {e e' : RunStep} :
    e ∈ (s.step e').past.toList ↔ e ∈ s.past.toList ∨ e = e' := by
  unfold step
  rw [Array.toList_push, List.mem_append, List.mem_singleton]

theorem trail_step (s : RunState σ) (e : RunStep) :
    (s.step e).trail = s.trail ++ if e.isOwn then [e] else [] := by
  unfold trail step
  rw [Array.toList_push, List.filter_append]
  by_cases h : e.isOwn = true
  · rw [if_pos h, List.filter_cons_of_pos h, List.filter_nil]
  · rw [if_neg h, List.filter_cons_of_neg h, List.filter_nil]

theorem standing_step (s : RunState σ) (e : RunStep) :
    (s.step e).standing = s.standing.did (if e.isOwn then [e] else []) := by
  unfold standing Standing.did
  rw [trail_step]
  rfl

theorem standing_step_own (s : RunState σ) {e : RunStep} (h : e.isOwn = true) :
    (s.step e).standing = s.standing.did [e] := by rw [standing_step, if_pos h]

theorem standing_step_other (s : RunState σ) {e : RunStep} (h : e.isOwn = false) :
    (s.step e).standing = s.standing := by
  rw [standing_step, if_neg (by simp [h]), Standing.did_nil]

theorem standing_log (s : RunState σ) (e : RunEvent) :
    (s.log e).standing = s.standing.did [.noted (.event e)] := s.standing_step_own rfl

end RunState

@[simp] theorem Custody.live?_map {α β : Type} (f : α → β) (c : Custody α) :
    (c.map f).live? = c.live?.map f := by
  cases c <;> rfl

theorem Custody.map_eq_absent {α β : Type} {f : α → β} {c : Custody α} :
    c.map f = .absent ↔ c = .absent := by
  cases c <;> simp [map]

theorem Custody.map_const_eq {α : Type} {c : Custody α} {a : α} (h : c.live? = some a) :
    (c.map fun _ => a) = c := by
  cases c <;> simp_all [Custody.map, Custody.live?]

theorem Custody.map_const_of_live {α β : Type} {f : α → β} {c : Custody α} {a b : α}
    (h : c.live? = some a) (hf : f b = f a) : (c.map fun _ => b).map f = c.map f := by
  cases c <;> simp_all [Custody.map, Custody.live?]

theorem Handler.pristine_noteFetch (h : Handler) (answer : Fetched) :
    (h.noteFetch answer).pristine = h.pristine := by
  cases answer <;> rfl

namespace Act

variable {σ α β : Type}

/-! ## Running actions -/

theorem run_bind (x : Act σ α) (f : α → Act σ β) (s : RunState σ) :
    (x >>= f) s = f (x s).1 (x s).2 := rfl

theorem run_pure (a : α) (s : RunState σ) : (pure a : Act σ α) s = (a, s) := rfl

theorem run_get (s : RunState σ) : (get : Act σ (RunState σ)) s = (s, s) := rfl

theorem run_modify (f : RunState σ → RunState σ) (s : RunState σ) :
    (modify f : Act σ PUnit) s = ((), f s) := rfl

/-! ## Notifications -/

variable (rig : Rig σ) (s : RunState σ)

/-- The state after the handler has dealt with a frame that was fetched in this way. -/
def handled (handler : Handler) (n : Notification) (info : FrameInfo) (s : RunState σ) :
    RunState σ :=
  let fetched := rig.fetch handler.camera s.rig
  let noted := handler.descriptor? info fetched.1
  { (s.note (.call (.fetch handler.camera))).step (.handled n fetched.1 noted) with
    rig := fetched.2
    mailbox := noted.elim s.mailbox s.mailbox.signal
    context := s.context.map fun _ => (handler.count info.number).noteFetch fetched.1 }

/-- What becomes of a notification: it is ignored, strays or is handled. -/
theorem receive_cases (n : Notification) :
    ((s.registered = false ∨ n.info = none ∨ n.hasContext = false) ∧ (receive rig n s).2 = s) ∨
    (s.registered = true ∧ s.context.live? = none ∧
      (receive rig n s).2 = s.step (.strayed n)) ∨
    ∃ handler info, s.registered = true ∧ s.context.live? = some handler ∧
      n.info = some info ∧ n.hasContext = true ∧
      (receive rig n s).2 = handled rig handler n info s := by
  unfold receive
  by_cases hreg : s.registered = true
  · rw [if_pos hreg]
    cases hlive : s.context.live? with
    | none => exact .inr (.inl ⟨hreg, rfl, rfl⟩)
    | some handler =>
      have ignored : { s with context := s.context.map fun _ => handler } = s := by
        rw [Custody.map_const_eq hlive]
      obtain ⟨info, hasContext⟩ := n
      cases info with
      | none => exact .inl ⟨.inr (.inl rfl), ignored⟩
      | some info =>
        cases hasContext with
        | false => exact .inl ⟨.inr (.inr rfl), ignored⟩
        | true => exact .inr (.inr ⟨handler, info, hreg, rfl, rfl, rfl, rfl⟩)
  · rw [if_neg hreg]
    exact .inl ⟨.inl (by simpa using hreg), rfl⟩

theorem standing_handled (n : Notification) {handler : Handler} {info : FrameInfo}
    (hlive : s.context.live? = some handler) :
    (handled rig handler n info s).standing = s.standing := by
  have hnoted : ∀ answer noted, ((s.note (.call (.fetch handler.camera))).step
      (.handled n answer noted)).standing = s.standing := fun answer noted => by
    rw [RunState.standing_step_other _ rfl]; exact s.standing_step_other rfl
  unfold handled
  unfold RunState.standing at hnoted ⊢
  simp only [Standing.mk.injEq] at hnoted ⊢
  refine ⟨(hnoted _ _).1, (hnoted _ _).2.1, ?_, (hnoted _ _).2.2.2⟩
  rw [Custody.map_const_of_live hlive]
  rw [Handler.pristine_noteFetch]
  rfl

@[simp] theorem standing_receive (n : Notification) :
    (receive rig n s).2.standing = s.standing := by
  rcases receive_cases rig s n with ⟨-, h⟩ | ⟨-, -, h⟩ | ⟨handler, info, -, hlive, -, -, h⟩
  · rw [h]
  · rw [h, s.standing_step_other rfl]
  · rw [h, standing_handled rig s n hlive]

@[simp] theorem standing_ask (question : StateM σ α) : (ask question s).2.standing = s.standing :=
  rfl

theorem deliverTick_of_none (h : (rig.tick s.rig).1 = none) :
    (deliverTick rig s).2 = { s with rig := (rig.tick s.rig).2 } := by
  unfold deliverTick
  rw [run_bind]
  have hask : (ask rig.tick s).1 = none := h
  rw [hask]
  rfl

theorem deliverTick_of_some {n : Notification} (h : (rig.tick s.rig).1 = some n) :
    (deliverTick rig s).2 = (receive rig n { s with rig := (rig.tick s.rig).2 }).2 := by
  unfold deliverTick
  rw [run_bind]
  have hask : (ask rig.tick s).1 = some n := h
  rw [hask]
  rfl

/-- While nobody is registered, notifications are ignored. -/
theorem deliverTick_of_unregistered (hreg : s.registered = false) :
    (deliverTick rig s).2 = { s with rig := (rig.tick s.rig).2 } := by
  cases ht : (rig.tick s.rig).1 with
  | none => exact deliverTick_of_none rig s ht
  | some n =>
    rw [deliverTick_of_some rig s ht]
    rcases receive_cases rig { s with rig := (rig.tick s.rig).2 } n with
      ⟨-, h⟩ | ⟨hreg', -⟩ | ⟨_, _, hreg', -⟩
    · exact h
    · cases hreg.symm.trans hreg'
    · cases hreg.symm.trans hreg'

@[simp] theorem standing_deliverTick : (deliverTick rig s).2.standing = s.standing := by
  unfold deliverTick
  rw [run_bind]
  cases (ask rig.tick s).1 with
  | none => rfl
  | some n => exact standing_receive rig _ n

@[simp] theorem standing_deliverTicks (n : Nat) :
    (deliverTicks rig n s).2.standing = s.standing := by
  induction n generalizing s with
  | zero => rfl
  | succ n ih => exact (ih _).trans (standing_deliverTick rig s)

@[simp] theorem standing_deliver (m : Moment) : (deliver rig m s).2.standing = s.standing :=
  standing_deliverTicks rig _ _

/-! ## The run's own steps -/

/-- The steps of a call that was answered in this way. -/
def callSteps (c : CameraCall) (failure : Option CameraError) : List RunStep :=
  [.noted (.call c), .answered c failure]

theorem standing_call (c : CameraCall) (effect : StateM σ (Except CameraError α))
    (hc : (RunStep.noted (.call c)).isOwn = true) :
    (call rig c effect s).2.standing =
      s.standing.did (callSteps c (failure? (call rig c effect s).1)) := by
  unfold call
  simp only [run_bind, run_modify, run_pure]
  rw [RunState.standing_step_own _ rfl, standing_deliver, standing_ask, standing_deliver]
  rw [RunState.note, s.standing_step_own hc, Standing.did_did]
  rfl

@[simp] theorem standing_log (e : RunEvent) :
    (log e s).2.standing = s.standing.did [.noted (.event e)] := s.standing_log e

theorem standing_enter (target : Phase) :
    (enter target s).2.standing =
      { s.standing.did [.noted (.event (.transition s.phase target))] with phase := target } := by
  unfold enter
  simp only [run_bind, run_get, run_modify]
  rw [← standing_log]
  rfl

end Act

end FrameWatch
