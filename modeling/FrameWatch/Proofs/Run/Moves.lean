import FrameWatch.Proofs.Delivery
import FrameWatch.Proofs.Run.Standing
import Mathlib.Logic.Relation

/-!
# The moves of a run

Whatever a run does is made of a few moves, each allowed only where the run can make it: the handler
is registered only while there is a context, and the context is dropped only after the handler is
deregistered. What every move preserves holds all along a run.

1. `Move` lists the moves, and `Moves` chains them; `WatchMove` lists what can happen while the run
   asks nothing of the camera. What lets notifications in is made of these (`Act.deliver_watches`),
   and a call is made of moves (`Act.call_moves`).
2. `Moves.history`: what the steps of a run say about the mailbox is a history of it.
3. `Moves.sheltered`: no notification ever strays.
-/

namespace FrameWatch

open Relation (ReflTransGen)

variable {σ α : Type}

/-- What a run can do at once. -/
inductive Move (rig : Rig σ) : RunState σ → RunState σ → Prop
  /-- The camera goes on to another state. -/
  | turn (s : RunState σ) (x : σ) : Move rig s { s with rig := x }
  /-- The run makes a step of its own, other than a wait. -/
  | did (s : RunState σ) (e : RunStep) (hown : e.isOwn = true) (hwait : ∀ t, e ≠ .waited t) :
      Move rig s (s.step e)
  /-- A wait ends. -/
  | take (s : RunState σ) :
      Move rig s ({ s with mailbox := s.mailbox.take.2 }.step (.waited s.mailbox.take.1))
  | handle (s : RunState σ) {handler : Handler} {info : FrameInfo} (n : Notification)
      (hreg : s.registered = true) (hlive : s.context.live? = some handler)
      (hinfo : n.info = some info) (hcontext : n.hasContext = true) :
      Move rig s (Act.handled rig handler n info s)
  | stray (s : RunState σ) (n : Notification) (hreg : s.registered = true)
      (hdead : s.context.live? = none) : Move rig s (s.step (.strayed n))
  | enter (s : RunState σ) (p : Phase) : Move rig s { s with phase := p }
  | hold (s : RunState σ) (camera : Option Handle) : Move rig s { s with camera := camera }
  | allocate (s : RunState σ) (camera : Handle) (buffer : FrameBuffer)
      (hreg : s.registered = false) (habsent : s.context = .absent) (hdue : s.tornDown = false) :
      Move rig s { s with buffer := .held buffer, context := .held (.ofBuffer camera buffer) }
  | register (s : RunState σ) (hlive : s.context.live? ≠ none) :
      Move rig s { s with registered := true }
  | deregister (s : RunState σ) : Move rig s { s with registered := false }
  | dropContext (s : RunState σ) (hreg : s.registered = false) :
      Move rig s { s with context := .released }
  | leakContext (s : RunState σ) {handler : Handler} (hheld : s.context = .held handler) :
      Move rig s { s with context := .leaked handler }
  | giveBuffer (s : RunState σ) (buffer : Custody FrameBuffer) :
      Move rig s { s with buffer := buffer }
  | tearDown (s : RunState σ) : Move rig s { s with tornDown := true }

/-- What can happen while the run asks nothing of the camera. -/
inductive WatchMove (rig : Rig σ) : RunState σ → RunState σ → Prop
  | arrive (s : RunState σ) (m : Moment) :
      WatchMove rig s { s with rig := (rig.arrivals m s.rig).2 }
  | tick (s : RunState σ) : WatchMove rig s (Act.deliverTick rig s).2
  | did (s : RunState σ) (e : RunStep) (hown : e.isOwn = true) (hwait : ∀ t, e ≠ .waited t) :
      WatchMove rig s (s.step e)
  | take (s : RunState σ) :
      WatchMove rig s ({ s with mailbox := s.mailbox.take.2 }.step (.waited s.mailbox.take.1))

/-- Some moves one after the other. -/
abbrev Moves (rig : Rig σ) : RunState σ → RunState σ → Prop := ReflTransGen (Move rig)

/-! ## What calls and notifications are made of -/

namespace Act

variable (rig : Rig σ) (s : RunState σ)

theorem receive_moves (n : Notification) : Moves rig s (receive rig n s).2 := by
  rcases receive_cases rig s n with
    ⟨-, h⟩ | ⟨hreg, hdead, h⟩ | ⟨handler, info, hreg, hlive, hinfo, hcontext, h⟩
  · rw [h]
  · rw [h]; exact .single (.stray s n hreg hdead)
  · rw [h]; exact .single (.handle s n hreg hlive hinfo hcontext)

theorem ask_moves (question : StateM σ α) : Moves rig s (ask question s).2 :=
  .single (.turn s _)

theorem deliverTick_moves : Moves rig s (deliverTick rig s).2 := by
  unfold deliverTick
  rw [run_bind]
  refine (ask_moves rig s rig.tick).trans ?_
  cases (ask rig.tick s).1 with
  | none => exact .refl
  | some n => exact receive_moves rig _ n

theorem deliverTicks_watches (n : ℕ) :
    ReflTransGen (WatchMove rig) s (deliverTicks rig n s).2 := by
  induction n generalizing s with
  | zero => exact .refl
  | succ n ih => exact ReflTransGen.head (.tick s) (ih _)

theorem deliver_watches (m : Moment) : ReflTransGen (WatchMove rig) s (deliver rig m s).2 :=
  ReflTransGen.head (.arrive s m) (deliverTicks_watches rig _ _)

theorem log_watches (e : RunEvent) : ReflTransGen (WatchMove rig) s (log e s).2 :=
  .single (.did s _ rfl (by simp))

theorem watches_moves {s s' : RunState σ} (h : ReflTransGen (WatchMove rig) s s') :
    Moves rig s s' := by
  induction h with
  | refl => exact .refl
  | tail _ hmove ih =>
    refine ih.trans ?_
    cases hmove with
    | arrive m => exact .single (.turn _ _)
    | tick => exact deliverTick_moves rig _
    | did e hown hwait => exact .single (.did _ e hown hwait)
    | take => exact .single (.take _)

theorem deliver_moves (m : Moment) : Moves rig s (deliver rig m s).2 :=
  watches_moves rig (deliver_watches rig s m)

theorem log_moves (e : RunEvent) : Moves rig s (log e s).2 :=
  .single (.did s _ rfl (by simp))

theorem enter_moves (target : Phase) : Moves rig s (enter target s).2 :=
  (log_moves rig s (.transition s.phase target)).tail (.enter _ target)

theorem call_moves (c : CameraCall) (effect : StateM σ (Except CameraError α))
    (hc : (RunStep.noted (.call c)).isOwn = true) : Moves rig s (call rig c effect s).2 := by
  unfold call
  simp only [run_bind, run_modify, run_pure]
  refine ReflTransGen.tail ?_ (.did _ _ rfl (by simp))
  refine ReflTransGen.trans ?_ (deliver_moves rig _ _)
  refine ReflTransGen.trans ?_ (ask_moves rig _ effect)
  refine ReflTransGen.trans ?_ (deliver_moves rig _ _)
  exact .single (.did s _ hc (by simp))

/-- What holds once a call has returned, if a watch keeps what holds before it takes effect and what
holds afterwards. -/
theorem call_of_effect {c : CameraCall} {effect : StateM σ (Except CameraError α)} {s : RunState σ}
    (I : RunState σ → Prop) (Q : Except CameraError α → RunState σ → Prop)
    (hc : (RunStep.noted (.call c)).isOwn = true)
    (keepI : ∀ s s', ReflTransGen (WatchMove rig) s s' → I s → I s')
    (heffect : ∀ s, I s → Q (effect s.rig).1 { s with rig := (effect s.rig).2 })
    (keepQ : ∀ answer s s', ReflTransGen (WatchMove rig) s s' → Q answer s → Q answer s')
    (hs : I s) : Q (call rig c effect s).1 (call rig c effect s).2 := by
  set s₁ := (deliver rig (.before c) (s.note (.call c))).2 with hs₁
  have hnoted : ReflTransGen (WatchMove rig) s (s.note (.call c)) := .single (.did s _ hc (by simp))
  have hbefore : I s₁ := keepI _ _ (hnoted.trans (deliver_watches rig _ _)) hs
  have hafter : Q (effect s₁.rig).1 (ask effect s₁).2 := heffect s₁ hbefore
  exact keepQ _ _ _ ((deliver_watches rig _ (.after c)).tail (.did _ _ rfl (by simp))) hafter

end Act

/-! ## The mailbox -/

/-- What the step does to the mailbox. -/
def RunStep.mailboxEvent? : RunStep → Option MailboxEvent
  | handled _ _ (some d) => some (.signalled d)
  | waited taken => some (.ofTaken taken)
  | _ => none

theorem RunStep.mailboxEvent?_of_own (e : RunStep) (hown : e.isOwn = true)
    (hwait : ∀ t, e ≠ .waited t) : e.mailboxEvent? = none := by
  cases e with
  | waited t => exact absurd rfl (hwait t)
  | handled => cases hown
  | _ => rfl

/-- What the run has done to the mailbox, in order. -/
def RunState.mailboxEvents (s : RunState σ) : List MailboxEvent :=
  s.past.toList.filterMap RunStep.mailboxEvent?

theorem RunState.mailboxEvents_step (s : RunState σ) (e : RunStep) :
    (s.step e).mailboxEvents = s.mailboxEvents ++ e.mailboxEvent?.toList := by
  unfold mailboxEvents step
  rw [Array.toList_push, List.filterMap_append]
  cases h : e.mailboxEvent? <;> simp [h]

theorem RunState.mailboxEvents_handled (rig : Rig σ) (s : RunState σ) (handler : Handler)
    (n : Notification) (info : FrameInfo) :
    (Act.handled rig handler n info s).mailboxEvents =
      s.mailboxEvents ++ ((handler.descriptor? info (rig.fetch handler.camera s.rig).1).map
        MailboxEvent.signalled).toList := by
  have hpast : (Act.handled rig handler n info s).mailboxEvents =
      ((s.note (.call (.fetch handler.camera))).step (.handled n (rig.fetch handler.camera s.rig).1
        (handler.descriptor? info (rig.fetch handler.camera s.rig).1))).mailboxEvents := rfl
  rw [hpast, mailboxEvents_step, note, mailboxEvents_step]
  cases handler.descriptor? info (rig.fetch handler.camera s.rig).1 <;>
    simp [RunStep.mailboxEvent?]

/-- The steps of a run account for its mailbox. -/
def RunState.KeepsHistory (s : RunState σ) : Prop := MailboxHistory s.mailboxEvents s.mailbox

theorem RunState.keepsHistory_initial (x : σ) (mailbox : Mailbox) :
    (initial x mailbox.reset).KeepsHistory := .start

theorem Move.history {rig : Rig σ} {s s' : RunState σ} (hmove : Move rig s s')
    (h : s.KeepsHistory) : s'.KeepsHistory := by
  unfold RunState.KeepsHistory at *
  cases hmove with
  | did e hown hwait =>
    rw [RunState.mailboxEvents_step, e.mailboxEvent?_of_own hown hwait, Option.toList_none,
      List.append_nil]
    exact h
  | take =>
    rw [RunState.mailboxEvents_step]
    exact h.wait
  | @handle handler info n =>
    rw [RunState.mailboxEvents_handled]
    show MailboxHistory _ (Option.elim _ s.mailbox s.mailbox.signal)
    cases handler.descriptor? info (rig.fetch handler.camera s.rig).1 with
    | none => rw [Option.map_none, Option.toList_none, List.append_nil]; exact h
    | some d => exact h.signal d
  | stray n =>
    have hnone : (RunStep.strayed n).mailboxEvent? = none := rfl
    rw [RunState.mailboxEvents_step, hnone, Option.toList_none, List.append_nil]
    exact h
  | _ => exact h

theorem Moves.history {rig : Rig σ} {s s' : RunState σ} (hmoves : Moves rig s s')
    (h : s.KeepsHistory) : s'.KeepsHistory := by
  induction hmoves with
  | refl => exact h
  | tail _ hmove ih => exact hmove.history ih

/-! ## Notifications and the context -/

/-- No notification has strayed, and none can. -/
structure RunState.Sheltered (s : RunState σ) : Prop where
  live : s.registered = true → s.context.live? ≠ none
  past : ∀ n, RunStep.strayed n ∉ s.past.toList

theorem RunState.Sheltered.step {s : RunState σ} (h : s.Sheltered) {e : RunStep}
    (he : ∀ n, e ≠ .strayed n) : (s.step e).Sheltered where
  live := h.live
  past n hn := (RunState.mem_step.mp hn).elim (h.past n) fun heq => he n heq.symm

theorem Move.sheltered {rig : Rig σ} {s s' : RunState σ} (hmove : Move rig s s')
    (h : s.Sheltered) : s'.Sheltered := by
  cases hmove with
  | did e hown hwait => exact h.step fun n he => by rw [he] at hown; cases hown
  | take =>
    have htaken : RunState.Sheltered { s with mailbox := s.mailbox.take.2 } := ⟨h.live, h.past⟩
    exact htaken.step (by simp)
  | @handle handler info n hreg hlive =>
    have hpast := (h.step (e := .noted (.call (.fetch handler.camera))) (by simp)).step
      (e := .handled n (rig.fetch handler.camera s.rig).1
        (handler.descriptor? info (rig.fetch handler.camera s.rig).1)) (by simp)
    refine ⟨fun _ => ?_, hpast.past⟩
    show (s.context.map _).live? ≠ none
    rw [Custody.live?_map, hlive]
    simp
  | stray n hreg hdead => exact absurd hdead (h.live hreg)
  | allocate camera buffer => exact ⟨by simp [Custody.live?], h.past⟩
  | register hlive => exact ⟨fun _ => hlive, h.past⟩
  | deregister => exact ⟨by simp, h.past⟩
  | dropContext hreg => exact ⟨fun hreg' => absurd hreg' (by simp [hreg]), h.past⟩
  | leakContext hheld => exact ⟨by simp [Custody.live?], h.past⟩
  | _ => exact ⟨h.live, h.past⟩

theorem Moves.sheltered {rig : Rig σ} {s s' : RunState σ} (hmoves : Moves rig s s')
    (h : s.Sheltered) : s'.Sheltered := by
  induction hmoves with
  | refl => exact h
  | tail _ hmove ih => exact hmove.sheltered ih

end FrameWatch
