import FrameWatch.Proofs.Run.Standing
import Mathlib.Order.Defs.Unbundled

/-!
# Actions side by side

Two runs with the same settings ask their rigs the same questions, for as long as they are answered
alike. What "alike" means is left to a `Comparison`: it says what the states of the two rigs have in
common, which of them are looked at, whether clocks are compared, and what is compared of the
address at which a buffer begins.

1. `RunState.Matches` compares the states of two runs, apart from their steps.
2. `InStep` says that two actions keep states matching and answer alike, as long as they lead to
   states that are looked at. It is closed under what actions are made of.
3. `InStep.receive`: rigs that fetch frames alike (`Comparison.Fetches`) have them handled alike.
-/

namespace FrameWatch

variable {σ τ α β : Type}

/-! ## What is compared -/

/-- The handler with its buffer moved. -/
def Handler.moved (place : Nat → Nat) (h : Handler) : Handler := { h with base := place h.base }

/-- Where the buffer of the handler begins, and how many bytes it has. -/
def Handler.block (h : Handler) : Nat × Nat := (h.base, h.size)

/-- The buffer, moved. -/
def FrameBuffer.moved (place : Nat → Nat) (b : FrameBuffer) : FrameBuffer :=
  { b with base := place b.base }

theorem Custody.cases_of_map_eq {f : α → β} {c c' : Custody α} (h : c.map f = c'.map f) :
    (c = .absent ∧ c' = .absent) ∨ (∃ a a', c = .held a ∧ c' = .held a' ∧ f a = f a') ∨
      (c = .released ∧ c' = .released) ∨ ∃ a a', c = .leaked a ∧ c' = .leaked a' ∧ f a = f a' := by
  cases c <;> cases c' <;> simp_all [map]

theorem Custody.map_const_congr {f : α → β} {c c' : Custody α} {a b : α}
    (h : c.map f = c'.map f) (hab : f a = f b) :
    (c.map fun _ => a).map f = (c'.map fun _ => b).map f := by
  cases c <;> cases c' <;> simp_all [map]

/-- How two rigs with states from `σ` and `τ` are compared. -/
structure Comparison (σ τ : Type) where
  /-- Whether the clocks are compared. -/
  timed : Prop
  /-- What is compared of the address at which a buffer begins. -/
  place : Nat → Nat
  /-- What the rigs have in common while the handlers that still exist have these blocks. -/
  alike : Option (Nat × Nat) → Option (Nat × Nat) → σ → τ → Prop
  /-- Less is asked of rigs whose handlers are gone. -/
  forget : ∀ {p q x y}, alike p q x y → alike none none x y
  /-- Which states of the one rig are looked at. -/
  left : σ → Prop
  /-- Which states of the other rig are looked at. -/
  right : τ → Prop

/-- Two states that hold the same, as far as it is compared. -/
structure RunState.Matches (c : Comparison σ τ) (s : RunState σ) (t : RunState τ) : Prop where
  mailbox : s.mailbox = t.mailbox
  camera : s.camera = t.camera
  registered : s.registered = t.registered
  tornDown : s.tornDown = t.tornDown
  context : s.context.map (Handler.moved c.place) = t.context.map (Handler.moved c.place)
  buffer : s.buffer.map (FrameBuffer.moved c.place) = t.buffer.map (FrameBuffer.moved c.place)
  alike : c.alike (s.context.live?.map Handler.block) (t.context.live?.map Handler.block) s.rig
    t.rig

/-- Two actions that, side by side, keep states matching and answer alike. A state that leads to one
that is looked at is looked at itself, so that this is asked of the end of a run only. -/
structure InStep (c : Comparison σ τ) (Q : α → α → Prop) (x : Act σ α) (y : Act τ α) : Prop where
  left : ∀ s, c.left (x s).2.rig → c.left s.rig
  right : ∀ t, c.right (y t).2.rig → c.right t.rig
  step : ∀ s t, s.Matches c t → c.left (x s).2.rig → c.right (y t).2.rig →
    Q (x s).1 (y t).1 ∧ (x s).2.Matches c (y t).2

namespace InStep

variable {c : Comparison σ τ} {Q : α → α → Prop} {R : β → β → Prop}

theorem pure {a b : α} (h : Q a b) : InStep c Q (Pure.pure a) (Pure.pure b) where
  left _ hleft := hleft
  right _ hright := hright
  step _ _ hm _ _ := ⟨h, hm⟩

theorem bind [Std.Refl Q] {x : Act σ α} {y : Act τ α} {f : α → Act σ β} {g : α → Act τ β}
    (h : InStep c Q x y) (hf : ∀ a b, Q a b → InStep c R (f a) (g b)) :
    InStep c R (x >>= f) (y >>= g) where
  left s hleft := h.left s ((hf _ _ (Std.Refl.refl _)).left _ hleft)
  right t hright := h.right t ((hf _ _ (Std.Refl.refl _)).right _ hright)
  step s t hm hleft hright := by
    obtain ⟨hQ, hm'⟩ := h.step s t hm ((hf _ _ (Std.Refl.refl _)).left _ hleft)
      ((hf _ _ (Std.Refl.refl _)).right _ hright)
    exact (hf _ _ hQ).step _ _ hm' hleft hright

/-- Actions that answer the same, one after the other. -/
theorem andThen {x : Act σ α} {y : Act τ α} {f : α → Act σ β} {g : α → Act τ β}
    (h : InStep c Eq x y) (hf : ∀ a, InStep c R (f a) (g a)) : InStep c R (x >>= f) (y >>= g) :=
  h.bind fun a _ hab => hab ▸ hf a

/-- Actions that go by what they see of their states. -/
theorem view [Std.Refl Q] {x : Act σ β} {y : Act τ β} (v : RunState σ → α) (w : RunState τ → α)
    (f : α → Act σ β) (g : α → Act τ β) (hx : ∀ s, x s = f (v s) s) (hy : ∀ t, y t = g (w t) t)
    (hvw : ∀ s t, s.Matches c t → c.left s.rig → c.right t.rig → Q (v s) (w t))
    (h : ∀ a b, Q a b → InStep c R (f a) (g b)) : InStep c R x y where
  left s hleft := by
    rw [hx] at hleft
    exact (h _ _ (Std.Refl.refl _)).left s hleft
  right t hright := by
    rw [hy] at hright
    exact (h _ _ (Std.Refl.refl _)).right t hright
  step s t hm hleft hright := by
    rw [hx] at hleft ⊢
    rw [hy] at hright ⊢
    have hQ := hvw s t hm ((h _ _ (Std.Refl.refl _)).left s hleft)
      ((h _ _ (Std.Refl.refl _)).right t hright)
    exact (h _ _ hQ).step s t hm hleft hright

/-- Actions that go by what matching states have in common. -/
theorem see {x : Act σ β} {y : Act τ β} {v : RunState σ → α} {w : RunState τ → α}
    {f : α → Act σ β} {g : α → Act τ β} (hx : ∀ s, x s = f (v s) s) (hy : ∀ t, y t = g (w t) t)
    (hvw : ∀ s t, s.Matches c t → v s = w t) (h : ∀ a, InStep c R (f a) (g a)) :
    InStep c R x y :=
  view (Q := Eq) v w f g hx hy (fun s t hm _ _ => hvw s t hm) fun a _ hab => hab ▸ h a

/-- Actions that leave their rigs alone. -/
theorem of_rig_eq {x : Act σ α} {y : Act τ α} (hx : ∀ s, (x s).2.rig = s.rig)
    (hy : ∀ t, (y t).2.rig = t.rig)
    (h : ∀ s t, s.Matches c t → Q (x s).1 (y t).1 ∧ (x s).2.Matches c (y t).2) :
    InStep c Q x y where
  left s hleft := hx s ▸ hleft
  right t hright := hy t ▸ hright
  step s t hm _ _ := h s t hm

theorem update {f : RunState σ → RunState σ} {g : RunState τ → RunState τ}
    (hf : ∀ s, (f s).rig = s.rig) (hg : ∀ t, (g t).rig = t.rig)
    (h : ∀ s t, s.Matches c t → (f s).Matches c (g t)) :
    InStep c Eq (modify f : Act σ Unit) (modify g : Act τ Unit) :=
  .of_rig_eq hf hg fun s t hm => ⟨rfl, h s t hm⟩

theorem log (e e' : RunEvent) : InStep c Eq (Act.log (σ := σ) e) (Act.log (σ := τ) e') :=
  .of_rig_eq (fun _ => rfl) (fun _ => rfl) fun _ _ hm => ⟨rfl, { hm with }⟩

theorem enter (p : Phase) : InStep c Eq (Act.enter (σ := σ) p) (Act.enter (σ := τ) p) :=
  .of_rig_eq (fun _ => rfl) (fun _ => rfl) fun _ _ hm => ⟨rfl, { hm with }⟩

theorem note (e : RunStep) : InStep c Eq (modify (·.step e) : Act σ Unit) (modify (·.step e)) :=
  .of_rig_eq (fun _ => rfl) (fun _ => rfl) fun _ _ hm => ⟨rfl, { hm with }⟩

end InStep

/-! ## Notifications -/

/-- Where a frame lies that was fetched. -/
inductive Landing
  /-- So far behind the start of the buffer, if it lies in it. -/
  | frame (offset : Option Nat)
  | failed (e : CameraError)
  | crashed
deriving DecidableEq

/-- Where the frame lies in a block of memory. -/
def Fetched.landing (block : Nat × Nat) : Fetched → Landing
  | frame address => .frame (FrameBuffer.offsetIn block.1 block.2 address)
  | failed e => .failed e
  | crashed => .crashed

section Landing

variable {h h' : Handler} {answer answer' : Fetched}

theorem Handler.descriptor?_congr (hland : answer.landing h.block = answer'.landing h'.block)
    (info : FrameInfo) : h.descriptor? info answer = h'.descriptor? info answer' := by
  cases answer <;> cases answer' <;> simp_all [Fetched.landing, descriptor?, block]

theorem Handler.moved_congr {place : Nat → Nat} (hmoved : h.moved place = h'.moved place)
    (hland : answer.landing h.block = answer'.landing h'.block) (number : Int) :
    ((h.count number).noteFetch answer).moved place =
      ((h'.count number).noteFetch answer').moved place := by
  have hcount : (h.count number).moved place = (h'.count number).moved place := by
    show (h.moved place).count number = (h'.moved place).count number
    rw [hmoved]
  have hnote : ∀ (h : Handler) answer,
      (h.noteFetch answer).moved place = (h.moved place).noteFetch answer := by
    intro h answer
    cases answer <;> rfl
  have hsame : ∀ h : Handler, h.noteFetch answer = h.noteFetch answer' := by
    intro h
    cases answer <;> cases answer' <;> simp_all [Fetched.landing, noteFetch]
  rw [hnote, hnote, hcount, hsame]

theorem Handler.block_noteFetch (h : Handler) (number : Int) (answer : Fetched) :
    ((h.count number).noteFetch answer).block = h.block := by
  cases answer <;> rfl

end Landing

/-- What two rigs fulfil that fetch frames alike. -/
structure Comparison.Fetches (c : Comparison σ τ) (rig : Rig σ) (rig' : Rig τ) : Prop where
  left : ∀ camera x, c.left (rig.fetch camera x).2 → c.left x
  right : ∀ camera y, c.right (rig'.fetch camera y).2 → c.right y
  step : ∀ camera p q x y, c.alike (some p) (some q) x y → c.left (rig.fetch camera x).2 →
    c.right (rig'.fetch camera y).2 →
    (rig.fetch camera x).1.landing p = (rig'.fetch camera y).1.landing q ∧
      c.alike (some p) (some q) (rig.fetch camera x).2 (rig'.fetch camera y).2

section Receive

variable {c : Comparison σ τ} {rig : Rig σ} {rig' : Rig τ} (hf : c.Fetches rig rig')

include hf

/-- Frames that lie alike are handled alike. -/
theorem RunState.Matches.handled {s : RunState σ} {t : RunState τ} (hm : s.Matches c t)
    {h h' : Handler} (hs : s.context.live? = some h) (ht : t.context.live? = some h')
    (n : Notification) (info : FrameInfo)
    (hleft : c.left (Act.handled rig h n info s).rig)
    (hright : c.right (Act.handled rig' h' n info t).rig) :
    (Act.handled rig h n info s).Matches c (Act.handled rig' h' n info t) := by
  have hmoved : h.moved c.place = h'.moved c.place := by
    have hlive := congrArg Custody.live? hm.context
    rw [Custody.live?_map, Custody.live?_map, hs, ht] at hlive
    exact Option.some.inj hlive
  have hcamera : (h.moved c.place).camera = (h'.moved c.place).camera := by rw [hmoved]
  obtain ⟨camera, base, size, number, counters⟩ := h
  obtain ⟨camera', base', size', number', counters'⟩ := h'
  obtain rfl : camera = camera' := hcamera
  have halike := hm.alike
  rw [hs, ht] at halike
  obtain ⟨hland, halike⟩ := hf.step camera _ _ s.rig t.rig halike hleft hright
  refine { hm with mailbox := ?_, context := ?_, alike := ?_ }
  · show Option.elim _ s.mailbox s.mailbox.signal = Option.elim _ t.mailbox t.mailbox.signal
    rw [Handler.descriptor?_congr hland, hm.mailbox]
  · exact Custody.map_const_congr hm.context (Handler.moved_congr hmoved hland info.number)
  · show c.alike ((s.context.map _).live?.map _) ((t.context.map _).live?.map _) _ _
    rw [Custody.live?_map, Custody.live?_map, hs, ht]
    simp only [Option.map_some, Handler.block_noteFetch]
    exact halike

theorem InStep.receive (n : Notification) :
    InStep c Eq (Act.receive rig n) (Act.receive rig' n) where
  left s hleft := by
    rcases Act.receive_cases rig s n with ⟨-, h⟩ | ⟨-, -, h⟩ | ⟨handler, info, -, -, -, -, h⟩
    · rwa [h] at hleft
    · rw [h] at hleft
      exact hleft
    · rw [h] at hleft
      exact hf.left _ _ hleft
  right t hright := by
    rcases Act.receive_cases rig' t n with ⟨-, h⟩ | ⟨-, -, h⟩ | ⟨handler, info, -, -, -, -, h⟩
    · rwa [h] at hright
    · rw [h] at hright
      exact hright
    · rw [h] at hright
      exact hf.right _ _ hright
  step s t hm hleft hright := by
    refine ⟨rfl, ?_⟩
    have hreg := hm.registered
    have hlive : s.context.live?.isSome = t.context.live?.isSome := by
      simpa using congrArg (Option.isSome ∘ Custody.live?) hm.context
    -- Whether the notification is handled, strays or is ignored is decided by what matches.
    rcases Act.receive_cases rig s n with
        ⟨hs, h⟩ | ⟨hs, hdead, h⟩ | ⟨handler, info, hs, hhandler, hinfo, hcontext, h⟩ <;>
      rcases Act.receive_cases rig' t n with
        ⟨ht, h'⟩ | ⟨ht, hdead', h'⟩ | ⟨handler', info', ht, hhandler', hinfo', hcontext', h'⟩
    · rw [h, h']; exact hm
    · rw [h, h']; exact { hm with }
    · simp_all
    · rw [h, h']; exact { hm with }
    · rw [h, h']; exact { hm with }
    · simp_all
    · simp_all
    · simp_all
    · obtain rfl : info = info' := Option.some.inj (hinfo.symm.trans hinfo')
      rw [h] at hleft ⊢
      rw [h'] at hright ⊢
      exact hm.handled hf hhandler hhandler' n info hleft hright

end Receive

/-! ## Answers -/

/-- What answers have in common whose results are compared by `Q`. -/
def Agreed {ε : Type} (Q : α → α → Prop) : Except ε α → Except ε α → Prop
  | .ok a, .ok b => Q a b
  | .error e, .error e' => e = e'
  | _, _ => False

instance {ε : Type} (Q : α → α → Prop) [Std.Refl Q] : Std.Refl (Agreed (ε := ε) Q) where
  refl
    | .ok a => Std.Refl.refl (r := Q) a
    | .error _ => rfl

/-- What values have in common that depend on the clock. -/
def Timely (timed : Prop) (a b : α) : Prop := timed → a = b

instance (timed : Prop) : Std.Refl (Timely (α := α) timed) where
  refl _ _ := rfl

/-- What buffers have in common that may begin elsewhere. -/
def SameBut (place : Nat → Nat) (b b' : FrameBuffer) : Prop := b.moved place = b'.moved place

instance (place : Nat → Nat) : Std.Refl (SameBut place) where
  refl _ := rfl

namespace InStep

variable {c : Comparison σ τ} {Q : α → α → Prop} {R : β → β → Prop}

/-- Steps of setup, one after the other. -/
theorem bindStep [Std.Refl Q] {x : Setup.Step σ α} {y : Setup.Step τ α}
    {f : α → Setup.Step σ β} {g : α → Setup.Step τ β} (h : InStep c (Agreed Q) x.run y.run)
    (hf : ∀ a b, Q a b → InStep c (Agreed R) (f a).run (g b).run) :
    InStep c (Agreed R) (x >>= f).run (y >>= g).run := by
  refine InStep.bind (f := ExceptT.bindCont f) (g := ExceptT.bindCont g) h fun r r' hr => ?_
  cases r with
  | ok a =>
    cases r' with
    | ok b => exact hf a b hr
    | error e => cases hr
  | error e =>
    cases r' with
    | ok b => cases hr
    | error e' => exact .pure hr

theorem sure {x : Act σ α} {y : Act τ α} (h : InStep c Eq x y) :
    InStep c (Agreed Eq) (Setup.sure x).run (Setup.sure y).run :=
  h.andThen fun a => InStep.pure (Q := Agreed Eq) (a := .ok a) (b := .ok a) rfl

theorem pureStep {a b : α} (h : Q a b) :
    InStep c (Agreed Q) (Pure.pure a : Setup.Step σ α).run (Pure.pure b : Setup.Step τ α).run :=
  InStep.pure (Q := Agreed Q) (a := .ok a) (b := .ok b) h

end InStep

end FrameWatch
