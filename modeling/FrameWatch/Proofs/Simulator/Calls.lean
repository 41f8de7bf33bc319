import FrameWatch.Simulator.Basic
import Mathlib.Data.Nat.Notation

/-!
# What calls change

Every call to the simulated camera makes one or two small changes, unless it fails; besides, it
counts itself, and may keep an error. `Simulator.Tolerant` says that a relation between cameras is
not disturbed by the error. Such a relation holds across a call, apart from what is counted, if it
holds across the changes that the call can make, and there is one lemma for each call that says so
(`Simulator.Past`). Where what is counted does not disturb the relation either, it is
`Simulator.Lenient` and holds across the whole call.
-/

namespace FrameWatch.Simulator

variable {α β : Type}

/-- A relation between cameras that lasts whichever error is kept. -/
structure Tolerant (R : Simulator → Simulator → Prop) : Prop where
  refl : ∀ s, R s s
  trans : ∀ {s t u}, R s t → R t u → R s u
  lastError : ∀ s e, R s { s with lastError := e }

/-- A relation between cameras that lasts whatever is counted and whichever error is kept. -/
structure Lenient (R : Simulator → Simulator → Prop) : Prop extends Tolerant R where
  counts : ∀ s counts, R s { s with counts := counts }

/-- The relation holds across the call. -/
def Within (R : Simulator → Simulator → Prop) (call : Action α) : Prop := ∀ s, R s (call s).2

/-- The call counts itself, and the relation holds across the rest of it. -/
def Past (R : Simulator → Simulator → Prop) (count : CallCounts → CallCounts) (call : Action α) :
    Prop :=
  ∀ s, R { s with counts := count s.counts } (call s).2

namespace Tolerant

variable {R : Simulator → Simulator → Prop} (hR : Tolerant R)

/-! ## What calls are made of -/

theorem ite {p : Prop} [Decidable p] {x y : Action α} (hx : Within R x) (hy : Within R y) :
    Within R (if p then x else y) := by
  split
  · exact hx
  · exact hy

theorem past {count : CallCounts → CallCounts} {f : Unit → Action α} (hf : Within R (f ())) :
    Past R count (tally count >>= f) := fun s => hf { s with counts := count s.counts }

include hR

theorem pure (a : α) : Within R (Pure.pure a) := hR.refl

theorem get : Within R (MonadState.get : Action Simulator) := hR.refl

theorem fail (code : Int) (message : String) : Within R (fail (α := α) code message) :=
  fun s => hR.lastError s _

theorem bind {x : Action α} {f : α → Action β} (hx : Within R x) (hf : ∀ a, Within R (f a)) :
    Within R (x >>= f) := fun s => hR.trans (hx s) (hf _ _)

theorem unlessInjected {stage : SetupStage} {call : Action (Reply α)} (hcall : Within R call) :
    Within R (unlessInjected stage call) :=
  hR.bind hR.get fun _ => ite (hR.fail _ _) hcall

theorem withSession {h : Handle} {call : CameraSession → Action (Reply α)}
    (hcall : ∀ session, Within R (call session)) : Within R (withSession h call) := by
  refine hR.bind hR.get fun (s : Simulator) => ?_
  cases s.sessions.get? h with
  | none => exact hR.fail _ _
  | some session => exact hcall session

/-! ## The calls -/

theorem openCamera {name : String} (hopen : ∀ s : Simulator, R s { s with
      opened := s.opened + 1, sessions := s.sessions.insert (.ofCount s.opened) .fresh }) :
    Past R (fun c => { c with opens := c.opens + 1 }) (openCamera name) := by
  refine past <| hR.unlessInjected fun s => ?_
  show R s ((if s.behavior.cameras.contains name then _ else _ : Action (Reply Handle)) s).2
  split
  · exact hopen s
  · exact hR.lastError s _

theorem close {h : Handle}
    (hclose : ∀ s : Simulator, R s { s with sessions := s.sessions.erase h }) :
    Past R (fun c => { c with closes := c.closes + 1 }) (close h) :=
  past <| hR.withSession fun _ => hclose

theorem selectMode (h : Handle) (mode : ExposureMode) : Within R (selectMode h mode) :=
  hR.unlessInjected <| hR.withSession fun _ => hR.bind hR.get fun _ => hR.pure _

theorem configure {h : Handle} {region : Region}
    (hchange : ∀ bytes, Within R (change h fun session => { session with frameBytes := bytes })) :
    Within R (configure h region) :=
  hR.unlessInjected <| ite
    (hR.withSession fun _ => hR.bind hR.get fun _ => hR.bind (hchange _) fun _ => hR.pure _)
    (hR.fail _ _)

theorem register {h : Handle} {token : ℕ}
    (hchange : Within R (change h fun session => { session with registration := some token })) :
    Past R (fun c => { c with registers := c.registers + 1 }) (register h token) :=
  past <| hR.unlessInjected <| hR.withSession fun _ => hR.bind hchange fun _ => hR.pure _

theorem deregister {h : Handle}
    (hchange : Within R (change h fun session => { session with registration := none })) :
    Past R (fun c => { c with deregisters := c.deregisters + 1 }) (deregister h) :=
  past <| hR.withSession fun _ => hR.bind hchange fun _ => hR.pure _

theorem abort {h : Handle}
    (hchange : Within R (change h fun session => { session with acquisition := none })) :
    Past R (fun c => { c with aborts := c.aborts + 1 }) (abort h) :=
  past <| hR.withSession fun _ => hR.bind hchange fun _ => hR.pure _

theorem start {h : Handle} {base : Option ℕ} {size : ℕ}
    (hqueue : Within R (change h fun session => { session with queue := .empty }))
    (hstart : ∀ a, Within R (change h fun session => { session with acquisition := some a })) :
    Past R (fun c => { c with starts := c.starts + 1 }) (start h base size) := by
  refine past <| hR.unlessInjected <| hR.withSession fun session => ?_
  obtain ⟨frameBytes, registration, queue, acquisition⟩ := session
  cases acquisition with
  | some a => exact hR.fail _ _
  | none =>
    cases frameBytes with
    | none => exact hR.fail _ _
    | some frameBytes =>
      cases base with
      | none => exact hR.fail _ _
      | some base =>
        exact ite (hR.fail _ _) <| hR.bind hqueue fun _ => hR.bind hR.get fun _ =>
          ite (hR.bind (hstart _) fun _ => hR.pure _) (hR.fail _ _)

theorem fetch {h : Handle} (hchange : Within R (change h fun session =>
      { session with queue := { session.queue with pending := 0 } })) :
    Past R (fun c => { c with fetches := c.fetches + 1 }) (fetch h) := by
  refine past <| hR.withSession fun session => ?_
  cases session.queue.latest with
  | none => exact hR.fail _ _
  | some latest =>
    exact ite (hR.fail _ _) <| hR.bind hR.get fun _ => ite (hR.fail _ _) <|
      hR.bind hchange fun _ => hR.pure _

end Tolerant

namespace Lenient

variable {R : Simulator → Simulator → Prop} (hR : Lenient R)

include hR

theorem within {count : CallCounts → CallCounts} {call : Action α} (h : Past R count call) :
    Within R call := fun s => hR.trans (hR.counts s _) (h s)

theorem openCamera {name : String} (hopen : ∀ s : Simulator, R s { s with
      opened := s.opened + 1, sessions := s.sessions.insert (.ofCount s.opened) .fresh }) :
    Within R (openCamera name) := hR.within (hR.toTolerant.openCamera hopen)

theorem close {h : Handle}
    (hclose : ∀ s : Simulator, R s { s with sessions := s.sessions.erase h }) :
    Within R (close h) := hR.within (hR.toTolerant.close hclose)

theorem register {h : Handle} {token : ℕ}
    (hchange : Within R (change h fun session => { session with registration := some token })) :
    Within R (register h token) := hR.within (hR.toTolerant.register hchange)

theorem deregister {h : Handle}
    (hchange : Within R (change h fun session => { session with registration := none })) :
    Within R (deregister h) := hR.within (hR.toTolerant.deregister hchange)

theorem abort {h : Handle}
    (hchange : Within R (change h fun session => { session with acquisition := none })) :
    Within R (abort h) := hR.within (hR.toTolerant.abort hchange)

theorem start {h : Handle} {base : Option ℕ} {size : ℕ}
    (hqueue : Within R (change h fun session => { session with queue := .empty }))
    (hstart : ∀ a, Within R (change h fun session => { session with acquisition := some a })) :
    Within R (start h base size) := hR.within (hR.toTolerant.start hqueue hstart)

theorem fetch {h : Handle} (hchange : Within R (change h fun session =>
      { session with queue := { session.queue with pending := 0 } })) :
    Within R (fetch h) := hR.within (hR.toTolerant.fetch hchange)

end Lenient

end FrameWatch.Simulator
