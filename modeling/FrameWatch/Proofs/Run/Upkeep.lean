import FrameWatch.Proofs.Run.Course
import FrameWatch.Proofs.Run.SideBySide

/-!
# What runs keep of their rig

What every single answer of a rig keeps of its state, a whole run keeps, and any number of runs.
A run is set beside itself for that: where the states of both sides are the same and `P` holds of
them, that is so after every action (`Comparison.self`).
-/

namespace FrameWatch

open Relation (ReflTransGen)

variable {σ α : Type}

/-- Every answer of the rig keeps `P`. -/
structure Rig.Keeps (rig : Rig σ) (P : σ → Prop) : Prop where
  openCamera : ∀ name x, P x → P (rig.openCamera name x).2
  selectMode : ∀ camera mode x, P x → P (rig.selectMode camera mode x).2
  configure : ∀ camera region mode ms policy x, P x →
    P (rig.configure camera region mode ms policy x).2
  register : ∀ camera x, P x → P (rig.register camera x).2
  start : ∀ camera buffer x, P x → P (rig.start camera buffer x).2
  abort : ∀ camera x, P x → P (rig.abort camera x).2
  deregister : ∀ camera x, P x → P (rig.deregister camera x).2
  close : ∀ camera x, P x → P (rig.close camera x).2
  fetch : ∀ camera x, P x → P (rig.fetch camera x).2
  lastError : ∀ x, P x → P (rig.lastError x).2
  reserve : ∀ bytes x, P x → P (rig.reserve bytes x).2
  arrivals : ∀ m x, P x → P (rig.arrivals m x).2
  tick : ∀ x, P x → P (rig.tick x).2

/-! ## A run beside itself -/

/-- A rig and the same rig, in the same state, of which `P` holds. -/
def Comparison.self (P : σ → Prop) : Comparison σ σ where
  timed := True
  place := id
  alike p q x y := x = y ∧ p = q ∧ P x
  forget h := ⟨h.1, rfl, h.2.2⟩
  left _ := True
  right _ := True

section Self

variable {P : σ → Prop} {rig : Rig σ} {s : RunState σ}

theorem RunState.matches_self (h : P s.rig) : s.Matches (.self P) s :=
  ⟨rfl, rfl, rfl, rfl, rfl, rfl, rfl, rfl, h⟩

/-- An action that is in step with itself keeps `P`. -/
theorem InStep.keeps {Q : α → α → Prop} {x : Act σ α} (hx : InStep (.self P) Q x x) (h : P s.rig) :
    P (x s).2.rig :=
  (hx.step s s (RunState.matches_self h) trivial trivial).2.alike.2.2

theorem InStep.ask_self {question : StateM σ α} (h : ∀ x, P x → P (question x).2) :
    InStep (.self P) Eq (Act.ask question) (Act.ask question) where
  left _ _ := trivial
  right _ _ := trivial
  step s t hm _ _ := by
    obtain ⟨hrig, hblock, hP⟩ := hm.alike
    refine ⟨?_, { hm with alike := ⟨?_, hblock, h _ hP⟩ }⟩
    · show (question s.rig).1 = (question t.rig).1
      rw [hrig]
    · show (question s.rig).2 = (question t.rig).2
      rw [hrig]

namespace Rig.Keeps

variable (h : rig.Keeps P)

include h

theorem fetches : (Comparison.self P).Fetches rig rig where
  left _ _ _ := trivial
  right _ _ _ := trivial
  step camera p q x y halike _ _ := by
    obtain ⟨rfl, hblock, hP⟩ := halike
    obtain rfl : p = q := Option.some.inj hblock
    exact ⟨rfl, rfl, rfl, h.fetch camera x hP⟩

theorem reserves : (Comparison.self P).Reserves rig rig where
  left _ _ _ := trivial
  right _ _ _ := trivial
  step bytes p q x y halike _ _ := by
    obtain ⟨rfl, hblock, hP⟩ := halike
    have hkept := h.reserve bytes x hP
    cases hbase : (rig.reserve bytes x).1 with
    | none => exact .inl ⟨rfl, rfl, rfl, hblock, hkept⟩
    | some base => exact .inr ⟨base, base, rfl, rfl, rfl, rfl, rfl, hkept⟩

theorem deliverTick : InStep (.self P) Eq (Act.deliverTick rig) (Act.deliverTick rig) := by
  refine InStep.andThen (.ask_self h.tick) fun announced => ?_
  cases announced with
  | none => exact .pure rfl
  | some n => exact .receive h.fetches n

theorem deliver (m : Moment) :
    InStep (.self P) Eq (Act.deliver rig m) (Act.deliver rig m) := by
  unfold Act.deliver
  refine InStep.andThen (.ask_self (h.arrivals m)) fun n => ?_
  induction n with
  | zero => exact .pure rfl
  | succ n ih => exact h.deliverTick.andThen fun _ => ih

/-- What every answer keeps, a watch keeps. -/
theorem watches {s s' : RunState σ} (hs : ReflTransGen (WatchMove rig) s s') (hP : P s.rig) :
    P s'.rig := by
  induction hs with
  | refl => exact hP
  | tail _ hmove ih =>
    cases hmove with
    | arrive m => exact h.arrivals m _ ih
    | tick => exact h.deliverTick.keeps ih
    | _ => exact ih

/-- A run goes as it goes. -/
theorem holds : (Comparison.self P).Holds rig rig where
  clock halike _ _ _ := congrArg rig.clock halike.1
  deliver := h.deliver
  openCamera name := .ask_self (h.openCamera name)
  selectMode camera mode := .ask_self (h.selectMode camera mode)
  configure camera region mode ms policy := .ask_self (h.configure camera region mode ms policy)
  reserve := h.reserves
  register camera := .ask_self (h.register camera)
  start camera b b' hb := by
    obtain rfl : b = b' := hb
    exact .ask_self (h.start camera b)
  abort camera := .ask_self (h.abort camera)
  deregister camera := .ask_self (h.deregister camera)
  close camera := .ask_self (h.close camera)
  lastError := .ask_self h.lastError

/-! ## Whole runs -/

/-- What every answer keeps, a run keeps. -/
theorem run (r : Runner σ) (number : ℕ) (hr : P r.rig) : P (r.run rig number).2.2.rig := by
  have hobserved : (r.run rig number).2.2.rig =
      (Run.observe rig r.settings number (.initial r.rig r.mailbox.reset)).2.rig := by
    rw [← (r.run_eq_observe rig number).2]
    rfl
  have hstart : P (RunState.initial r.rig r.mailbox.reset).rig := hr
  have hdriven := (h.holds.drive r.settings).keeps hstart
  have htorn := h.holds.teardown.keeps hdriven
  have hstopped := (Comparison.Holds.rig_stop
    (Teardown.steps rig (Run.drive rig r.settings (.initial r.rig r.mailbox.reset)).2).1.1
    (Teardown.steps rig (Run.drive rig r.settings (.initial r.rig r.mailbox.reset)).2).2).1
  rw [hobserved]
  exact hstopped.symm ▸ htorn

end Rig.Keeps

end Self

end FrameWatch
