import FrameWatch.Proofs.Run.Seen
import FrameWatch.Proofs.Run.Unwind

/-!
# What a rig goes through

From the moment on at which memory was granted for a buffer, a remembering rig keeps every state
that it has been in, after each of its answers. As nothing but an answer changes the state of a rig,
these are its states at all moments since then. Remembering changes nothing about a run
(`Rig.remembering_run`). Until memory is granted, there is nothing to remember and nobody to hear of
a frame (`Ungranted`), as far as setup gets without it (`Ungranted.openCamera`,
`Ungranted.configure`) and after setup, if it has not got further (`Ungranted.unwinds`).
-/

namespace FrameWatch

open Relation (ReflTransGen)

variable {σ α β : Type}

/-- A block of memory that was granted. -/
structure Grant (σ : Type) where
  /-- The address of the first byte. -/
  base : ℕ
  bytes : ℕ
  /-- The states that the rig has been in since, the earliest first. -/
  states : List σ
deriving DecidableEq

/-- What a remembering rig keeps. -/
structure Remembered (σ : Type) where
  /-- The state of the rig. -/
  now : σ
  /-- The last block of memory that was granted. -/
  grant : Option (Grant σ)
deriving DecidableEq

namespace Remembered

/-- No memory has been granted yet. -/
def fresh (x : σ) : Remembered σ := ⟨x, none⟩

/-- The rig goes on to the state `x`. -/
def went (r : Remembered σ) (x : σ) : Remembered σ :=
  ⟨x, r.grant.map fun g => { g with states := g.states ++ [x] }⟩

/-- The answer of the rig that remembers nothing. -/
def ask (question : StateM σ α) : StateM (Remembered σ) α := fun r =>
  ((question r.now).1, r.went (question r.now).2)

/-- The rig goes on to the state `x` and grants memory or not. What was before it is forgotten. -/
def granted (r : Remembered σ) (bytes : ℕ) (x : σ) : Option ℕ → Remembered σ
  | some base => ⟨x, some ⟨base, bytes, [x]⟩⟩
  | none => r.went x

/-- Memory for a buffer. -/
def reserve (rig : Rig σ) (bytes : ℕ) : StateM (Remembered σ) (Option ℕ) := fun r =>
  ((rig.reserve bytes r.now).1,
    r.granted bytes (rig.reserve bytes r.now).2 (rig.reserve bytes r.now).1)

@[simp] theorem now_granted (r : Remembered σ) (bytes : ℕ) (x : σ) (answer : Option ℕ) :
    (r.granted bytes x answer).now = x := by
  cases answer <;> rfl

end Remembered

/-- The rig that remembers. -/
def Rig.remembering (rig : Rig σ) : Rig (Remembered σ) where
  openCamera name := Remembered.ask (rig.openCamera name)
  logsOpening := rig.logsOpening
  selectMode camera mode := Remembered.ask (rig.selectMode camera mode)
  configure camera region mode ms policy :=
    Remembered.ask (rig.configure camera region mode ms policy)
  register camera := Remembered.ask (rig.register camera)
  start camera buffer := Remembered.ask (rig.start camera buffer)
  abort camera := Remembered.ask (rig.abort camera)
  deregister camera := Remembered.ask (rig.deregister camera)
  close camera := Remembered.ask (rig.close camera)
  fetch camera := Remembered.ask (rig.fetch camera)
  lastError := Remembered.ask rig.lastError
  reserve := Remembered.reserve rig
  arrivals m := Remembered.ask (rig.arrivals m)
  tick := Remembered.ask rig.tick
  clock r := rig.clock r.now
  date r := rig.date r.now

theorem Remembered.ask_shows (question : StateM σ α) :
    Shows Remembered.now (Remembered.ask question) question := fun _ => rfl

theorem Remembered.reserve_shows (rig : Rig σ) (bytes : ℕ) :
    Shows Remembered.now (Remembered.reserve rig bytes) (rig.reserve bytes) := by
  intro r
  show _ = (_, Remembered.now (r.granted _ _ _))
  rw [now_granted]
  rfl

/-- What a rig remembers is no part of its answers. -/
theorem Rig.remembering_shows (rig : Rig σ) : rig.remembering.Shows Remembered.now rig where
  logsOpening := rfl
  clock _ := rfl
  date _ := rfl
  openCamera _ := Remembered.ask_shows _
  selectMode _ _ := Remembered.ask_shows _
  configure _ _ _ _ _ := Remembered.ask_shows _
  register _ := Remembered.ask_shows _
  start _ _ := Remembered.ask_shows _
  abort _ := Remembered.ask_shows _
  deregister _ := Remembered.ask_shows _
  close _ := Remembered.ask_shows _
  fetch _ := Remembered.ask_shows _
  lastError := Remembered.ask_shows _
  reserve := Remembered.reserve_shows rig
  arrivals _ := Remembered.ask_shows _
  tick := Remembered.ask_shows _

/-- The runner on the rig that remembers. -/
def Runner.remembering (r : Runner σ) : Runner (Remembered σ) :=
  ⟨r.settings, r.mailbox, .fresh r.rig⟩

/-- A run goes as it does on the rig that remembers. -/
theorem Rig.remembering_run (rig : Rig σ) (r : Runner σ) (number : ℕ) :
    r.run rig number =
      let (outcome, s, next) := r.remembering.run rig.remembering number
      (outcome, s.seen Remembered.now, ⟨next.settings, next.mailbox, next.rig.now⟩) :=
  rig.remembering_shows.run r.settings r.mailbox (.fresh r.rig) number

/-! ## Before memory is granted -/

/-- The run has no buffer, nobody is registered who could tell of a frame, and none was told of. -/
structure Ungranted (s : RunState (Remembered σ)) : Prop where
  grant : s.rig.grant = none
  registered : s.registered = false
  held : ∀ buffer, s.buffer ≠ .held buffer
  silent : ∀ n answer d, RunStep.handled n answer (some d) ∉ s.past.toList

namespace Ungranted

variable {rig : Rig σ} {s s' : RunState (Remembered σ)}

theorem initial (x : σ) (mailbox : Mailbox) : Ungranted (.initial (.fresh x) mailbox) where
  grant := rfl
  registered := rfl
  held _ := by simp [RunState.initial]
  silent _ _ _ := by simp [RunState.initial]

theorem went (hu : Ungranted s) (x : σ) : Ungranted { s with rig := s.rig.went x } where
  grant := by
    show s.rig.grant.map _ = none
    rw [hu.grant]
    rfl
  registered := hu.registered
  held := hu.held
  silent := hu.silent

theorem step (hu : Ungranted s) {e : RunStep} (hown : e.isOwn = true) : Ungranted (s.step e) where
  grant := hu.grant
  registered := hu.registered
  held := hu.held
  silent n answer d h := by
    rcases RunState.mem_step.mp h with hold | rfl
    · exact hu.silent n answer d hold
    · cases hown

theorem tick (hu : Ungranted s) : Ungranted (Act.deliverTick rig.remembering s).2 := by
  rw [Act.deliverTick_of_unregistered rig.remembering s hu.registered]
  exact hu.went (rig.tick s.rig.now).2

theorem watch (hmove : WatchMove rig.remembering s s') (hu : Ungranted s) : Ungranted s' := by
  cases hmove with
  | arrive m => exact hu.went _
  | tick => exact hu.tick
  | did e hown => exact hu.step hown
  | take =>
    have htaken : Ungranted { s with mailbox := s.mailbox.take.2 } :=
      ⟨hu.grant, hu.registered, hu.held, hu.silent⟩
    exact htaken.step rfl

theorem watches (h : ReflTransGen (WatchMove rig.remembering) s s') (hu : Ungranted s) :
    Ungranted s' := by
  induction h with
  | refl => exact hu
  | tail _ hmove ih => exact ih.watch hmove

/-- What is left to do after setup brings no memory either. -/
theorem unwinds (h : Unwinds rig.remembering s s') (hu : Ungranted s) : Ungranted s' := by
  refine h.keeps (fun s s' hmove hu => ?_) hu
  cases hmove with
  | watch hmove => exact hu.watch hmove
  | lastError => exact hu.went _
  | abort => exact hu.went _
  | deregister => exact hu.went _
  | close => exact hu.went _
  | loosen hrig hpast hregistered hlive hbuffer =>
    refine ⟨hrig ▸ hu.grant, ?_, fun buffer hheld => hu.held buffer (hbuffer buffer hheld),
      hpast ▸ hu.silent⟩
    rw [← Bool.not_eq_true]
    exact fun hreg => absurd (hregistered hreg) (by rw [hu.registered]; simp)

/-! ### Setup up to the buffer -/

section Setup

variable (settings : RunSettings)

theorem call (hu : Ungranted s) (stage : SetupStage) {c : CameraCall}
    (hc : (RunStep.noted (.call c)).isOwn = true) (question : StateM σ (Except CameraError α)) :
    Ungranted (Setup.call rig.remembering stage c (Remembered.ask question) s).2 := by
  rw [Setup.call_state]
  exact Act.call_of_effect rig.remembering Ungranted (fun _ => Ungranted) hc
    (fun _ _ hs hu => hu.watches hs) (fun _ hu => hu.went _) (fun _ _ _ hs hu => hu.watches hs) hu

theorem openCamera (hu : Ungranted s) :
    Ungranted (Setup.openCamera rig.remembering settings s).2 := by
  refine Setup.ends_bind (hu.call .openDevice rfl _) fun camera s₁ hu₁ => ?_
  have hheld (s : RunState (Remembered σ)) (hu : Ungranted s) :
      Ungranted { s with camera := some camera } := ⟨hu.grant, hu.registered, hu.held, hu.silent⟩
  by_cases hlog : rig.remembering.logsOpening = true
  · rw [if_pos hlog]
    exact hheld _ (hu₁.step rfl)
  · rw [if_neg hlog]
    exact hheld _ hu₁

theorem configure (hu : Ungranted s) (camera : Handle) :
    Ungranted (Setup.configure rig.remembering settings camera s).2 := by
  refine Setup.ends_bind (hu.call .selectExposureMode rfl _) fun mode s₁ hu₁ => ?_
  refine Setup.ends_bind (hu₁.call .setupAcquisition rfl _) fun frameBytes s₂ hu₂ => ?_
  have hlogged : Ungranted (Act.log (.configured mode frameBytes) s₂).2 := hu₂.step rfl
  have hentered := hlogged.unwinds (Act.enter_unwinds rig.remembering _ .configured)
  exact hentered

end Setup

end Ungranted

end FrameWatch
