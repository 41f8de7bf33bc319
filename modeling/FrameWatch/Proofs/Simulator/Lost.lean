import FrameWatch.Proofs.Run.Gaps
import FrameWatch.Proofs.Simulator.Stalls
import FrameWatch.Proofs.Simulator.Upkeep

/-!
# Frames that are lost

The simulated camera leaves out the frames that it drops, and announces some without data. These are
what the handler finds missing, and nothing else is: neither a full ready queue nor a fetch that
fails, neither a slow run nor the end of the frames leaves a gap between two frames that were
announced.

1. `Moves.tells`: the handler is told the numbers of the frames that it puts into the mailbox, as no
   fetch breaks off.
2. `Closing`: a run follows the camera on through teardown, until the camera is silenced
   (`Simulation.closing_abort`, `Simulation.silenced_deregister`).
3. `SimulatorBehavior.leftOut_heardTo`: which numbers are left out among those heard of.
4. `Runner.gap_report` puts these together.
-/

namespace FrameWatch

open MailboxEvent
open Relation (ReflTransGen)

/-! ## What the handler is told -/

/-- The handler is told the numbers of the frames that it puts into the mailbox. -/
def RunState.Tells {σ : Type} (s : RunState σ) : Prop :=
  numbers s.past.toList = (signals s.mailboxEvents).map FrameDescriptor.sequence

section Tells

variable {σ : Type} {rig : Rig σ} {s s' : RunState σ}

theorem RunState.Tells.step (h : s.Tells) {e : RunStep} (hnumber : e.number? = none)
    (hsignal : ∀ d, e.mailboxEvent? ≠ some (.signalled d)) : (s.step e).Tells := by
  unfold Tells at *
  rw [numbers_step s hnumber, mailboxEvents_step, h]
  cases hevent : e.mailboxEvent? with
  | none => rw [Option.toList_none, List.append_nil]
  | some event =>
    rw [Option.toList_some, signals_concat]
    cases event with
    | signalled d => exact absurd hevent (hsignal d)
    | _ => exact congrArg _ (List.append_nil _).symm

/-- Where no fetch breaks off, every frame that is handled is put into the mailbox. -/
theorem Move.tells (hrig : ∀ camera x, (rig.fetch camera x).1 ≠ .crashed)
    (hmove : Move rig s s') (h : s.Tells) : s'.Tells := by
  cases hmove with
  | did e hown hwait =>
    refine h.step (RunState.number?_of_own hown) fun d => ?_
    rw [e.mailboxEvent?_of_own hown hwait]
    exact Option.some_ne_none _ |>.symm
  | take =>
    have htaken : RunState.Tells { s with mailbox := s.mailbox.take.2 } := h
    refine htaken.step rfl fun d hd => ?_
    cases hcase : s.mailbox.take.1 <;> rw [hcase] at hd <;> cases hd
  | @handle handler info n hreg hlive hinfo =>
    unfold RunState.Tells at *
    rw [RunState.numbers_handled rig s handler hinfo, RunState.mailboxEvents_handled, h]
    cases hanswer : (rig.fetch handler.camera s.rig).1 with
    | crashed => exact absurd hanswer (hrig handler.camera s.rig)
    | _ =>
      show _ = (signals (_ ++ [_])).map _
      rw [signals_concat, List.map_append]
      rfl
  | stray n => exact h.step rfl fun d hd => by cases hd
  | _ => exact h

theorem Moves.tells (hrig : ∀ camera x, (rig.fetch camera x).1 ≠ .crashed)
    (hmoves : Moves rig s s') (h : s.Tells) : s'.Tells := by
  induction hmoves with
  | refl => exact h
  | tail _ hmove ih => exact hmove.tells hrig ih

end Tells

theorem Simulation.fetch_ne_crashed (camera : Handle) (x : Simulation) :
    (fetch camera x).1 ≠ .crashed := by
  rw [fetch_eq]
  cases (Simulator.fetch camera x.camera).1 <;> simp

/-! ## Until the camera is silenced -/

namespace Simulator

variable {s : Simulator} {h : Handle} {session : CameraSession}

/-- Without a callback nothing is announced. -/
theorem tick_of_unregistered (hs : s.sessions.get? h = some session)
    (hreg : session.registration = none) :
    (tick h s).1 = none ∧ ∃ session', (tick h s).2.sessions.get? h = some session' ∧
      session'.registration = none := by
  cases ha : session.acquisition with
  | none =>
    rw [tick_of_idle hs ha]
    exact ⟨rfl, session, hs, hreg⟩
  | some a =>
    rcases tick_cases hs ha with ⟨_, ht⟩ | ⟨-, ht⟩ | ⟨-, ht⟩
    · rw [ht]
      exact ⟨rfl, session, hs, hreg⟩
    · rw [ht]
      exact ⟨rfl, _, get?_modify_of_some hs fun _ => _, hreg⟩
    · rw [ht]
      refine ⟨?_, _, get?_modify_of_some hs fun _ => _, hreg⟩
      show session.registration.map _ = none
      rw [hreg]
      rfl

end Simulator

/-- The camera `h` is open and announces nothing more. -/
def Muted (h : Handle) (x : Simulation) : Prop :=
  x.handle = some h ∧ ∃ session, x.camera.sessions.get? h = some session ∧
    (session.acquisition = none ∨ session.registration = none)

theorem Muted.tick {h : Handle} {x : Simulation} (hx : Muted h x) :
    (Simulation.tick x).1 = none ∧ Muted h (Simulation.tick x).2 := by
  obtain ⟨hhandle, session, hs, hidle | hreg⟩ := hx
  · rw [Simulation.tick_of_handle hhandle, Simulator.tick_of_idle hs hidle]
    exact ⟨rfl, hhandle, session, hs, .inl hidle⟩
  · obtain ⟨hnone, session', hs', hreg'⟩ := Simulator.tick_of_unregistered hs hreg
    rw [Simulation.tick_of_handle hhandle]
    dsimp only
    rw [hnone]
    exact ⟨rfl, hhandle, session', hs', .inr hreg'⟩

/-- The camera is silenced, and the frames put into the mailbox are those that can be heard of until
some frame. -/
structure Silenced (b : SimulatorBehavior) (h : Handle) (s : RunState Simulation) : Prop where
  muted : Muted h s.rig
  heard : ∃ n, b.Reaches n ∧
    (signals s.mailboxEvents).map FrameDescriptor.told = (b.heardTo n).map b.told

/-- The run follows the camera until it is silenced. -/
def Closing (b : SimulatorBehavior) (h : Handle) (s : RunState Simulation) : Prop :=
  (∃ n, Follows b h n s) ∨ Silenced b h s

section Closing

variable {pace : Pace} {allocator : Allocator} {b : SimulatorBehavior} {h : Handle}
  {s s' : RunState Simulation}

theorem Silenced.agree (hm : Silenced b h s) (hs : s.Agrees s') : Silenced b h s' where
  muted := by
    refine ⟨hs.handle.trans hm.muted.1, ?_⟩
    rw [hs.camera]
    exact hm.muted.2
  heard := by
    rw [hs.signals]
    exact hm.heard

theorem Silenced.tick (hm : Silenced b h s) :
    Silenced b h (Act.deliverTick (Simulation.rig pace allocator) s).2 := by
  obtain ⟨hnone, hmuted⟩ := hm.muted.tick
  rw [Act.deliverTick_of_none _ _ hnone]
  exact ⟨hmuted, hm.heard⟩

theorem Silenced.watches (hs : ReflTransGen (WatchMove (Simulation.rig pace allocator)) s s')
    (hm : Silenced b h s) : Silenced b h s' :=
  keeps_of_tick (fun _ _ hagrees hm => hm.agree hagrees) (fun _ hm => hm.tick) hs hm

namespace Closing

theorem heard (hc : Closing b h s) : ∃ n, b.Reaches n ∧
    (signals s.mailboxEvents).map FrameDescriptor.told = (b.heardTo n).map b.told := by
  rcases hc with ⟨n, hf⟩ | hm
  · exact ⟨n, hf.reaches, hf.heard⟩
  · exact hm.heard

theorem opened (hc : Closing b h s) :
    s.rig.handle = some h ∧ ∃ session, s.rig.camera.sessions.get? h = some session := by
  rcases hc with ⟨n, hf⟩ | ⟨⟨hhandle, session, hs, -⟩, -⟩
  · obtain ⟨session, _, hs, -⟩ := hf.running
    exact ⟨hf.handle, session, hs⟩
  · exact ⟨hhandle, session, hs⟩

theorem agree (hc : Closing b h s) (hs : s.Agrees s') : Closing b h s' := by
  rcases hc with ⟨n, hf⟩ | hm
  · exact .inl ⟨n, hf.agree hs⟩
  · exact .inr (hm.agree hs)

theorem watches (hs : ReflTransGen (WatchMove (Simulation.rig pace allocator)) s s')
    (hc : Closing b h s) : Closing b h s' := by
  rcases hc with ⟨n, hf⟩ | hm
  · exact .inl (hf.watches hs)
  · exact .inr (hm.watches hs)

end Closing

end Closing

/-! ## The calls of teardown -/

namespace Simulation

variable {pace : Pace} {allocator : Allocator} {b : SimulatorBehavior} {h : Handle}
  {faults : SimulatorFaults} {s : RunState Simulation}

theorem faults_tick (x : Simulation) : (tick x).2.faults = x.faults := by
  cases hh : x.handle with
  | none =>
    obtain ⟨camera, faults, handle, epoch, clock, moments, acquiringAtClose⟩ := x
    obtain rfl : handle = none := hh
    rfl
  | some h => rw [tick_of_handle hh]

/-- Which calls fail on their way is settled before the first run. -/
theorem rig_keeps_faults : (rig pace allocator).Keeps fun x => x.faults = faults where
  openCamera name x hx := by
    show (openCamera name x).2.faults = faults
    rw [openCamera_eq]
    exact hx
  selectMode _ _ _ hx := hx
  configure _ _ _ _ _ _ hx := hx
  register _ _ hx := hx
  start _ _ _ hx := hx
  abort h x hx := by
    show (unlessFaulty _ _ _ x).2.faults = faults
    rw [unlessFaulty_eq]
    split <;> exact hx
  deregister h x hx := by
    show (unlessFaulty _ _ _ x).2.faults = faults
    rw [unlessFaulty_eq]
    split <;> exact hx
  close h x hx := by
    show (close h x).2.faults = faults
    rw [close_eq]
    exact hx
  fetch h x hx := by
    show (fetch h x).2.faults = faults
    rw [fetch_eq]
    exact hx
  lastError _ hx := hx
  reserve bytes x hx := by
    rw [reserve_eq]
    cases allocator bytes <;> exact hx
  arrivals _ _ hx := hx
  tick x hx := (faults_tick x).trans hx

/-- Aborting silences the camera, unless it fails on its way. -/
theorem abort_closing (hc : Closing b h s) :
    Closing b h { s with rig := ((rig pace allocator).abort h s.rig).2 } := by
  obtain ⟨hhandle, session, hs⟩ := hc.opened
  show Closing b h { s with rig := (unlessFaulty _ _ _ s.rig).2 }
  rw [unlessFaulty_eq]
  split
  · exact hc
  · refine .inr ⟨⟨hhandle, { session with acquisition := none }, ?_, .inl rfl⟩, hc.heard⟩
    show (Simulator.abort h s.rig.camera).2.sessions.get? h = _
    rw [(Simulator.abort_eq hs).2]
    exact Simulator.get?_modify_of_some hs fun session => { session with acquisition := none }

/-- Deregistering succeeds unless it fails on its way, and silences the camera. -/
theorem deregister_silences (hc : Closing b h s) (hfaults : s.rig.faults.deregister = false) :
    ((rig pace allocator).deregister h s.rig).1 = .ok () ∧
      Silenced b h { s with rig := ((rig pace allocator).deregister h s.rig).2 } := by
  obtain ⟨hhandle, session, hs⟩ := hc.opened
  obtain ⟨hok, hsessions⟩ := Simulator.deregister_eq hs
  show (unlessFaulty _ _ _ s.rig).1 = _ ∧
    Silenced b h { s with rig := (unlessFaulty _ _ _ s.rig).2 }
  rw [unlessFaulty_eq, hfaults, if_neg Bool.false_ne_true]
  refine ⟨hok, ⟨hhandle, { session with registration := none }, ?_, .inr rfl⟩, hc.heard⟩
  show (Simulator.deregister h s.rig.camera).2.sessions.get? h = _
  rw [hsessions]
  exact Simulator.get?_modify_of_some hs fun session => { session with registration := none }

section Teardown

variable (pace) (allocator)
variable (hcamera : s.camera = some h) (hc : Closing b h s) (hfaults : s.rig.faults = faults)

include hcamera hc hfaults

theorem closing_abort :
    Closing b h (Teardown.abort (rig pace allocator) s).2 ∧
      (Teardown.abort (rig pace allocator) s).2.rig.faults = faults := by
  have hrun : Teardown.abort (rig pace allocator) s = Teardown.attempt (rig pace allocator)
      (.abort h) ((rig pace allocator).abort h) .abortFailed s := by
    unfold Teardown.abort
    rw [Act.run_bind, Act.run_get]
    dsimp only
    rw [hcamera]
  let I (s : RunState Simulation) := Closing b h s ∧ s.rig.faults = faults
  have hkeep (s s') (hs : ReflTransGen (WatchMove (rig pace allocator)) s s') : I s → I s' :=
    fun ⟨hc, hf⟩ => ⟨hc.watches hs, rig_keeps_faults.watches hs hf⟩
  have hcalled : I (Act.call (rig pace allocator) (.abort h) ((rig pace allocator).abort h) s).2 :=
    Act.call_of_effect _ I (fun _ => I) rfl hkeep
      (fun s ⟨hc, hf⟩ => ⟨abort_closing hc, rig_keeps_faults.abort h s.rig hf⟩)
      (fun _ => hkeep) ⟨hc, hfaults⟩
  rw [hrun, Teardown.attempt_eq]
  split
  · exact hcalled
  · exact ⟨hcalled.1.agree (RunState.agrees_log _ _), hcalled.2⟩

/-- The handler is deregistered, and the camera is silenced by then. -/
theorem silenced_deregister (hreg : s.registered = true) (hsound : faults.deregister = false) :
    (Teardown.deregister (rig pace allocator) s).1 = true ∧
      Silenced b h (Teardown.deregister (rig pace allocator) s).2 := by
  let I (s : RunState Simulation) := Closing b h s ∧ s.rig.faults = faults
  have hkeep (s s') (hs : ReflTransGen (WatchMove (rig pace allocator)) s s') : I s → I s' :=
    fun ⟨hc, hf⟩ => ⟨hc.watches hs, rig_keeps_faults.watches hs hf⟩
  let call := Act.call (rig pace allocator) (.deregister h) ((rig pace allocator).deregister h) s
  have hcalled : call.1 = .ok () ∧ Silenced b h call.2 :=
    Act.call_of_effect _ I (fun answer s => answer = .ok () ∧ Silenced b h s) rfl hkeep
      (fun s ⟨hc, hf⟩ => deregister_silences hc (by rw [hf]; exact hsound))
      (fun _ _ _ hs ⟨hok, hm⟩ => ⟨hok, hm.watches hs⟩) ⟨hc, hfaults⟩
  rw [Teardown.deregister_of_registered _ _ hcamera hreg, Teardown.attempt_eq, hcalled.1]
  exact ⟨rfl, hcalled.2.muted, hcalled.2.heard⟩

end Teardown

end Simulation

/-! ## The numbers that are left out -/

namespace SimulatorBehavior

variable {b : SimulatorBehavior} {n k : ℕ}

/-- The frames between the first and the last one told that the camera drops or announces without
data. -/
noncomputable def lost (b : SimulatorBehavior) (told : List ℤ) : Finset ℤ :=
  (between told).filter fun k => k ∈ b.dropFrames ∨ k ∈ b.nullInfoOn

theorem Reaches.of_le (h : b.Reaches n) (hk : k ≤ n) : b.Reaches k where
  lasts last hlast := hk.trans (h.lasts last hlast)
  roomy j hj := h.roomy j (by omega)

theorem mem_heardTo : k ∈ b.heardTo n ↔ k ≤ n ∧ b.Hears k := by
  unfold heardTo
  rw [List.mem_filter, List.mem_range, decide_eq_true_eq, Nat.lt_succ_iff]

theorem rising_heardTo (b : SimulatorBehavior) (n : ℕ) :
    ((b.heardTo n).map Nat.cast : List ℤ).Pairwise (· < ·) := by
  have hrises : (b.heardTo n).Pairwise (· < ·) := List.pairwise_lt_range.filter _
  exact hrises.map _ fun _ _ hlt => Int.ofNat_lt.mpr hlt

/-- As far as the camera has come, every frame is heard of that it neither drops nor announces
without data. -/
theorem hears_iff_of_le (hn : b.Reaches n) (hk : 1 ≤ k) (hkn : k ≤ n) :
    b.Hears k ↔ ¬ ((k : ℤ) ∈ b.dropFrames ∨ (k : ℤ) ∈ b.nullInfoOn) := by
  obtain ⟨j, rfl⟩ : ∃ j, k = j + 1 := ⟨k - 1, by omega⟩
  rw [(hn.of_le hkn).hears_iff, not_or]

theorem told_iff (hn : b.Reaches n) {k : ℤ}
    (hk : k ∈ between ((b.heardTo n).map Nat.cast)) :
    k ∈ ((b.heardTo n).map Nat.cast : List ℤ) ↔ ¬ (k ∈ b.dropFrames ∨ k ∈ b.nullInfoOn) := by
  unfold between at hk
  cases hfirst : ((b.heardTo n).map Nat.cast : List ℤ).head? with
  | none => rw [hfirst] at hk; exact absurd hk (Finset.notMem_empty k)
  | some first =>
    cases hlast : ((b.heardTo n).map Nat.cast : List ℤ).getLast? with
    | none => rw [hfirst, hlast] at hk; exact absurd hk (Finset.notMem_empty k)
    | some last =>
      rw [hfirst, hlast] at hk
      obtain ⟨hlow, hhigh⟩ := Finset.mem_Ioo.mp hk
      obtain ⟨i, -, rfl⟩ := List.mem_map.mp (List.mem_of_head? hfirst)
      obtain ⟨j, hj, rfl⟩ := List.mem_map.mp (List.mem_of_getLast? hlast)
      have hjn := (mem_heardTo.mp hj).1
      obtain ⟨m, rfl⟩ : ∃ m : ℕ, k = m := ⟨k.toNat, by omega⟩
      rw [← hears_iff_of_le hn (by omega) (by omega), List.mem_map_of_injective Nat.cast_injective,
        mem_heardTo, and_iff_right (by omega)]

/-- Only frames that are dropped or announced without data are left out. -/
theorem leftOut_heardTo (hn : b.Reaches n) :
    leftOut ((b.heardTo n).map Nat.cast) = b.lost ((b.heardTo n).map Nat.cast) :=
  Finset.filter_congr fun _ hk => not_iff_comm.mp (told_iff hn hk).symm

end SimulatorBehavior

/-! ## Runs -/

namespace RunCourse

variable {pace : Pace} {allocator : Allocator} {settings : RunSettings} {x : Simulation}
  {mailbox : Mailbox} {outcome : Outcome} {s : RunState Simulation} {path : SetupPath}
  {taken : List (FrameDescriptor × Duration)} {f : TeardownFailures}
  (h : RunCourse (Simulation.rig pace allocator) settings (.initial x mailbox.reset) outcome s path
    taken f)

include h

/-- Teardown finds the camera followed, its handle open and the handler registered. -/
theorem closing_giving (hpath : path.error? = none) :
    let t := giving (Simulation.rig pace allocator) settings (.initial x mailbox.reset)
    ∃ camera, t.camera = some camera ∧ t.registered = true ∧
      Closing x.camera.behavior camera t ∧ t.rig.faults = x.faults := by
  intro t
  have hu : Unopened x.camera.behavior (.initial x mailbox.reset) := ⟨rfl, rfl, rfl⟩
  have hwatch := h.verdict_of_none hpath
  rw [h.judged] at hwatch
  obtain ⟨handle, n, hf⟩ := Simulation.drive_follows hu fun e diagnostic hfailed => by
    rw [hwatch] at hfailed
    unfold watchVerdict at hfailed
    split at hfailed <;> cases hfailed
  have hfaults : t.rig.faults = x.faults :=
    (Simulation.rig_keeps_faults.holds.drive settings).keeps rfl
  have hdriven := h.driven
  cases path with
  | succeeds camera mode frameBytes buffer =>
    have hcamera : t.camera = some camera := congrArg Standing.camera hdriven
    have hreg : t.registered = true := congrArg Standing.registered hdriven
    have hcontext : t.context.map Handler.pristine = .held (.ofBuffer camera buffer) :=
      congrArg Standing.context hdriven
    obtain ⟨handler, hlive, hhandle⟩ := hf.context
    -- the handler's camera is the one that was opened
    have hsame : handler.pristine = Handler.ofBuffer camera buffer := by
      have hlive' := congrArg Custody.live? hcontext
      rw [Custody.live?_map, show t.context.live? = some handler from hlive] at hlive'
      exact Option.some.inj hlive'
    obtain rfl : camera = handle := by
      rw [← hhandle]
      exact (congrArg Handler.camera hsame).symm
    exact ⟨camera, hcamera, hreg, .inl ⟨n, hf.agree ⟨rfl, rfl, rfl, rfl, rfl⟩⟩, hfaults⟩
  | _ => cases hpath

/-- Where the handler can be deregistered, the context is given back, and the handler was told the
frames that can be heard of until some frame. -/
theorem told (hpath : path.error? = none) (hsound : x.faults.deregister = false) :
    outcome.teardown.contextLeaked = false ∧ ∃ n, x.camera.behavior.Reaches n ∧
      numbers s.past.toList = (x.camera.behavior.heardTo n).map Nat.cast := by
  obtain ⟨camera, hcamera, hreg, hc, hfaults⟩ := h.closing_giving hpath
  obtain ⟨hmoves, -, -⟩ := Teardown.deregister_abort (Simulation.rig pace allocator)
    h.closed_giving h.context_giving
  have hmoves := h.moves_giving.trans hmoves
  obtain ⟨hc₁, hfaults₁⟩ := Simulation.closing_abort pace allocator hcamera hc hfaults
  set t := giving (Simulation.rig pace allocator) settings (.initial x mailbox.reset)
  obtain ⟨_, -, -, hst, -⟩ := Teardown.abort_path (Simulation.rig pace allocator) t
  obtain ⟨hgone, hm⟩ := Simulation.silenced_deregister pace allocator
    ((congrArg Standing.camera hst).trans hcamera) hc₁ hfaults₁
    ((congrArg Standing.registered hst).trans hreg) hsound
  set d := Teardown.deregister (Simulation.rig pace allocator)
    (Teardown.abort (Simulation.rig pace allocator) t).2 with hd
  have hkept : outcome.teardown.contextLeaked = false := by
    rw [h.settles.2, h.steps_drive]
    by_contra hleaked
    have hleaked : (Teardown.dropContext d.1 d.2).1.2 = true := eq_true_of_ne_false hleaked
    have hstays := Teardown.gone_of_leaked d.2 d.1 hleaked
    rw [hgone] at hstays
    cases hstays
  obtain ⟨-, rest, hpast, hnone⟩ := h.reads hkept
  obtain ⟨n, hreaches, hheard⟩ := hm.heard
  refine ⟨hkept, n, hreaches, ?_⟩
  have htells : d.2.Tells :=
    Moves.tells (fun camera y => Simulation.fetch_ne_crashed camera y) hmoves rfl
  have hsequences := congrArg (List.map Prod.fst) hheard
  simp only [List.map_map] at hsequences
  rw [hpast, numbers_append, numbers_eq_nil hnone, List.append_nil]
  exact htells.trans hsequences

end RunCourse

/-- What the outcome of a run says about the frames between the first and the last one that its
handler was told. -/
structure GapReport (b : SimulatorBehavior) (told : List ℤ) (o : Outcome) : Prop where
  lost : o.lostFrames = (b.lost told).card
  gaps : o.gapEvents = (blocks (b.lost told)).card
  few : told.length < 2 → o.lostFrames = 0 ∧ o.gapEvents = 0
  /-- Nothing but the behaviour leaves a frame out. -/
  only : ∀ k ∈ between told, k ∉ told ↔ k ∈ b.dropFrames ∨ k ∈ b.nullInfoOn

/-- **Gaps.** However the frames of the simulated camera and its run interleave: if setup succeeds
and the handler can be deregistered, the run reports exactly the frames that the camera has dropped
or announced without data between the first and the last one that the handler was told, and as many
gaps as these make blocks. -/
theorem Runner.gap_report (pace : Pace) (allocator : Allocator) (r : Runner Simulation) (number : ℕ)
    (hsound : r.rig.faults.deregister = false)
    (hsucceeds : ∀ e diagnostic,
      (r.run (Simulation.rig pace allocator) number).1.verdict ≠ .setupFailed e diagnostic)
    (hmax : ∀ k ∈ numbers (r.run (Simulation.rig pace allocator) number).2.1.past.toList,
      k ≤ maxFrameNumber) :
    GapReport r.rig.camera.behavior
      (numbers (r.run (Simulation.rig pace allocator) number).2.1.past.toList)
      (r.run (Simulation.rig pace allocator) number).1 := by
  obtain ⟨path, taken, f, hcourse⟩ := r.run_course (Simulation.rig pace allocator) number
  have hpath : path.error? = none := by
    by_contra hpath
    obtain ⟨e, diagnostic, hverdict⟩ := hcourse.verdict_of_ne_none hpath
    exact hsucceeds e diagnostic hverdict
  obtain ⟨hkept, n, hreaches, htold⟩ := hcourse.told hpath hsound
  have hrising := SimulatorBehavior.rising_heardTo r.rig.camera.behavior n
  rw [← htold] at hrising
  obtain ⟨hlost, hgaps⟩ := hcourse.counts_numbers hkept hrising hmax
  have houtcome := (r.run_eq_observe (Simulation.rig pace allocator) number).1
  have hleft := SimulatorBehavior.leftOut_heardTo hreaches
  rw [← htold] at hleft
  rw [hleft] at hlost hgaps
  have hlost' : (r.run (Simulation.rig pace allocator) number).1.lostFrames = _ :=
    (congrArg Outcome.lostFrames houtcome).trans hlost
  have hgaps' : (r.run (Simulation.rig pace allocator) number).1.gapEvents = _ :=
    (congrArg Outcome.gapEvents houtcome).trans hgaps
  refine ⟨hlost', hgaps', fun hfew => ?_, fun k hk => ?_⟩
  · rw [hlost', hgaps', SimulatorBehavior.lost, between_of_length_lt hfew]
    exact ⟨rfl, rfl⟩
  · rw [htold] at hk ⊢
    exact not_iff_comm.mp (SimulatorBehavior.told_iff hreaches hk).symm

theorem Runner.gap_report_lossy :
    numbers Runner.lossyRun.2.1.past.toList = [1, 4, 5, 6] ∧
      SimulatorBehavior.lossy.lost [1, 4, 5, 6] = {2, 3} ∧
      Runner.lossyRun.1.lostFrames = 2 ∧ Runner.lossyRun.1.gapEvents = 1 := by
  have hnumbers : numbers Runner.lossyRun.2.1.past.toList = [1, 4, 5, 6] := by decide +kernel
  have hverdict : Runner.lossyRun.1.verdict = .stalled 5 := by decide +kernel
  have hsucceeds : ∀ e diagnostic, Runner.lossyRun.1.verdict ≠ .setupFailed e diagnostic := by
    rw [hverdict]
    intro e diagnostic hfailed
    cases hfailed
  have hmax : ∀ k ∈ numbers Runner.lossyRun.2.1.past.toList, k ≤ maxFrameNumber := by
    rw [hnumbers]
    decide
  have hreport := Runner.gap_report Simulation.steady (fun _ => some 4096) .lossy 1 rfl
  rw [show Runner.lossy.run (Simulation.rig Simulation.steady fun _ => some 4096) 1 =
    Runner.lossyRun from rfl] at hreport
  have hreport : GapReport SimulatorBehavior.lossy _ _ := hreport hsucceeds hmax
  have hlost : SimulatorBehavior.lossy.lost [1, 4, 5, 6] = {2, 3} := by decide +kernel
  rw [hnumbers] at hreport
  have hcard := hreport.lost
  have hblocks := hreport.gaps
  rw [hlost] at hcard hblocks
  exact ⟨hnumbers, hlost, hcard, hblocks.trans (by decide +kernel)⟩

end FrameWatch
