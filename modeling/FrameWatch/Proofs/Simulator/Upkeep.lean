import FrameWatch.Proofs.Run.Upkeep
import FrameWatch.Proofs.Simulator.Calls
import FrameWatch.Proofs.Simulator.Start

/-!
# What runs leave as it is

How the simulated camera behaves, and whether an acquisition can be started at all, is settled
before the first run: no call changes it (`Simulator.Spares`), so that it is the same however many
runs were made (`Simulation.Used.made`).
-/

namespace FrameWatch

/-! ## Calls -/

namespace Simulator

/-- The same behaviour, and as ready to be started. -/
def SameMake (s s' : Simulator) : Prop := s'.behavior = s.behavior ∧ s'.canSpawn = s.canSpawn

theorem sameMake_lenient : Lenient SameMake where
  refl _ := ⟨rfl, rfl⟩
  trans h h' := ⟨h'.1.trans h.1, h'.2.trans h.2⟩
  counts _ _ := ⟨rfl, rfl⟩
  lastError _ _ := ⟨rfl, rfl⟩

/-- A call that changes neither the behaviour of the camera nor whether it can be started. -/
abbrev Spares {α : Type} (call : Action α) : Prop := Within SameMake call

theorem spares_change (h : Handle) (f : CameraSession → CameraSession) : Spares (change h f) :=
  fun _ => ⟨rfl, rfl⟩

theorem spares_openCamera (name : String) : Spares (openCamera name) :=
  sameMake_lenient.openCamera fun _ => ⟨rfl, rfl⟩

theorem spares_close (h : Handle) : Spares (close h) := sameMake_lenient.close fun _ => ⟨rfl, rfl⟩

theorem spares_selectMode (h : Handle) (mode : ExposureMode) : Spares (selectMode h mode) :=
  sameMake_lenient.selectMode h mode

theorem spares_configure (h : Handle) (region : Region) : Spares (configure h region) :=
  sameMake_lenient.configure fun _ => spares_change _ _

theorem spares_register (h : Handle) (token : ℕ) : Spares (register h token) :=
  sameMake_lenient.register (spares_change _ _)

theorem spares_deregister (h : Handle) : Spares (deregister h) :=
  sameMake_lenient.deregister (spares_change _ _)

theorem spares_abort (h : Handle) : Spares (abort h) := sameMake_lenient.abort (spares_change _ _)

theorem spares_start (h : Handle) (base : Option ℕ) (size : ℕ) : Spares (start h base size) :=
  sameMake_lenient.start (spares_change _ _) fun _ => spares_change _ _

theorem spares_fetch (h : Handle) : Spares (fetch h) := sameMake_lenient.fetch (spares_change _ _)

theorem spares_tick (h : Handle) : Spares (tick h) := by
  intro s
  obtain ⟨hbehavior, hspawn, -, -⟩ := (passage h s).keeps
  exact ⟨hbehavior, hspawn⟩

end Simulator

/-! ## Runs -/

namespace Simulation

variable {b : SimulatorBehavior} {pace : Pace} {allocator : Allocator} {x : Simulation}

/-- The camera has the behaviour `b` and can be started. -/
structure Made (b : SimulatorBehavior) (x : Simulation) : Prop where
  behavior : x.camera.behavior = b
  canSpawn : x.camera.canSpawn = true

theorem Made.called {α : Type} {call : Simulator.Action α} {x' : Simulation} (hx : Made b x)
    (hcall : Simulator.Spares call) (hcamera : x'.camera = (call x.camera).2) : Made b x' where
  behavior := by rw [hcamera]; exact (hcall x.camera).1.trans hx.behavior
  canSpawn := by rw [hcamera]; exact (hcall x.camera).2.trans hx.canSpawn

theorem unlessFaulty_eq (fault : SimulatorFaults → Bool) (message : String)
    (call : Simulator.Action (Simulator.Reply Unit)) (x : Simulation) :
    unlessFaulty fault message call x =
      if fault x.faults then (.error ⟨-1, message⟩, x)
      else ((call x.camera).1, { x with camera := (call x.camera).2 }) := by
  have hrun : unlessFaulty fault message call x = (if fault x.faults = true then
      pure (.error ⟨-1, message⟩) else ask call : StateM Simulation _) x := rfl
  rw [hrun]
  split <;> rfl

theorem Made.unlessFaulty {fault : SimulatorFaults → Bool} {message : String}
    {call : Simulator.Action (Simulator.Reply Unit)} (hx : Made b x)
    (hcall : Simulator.Spares call) : Made b (unlessFaulty fault message call x).2 := by
  rw [unlessFaulty_eq]
  split
  · exact hx
  · exact hx.called hcall rfl

theorem close_eq (h : Handle) (x : Simulation) :
    close h x = (if x.faults.close then .error ⟨-1, "close refused"⟩
        else (Simulator.close h x.camera).1,
      { x with
        camera := (Simulator.close h x.camera).2
        acquiringAtClose := x.acquiringAtClose ++ [x.camera.isAcquiring h] }) := by
  have hrun : close h x = (if x.faults.close then return .error ⟨-1, "close refused"⟩
    else return (Simulator.close h x.camera).1 : StateM Simulation _)
      { x with
        camera := (Simulator.close h x.camera).2
        acquiringAtClose := x.acquiringAtClose ++ [x.camera.isAcquiring h] } := rfl
  rw [hrun]
  split <;> rfl

theorem Made.close (hx : Made b x) (h : Handle) : Made b (Simulation.close h x).2 := by
  rw [close_eq]
  exact hx.called (Simulator.spares_close h) rfl

theorem Made.tick (hx : Made b x) : Made b (Simulation.tick x).2 := by
  cases hh : x.handle with
  | none =>
    obtain ⟨camera, faults, handle, epoch, clock, moments, acquiringAtClose⟩ := x
    obtain rfl : handle = none := hh
    exact hx
  | some h =>
    rw [tick_of_handle hh]
    exact hx.called (Simulator.spares_tick h) rfl

/-- No answer of the simulated camera changes what it is like. -/
theorem rig_keeps : (rig pace allocator).Keeps (Made b) where
  openCamera name x hx := by
    show Made b (openCamera name x).2
    rw [openCamera_eq]
    exact hx.called (Simulator.spares_openCamera name) rfl
  selectMode h mode x hx := hx.called (Simulator.spares_selectMode h mode) rfl
  configure h region _ _ _ x hx := hx.called (Simulator.spares_configure h region) rfl
  register h x hx := hx.called (Simulator.spares_register h 0) rfl
  start h buffer x hx := hx.called (Simulator.spares_start h (some buffer.base) buffer.size) rfl
  abort h x hx := hx.unlessFaulty (Simulator.spares_abort h)
  deregister h x hx := hx.unlessFaulty (Simulator.spares_deregister h)
  close h x hx := hx.close h
  fetch h x hx := by
    show Made b (fetch h x).2
    rw [fetch_eq]
    exact hx.called (Simulator.spares_fetch h) rfl
  lastError _ hx := hx
  reserve bytes x hx := by
    rw [reserve_eq]
    cases allocator bytes <;> exact ⟨hx.behavior, hx.canSpawn⟩
  arrivals _ _ hx := ⟨hx.behavior, hx.canSpawn⟩
  tick x hx := hx.tick

/-- The simulation after some runs, each with settings, a pace and an allocator of its own. -/
inductive Used (first : Simulation) : Simulation → Prop
  | unused : Used first first
  | run {x : Simulation} (pace : Pace) (allocator : Allocator) (settings : RunSettings)
      (mailbox : Mailbox) (number : ℕ) (h : Used first x) :
      Used first ((Runner.mk settings mailbox x).run (rig pace allocator) number).2.2.rig

/-- Runs leave the camera as it was made. -/
theorem Used.made {first : Simulation} (h : Used first x) (hfirst : Made b first) : Made b x := by
  induction h with
  | unused => exact hfirst
  | run pace allocator settings mailbox number _ ih => exact rig_keeps.run _ number ih

end Simulation

end FrameWatch
