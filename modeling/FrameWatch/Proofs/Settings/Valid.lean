import FrameWatch.Program.Probe
import FrameWatch.Proofs.Simulator.Accepted
import FrameWatch.Proofs.Simulator.Ticks

/-!
# Valid configurations

What the check of a configuration is good for. A configuration for the simulated camera that passes
it can be logged with and connected with, and setup fails only where the configuration itself asks
for it or where no buffer can be allocated (`Config.valid_setup`). It does not follow that a frame
has any bytes: that takes a region of at least one whole bin (`Config.valid_frame_size`).
-/

namespace FrameWatch

open Act (failure?)

/-! ## What the check finds out -/

theorem not_and_of_ite_eq_none {α : Type} {p : Prop} [Decidable p] {a : α} {x : Option α}
    (h : (if p then some a else x) = none) : ¬ p ∧ x = none := by
  split at h
  · cases h
  · rename_i hp
    exact ⟨hp, h⟩

/-- Every level that the check knows can be read. -/
theorem LogLevel.isSome_ofName? {name : String}
    (h : Settings.logLevelNames.contains (Text.lowerAscii name) = true) :
    (ofName? name).isSome = true := by
  rw [List.contains_iff_mem] at h
  have hread : ∀ low ∈ Settings.logLevelNames,
      (all.find? fun l => Text.lowerAscii l.name == low).isSome = true := by decide +kernel
  exact hread _ h

/-! ## Regions and frames -/

namespace Region

/-- A whole bin fits into the region in each direction. -/
def HoldsBin (r : Region) : Prop := r.sbin ≤ r.s2 + 1 - r.s1 ∧ r.pbin ≤ r.p2 + 1 - r.p1

instance (r : Region) : Decidable r.HoldsBin := inferInstanceAs (Decidable (_ ∧ _))

theorem extent_pos_iff {first last bin : ℕ} (hbin : 0 < bin) :
    0 < extent first last bin ↔ bin ≤ last + 1 - first := by
  unfold extent
  rw [max_eq_left (Nat.one_le_iff_ne_zero.mpr hbin.ne'), Nat.div_pos_iff]
  exact and_iff_right hbin

/-- A frame of a valid region has bytes if a bin fits into the region. -/
theorem frameBytes_pos_iff {r : Region} (hr : r.isValid = true) :
    0 < r.frameBytes ↔ r.HoldsBin := by
  obtain ⟨s1, s2, sbin, p1, p2, pbin⟩ := r
  have hbins : 0 < sbin ∧ 0 < pbin := by
    simp only [isValid, Bool.and_eq_true, decide_eq_true_eq] at hr
    exact ⟨hr.1.2, hr.2⟩
  show 0 < extent s1 s2 sbin * extent p1 p2 pbin * 2 ↔ _
  rw [Nat.mul_pos_iff_of_pos_right two_pos, CanonicallyOrderedAdd.mul_pos]
  exact and_congr (extent_pos_iff hbins.1) (extent_pos_iff hbins.2)

end Region

namespace FrameBuffer

theorem checkSize_eq_zeroSize (frameBytes frames : ℕ) (limit : Option ℕ) :
    checkSize frameBytes frames limit = .error .zeroSize ↔ frameBytes * frames = 0 := by
  constructor
  · intro hcheck
    by_contra hsize
    simp only [checkSize, if_neg hsize] at hcheck
    split_ifs at hcheck <;> cases hcheck
  · intro hsize
    unfold checkSize
    rw [hsize]
    rfl

/-- An allocation is refused for want of bytes just where no bytes are asked for. -/
theorem failure?_allocate_zeroSize (allocator : Allocator) (frameBytes frames : ℕ)
    (limit : Option ℕ) :
    failure? (allocate allocator frameBytes frames limit) = some .zeroSize ↔
      frameBytes * frames = 0 := by
  rw [← checkSize_eq_zeroSize frameBytes frames limit]
  unfold allocate
  cases checkSize frameBytes frames limit with
  | error e => simp [failure?, bind, Except.bind]
  | ok total => cases hbase : allocator total <;> simp [failure?, bind, Except.bind, hbase]

end FrameBuffer

namespace Simulator

theorem configure_bytes {h : Handle} {region : Region} {s : Simulator} {bytes : ℕ}
    (hok : (configure h region s).1 = .ok bytes) :
    bytes = s.behavior.frameBytes.getD region.frameBytes := by
  cases hs : s.sessions.get? h with
  | some session => exact (configure_of_ok hs hok).1
  | none =>
    have hcall := unlessInjected_of_ok hok
    change configure h region s = (if region.isValid = true then _ else _ : Action _) _ at hcall
    rw [hcall] at hok
    split at hok
    · rw [withSession_of_none hs] at hok
      cases hok
    · cases hok

end Simulator

namespace SimulatorBehavior

variable {b : SimulatorBehavior} {settings : RunSettings} {allocator : Allocator}

theorem injected?_eq_none {stage : SetupStage} :
    b.injected? stage = none ↔ b.failStage ≠ some stage := by
  unfold injected? injection?
  split_ifs with h <;> simp [h]

/-- The behaviour never asks for a failure to allocate. -/
theorem injected?_ne_allocation {stage stage' : SetupStage} {e : AllocationError} :
    b.injected? stage ≠ some ⟨stage', .allocation e⟩ := by
  unfold injected?
  cases b.injection? stage <;> simp

theorem allocationError?_zeroSize {stage : SetupStage} :
    b.allocationError? settings allocator = some ⟨stage, .allocation .zeroSize⟩ ↔
      stage = .allocateBuffer ∧ b.frameSize settings * settings.bufferFrames = 0 := by
  unfold allocationError?
  rw [← FrameBuffer.failure?_allocate_zeroSize allocator _ _ settings.bufferLimit]
  simp [and_comm, eq_comm]

/-- Setup is refused a buffer for want of bytes where a frame has none and no earlier stage fails.
-/
theorem setupError?_zeroSize {stage : SetupStage} :
    b.setupError? settings allocator = some ⟨stage, .allocation .zeroSize⟩ ↔
      (b.failStage ≠ some .openDevice ∧ b.failStage ≠ some .selectExposureMode ∧
        b.failStage ≠ some .setupAcquisition) ∧
      stage = .allocateBuffer ∧ b.frameSize settings * settings.bufferFrames = 0 := by
  simp only [setupError?, Option.or_eq_some_iff, injected?_ne_allocation, injected?_eq_none,
    allocationError?_zeroSize, false_or, and_false, or_false, and_assoc]

end SimulatorBehavior

namespace Settings.Config

/-- What is known of a configuration for the simulated camera that passes the check. -/
structure Usable (c : Config) : Prop where
  region : c.camera.region.isValid = true
  bufferFrames : c.acquisition.bufferFrames ≠ 0
  camera : c.simulator.cameras.contains c.camera.name = true

variable {c : Config}

theorem invalidity?_of_valid (hvalid : c.validate = .ok ()) : c.invalidity? = none := by
  cases h : c.invalidity? with
  | none => rfl
  | some reason => unfold validate at hvalid; rw [h] at hvalid; cases hvalid

theorem usable_of_valid (hvalid : c.validate = .ok ()) (hmock : c.camera.backend = .mock) :
    c.Usable := by
  have hgeneral := invalidity?_of_valid hvalid
  have hsimulator : c.simulatorInvalidity? = none := by
    cases h : c.simulatorInvalidity? with
    | none => rfl
    | some reason =>
      unfold validate at hvalid
      rw [hgeneral, hmock] at hvalid
      dsimp only at hvalid
      rw [h] at hvalid
      cases hvalid
  unfold invalidity? at hgeneral
  obtain ⟨-, hgeneral⟩ := not_and_of_ite_eq_none hgeneral
  obtain ⟨-, hgeneral⟩ := not_and_of_ite_eq_none hgeneral
  obtain ⟨hregion, hgeneral⟩ := not_and_of_ite_eq_none hgeneral
  obtain ⟨-, hgeneral⟩ := not_and_of_ite_eq_none hgeneral
  obtain ⟨-, hgeneral⟩ := not_and_of_ite_eq_none hgeneral
  obtain ⟨hframes, -⟩ := not_and_of_ite_eq_none hgeneral
  unfold simulatorInvalidity? at hsimulator
  obtain ⟨-, hsimulator⟩ := not_and_of_ite_eq_none hsimulator
  obtain ⟨-, hsimulator⟩ := not_and_of_ite_eq_none hsimulator
  obtain ⟨hcamera, -⟩ := not_and_of_ite_eq_none hsimulator
  exact ⟨by simpa using hregion, hframes, by simpa using hcamera⟩

/-- A configuration that passes the check can be logged with. -/
theorem logging_of_valid (hvalid : c.validate = .ok ()) :
    ∃ logging, LoggingConfig.ofConfig c = .ok logging := by
  have hgeneral := invalidity?_of_valid hvalid
  unfold invalidity? at hgeneral
  obtain ⟨hlevel, -⟩ := not_and_of_ite_eq_none hgeneral
  obtain ⟨level, hlevel⟩ := Option.isSome_iff_exists.mp
    (LogLevel.isSome_ofName? (by simpa using hlevel))
  have hread : LoggingConfig.readLevel c.application.logLevel = .ok level := by
    unfold LoggingConfig.readLevel
    rw [hlevel]
  unfold LoggingConfig.ofConfig
  rw [hread]
  exact ⟨_, rfl⟩

/-! ## Runs -/

/-- A run with the settings of a configuration, on the simulated camera that it connects to after
any number of other runs. -/
structure SimulatedRun (c : Config) where
  camera : Simulator
  connected : c.camera.backend.connect c.simulator = .ok camera
  faults : SimulatorFaults
  epoch : Timestamp
  rig : Simulation
  used : (Simulation.fresh camera faults epoch).Used rig
  mailbox : Mailbox
  pace : Pace
  allocator : Allocator
  number : ℕ

/-- How the run ends. -/
def SimulatedRun.verdict (run : SimulatedRun c) : Verdict :=
  ((Runner.mk c.runSettings run.mailbox run.rig).run (Simulation.rig run.pace run.allocator)
    run.number).1.verdict

theorem connect_of_mock (hmock : c.camera.backend = .mock) :
    c.camera.backend.connect c.simulator = .ok (.fresh c.simulator true) := by
  rw [hmock]
  rfl

theorem SimulatedRun.made (run : SimulatedRun c) : Simulation.Made c.simulator run.rig := by
  refine run.used.made ?_
  have hconnected := run.connected
  unfold Backend.connect at hconnected
  split at hconnected
  · have hcamera : Simulator.fresh c.simulator true = run.camera := Except.ok.inj hconnected
    exact ⟨by rw [← hcamera]; rfl, by rw [← hcamera]; rfl⟩
  · cases hconnected

theorem Usable.verdict_iff (h : c.Usable) (run : SimulatedRun c) (e : SetupError)
    (diagnostic : Option CameraError) :
    run.verdict = .setupFailed e diagnostic ↔
      c.simulator.setupError? c.runSettings run.allocator = some e ∧
        diagnostic = e.cause.diagnostic? :=
  Runner.simulated_verdict run.number run.made h.camera h.region e diagnostic

/-- **Valid setup.** A configuration for the simulated camera that passes the check can be logged
with and connected with. Its runs fail in setup where it asks for that and where no buffer can be
allocated, with the first such error, and nowhere else. -/
theorem valid_setup (c : Config) (hvalid : c.validate = .ok ())
    (hmock : c.camera.backend = .mock) :
    (∃ logging, LoggingConfig.ofConfig c = .ok logging) ∧
    (∃ camera, c.camera.backend.connect c.simulator = .ok camera) ∧
    ∀ (run : SimulatedRun c) (e : SetupError) (diagnostic : Option CameraError),
      run.verdict = .setupFailed e diagnostic ↔
        c.simulator.setupError? c.runSettings run.allocator = some e ∧
          diagnostic = e.cause.diagnostic? :=
  have husable := usable_of_valid hvalid hmock
  ⟨logging_of_valid hvalid, ⟨_, connect_of_mock hmock⟩, husable.verdict_iff⟩

/-- The built-in configuration, with a failure at the start and frames of ten bytes. -/
def failingAtStart : Config :=
  { standard with
    simulator := { SimulatorBehavior.standard with
      failStage := some .startAcquisition
      frameBytes := some 10 } }

/-- The first run with a configuration, where memory starts on the second page. -/
def firstRun (c : Config) (h : c.camera.backend = .mock) : SimulatedRun c where
  camera := .fresh c.simulator true
  connected := connect_of_mock h
  faults := .none
  epoch := ⟨0, 0⟩
  rig := _
  used := .unused
  mailbox := .empty
  pace := Simulation.lockStep
  allocator := fun _ => some 4096
  number := 1

theorem valid_setup_failingAtStart :
    failingAtStart.validate = .ok () ∧ failingAtStart.camera.backend = .mock ∧
      (firstRun failingAtStart rfl).verdict =
        .setupFailed
          ⟨.startAcquisition, .camera ⟨3001, "Mock failure injected at start_acquisition"⟩⟩
          (some ⟨3001, "Mock failure injected at start_acquisition"⟩) :=
  have hvalid : failingAtStart.validate = .ok () := by decide +kernel
  have hsetup := (valid_setup failingAtStart hvalid rfl).2.2 (firstRun failingAtStart rfl)
  ⟨hvalid, rfl, (hsetup _ _).mpr ⟨by decide +kernel, rfl⟩⟩

/-! ## Frames without bytes -/

theorem Usable.zeroSize_iff (h : c.Usable) (hframe : c.simulator.frameBytes = none)
    (run : SimulatedRun c) (stage : SetupStage) (diagnostic : Option CameraError) :
    run.verdict = .setupFailed ⟨stage, .allocation .zeroSize⟩ diagnostic ↔
      ((c.simulator.failStage ≠ some .openDevice ∧
          c.simulator.failStage ≠ some .selectExposureMode ∧
          c.simulator.failStage ≠ some .setupAcquisition) ∧
        stage = .allocateBuffer ∧ ¬ c.camera.region.HoldsBin) ∧ diagnostic = none := by
  have hsize : c.simulator.frameSize c.runSettings = c.camera.region.frameBytes := by
    unfold SimulatorBehavior.frameSize
    rw [hframe]
    rfl
  rw [h.verdict_iff, SimulatorBehavior.setupError?_zeroSize, hsize, mul_eq_zero,
    or_iff_left (show c.runSettings.bufferFrames ≠ 0 from h.bufferFrames),
    ← Region.frameBytes_pos_iff h.region, Nat.pos_iff_ne_zero, not_not]
  rfl

/-- **Valid frames.** Where the size of a frame follows from the region, the camera agrees on frames
with bytes just if a whole bin fits into the region in each direction. The check asks for ordered
bounds and for a binning only: it lets smaller regions pass, and with them no run gets past the
buffer. -/
theorem valid_frame_size (c : Config) (hvalid : c.validate = .ok ())
    (hmock : c.camera.backend = .mock) (hframe : c.simulator.frameBytes = none) :
    (∀ (s : Simulator) (h : Handle) (bytes : ℕ), s.behavior = c.simulator →
      (Simulator.configure h c.camera.region s).1 = .ok bytes →
        (0 < bytes ↔ c.camera.region.HoldsBin)) ∧
    ∀ (run : SimulatedRun c) (stage : SetupStage) (diagnostic : Option CameraError),
      run.verdict = .setupFailed ⟨stage, .allocation .zeroSize⟩ diagnostic ↔
        ((c.simulator.failStage ≠ some .openDevice ∧
            c.simulator.failStage ≠ some .selectExposureMode ∧
            c.simulator.failStage ≠ some .setupAcquisition) ∧
          stage = .allocateBuffer ∧ ¬ c.camera.region.HoldsBin) ∧ diagnostic = none := by
  have husable := usable_of_valid hvalid hmock
  refine ⟨fun s h bytes hs hok => ?_, husable.zeroSize_iff hframe⟩
  rw [Simulator.configure_bytes hok, hs, hframe]
  exact Region.frameBytes_pos_iff husable.region

/-- The built-in configuration, with a region of half a bin. -/
def halfBin : Config :=
  { standard with camera := { standard.camera with region := ⟨0, 0, 2, 0, 511, 1⟩ } }

theorem valid_frame_size_halfBin :
    halfBin.validate = .ok () ∧ halfBin.camera.backend = .mock ∧
      halfBin.simulator.frameBytes = none ∧
      (firstRun halfBin rfl).verdict =
        .setupFailed ⟨.allocateBuffer, .allocation .zeroSize⟩ none :=
  have hvalid : halfBin.validate = .ok () := by decide +kernel
  have hruns := (valid_frame_size halfBin hvalid rfl rfl).2
  ⟨hvalid, rfl, rfl, (hruns (firstRun halfBin rfl) _ _).mpr ⟨⟨by decide, rfl, by decide⟩, rfl⟩⟩

/-- A valid configuration does not rule out frames without bytes. -/
theorem valid_with_empty_frames :
    ¬ ∀ c : Config, c.validate = .ok () → c.camera.backend = .mock →
      c.simulator.frameBytes = none →
      (∀ (s : Simulator) (h : Handle) (bytes : ℕ), s.behavior = c.simulator →
        (Simulator.configure h c.camera.region s).1 = .ok bytes → 0 < bytes) ∧
      ∀ (run : SimulatedRun c) (stage : SetupStage) (diagnostic : Option CameraError),
        run.verdict ≠ .setupFailed ⟨stage, .allocation .zeroSize⟩ diagnostic := by
  intro h
  have hvalid : halfBin.validate = .ok () := by decide +kernel
  have hfails : (firstRun halfBin rfl).verdict =
      .setupFailed ⟨.allocateBuffer, .allocation .zeroSize⟩ none := by decide +kernel
  exact (h halfBin hvalid rfl rfl).2 _ _ _ hfails

end Settings.Config

end FrameWatch
