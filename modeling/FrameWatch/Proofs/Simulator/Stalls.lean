import FrameWatch.Proofs.Run.Waits
import FrameWatch.Proofs.Simulator.Start
import Mathlib.Data.ENat.Lattice

/-!
# Stalls on the simulated camera

A run on the simulated camera never takes more frames than can be heard of, so it never completes
where these are too few. Where frames are taken in turn and no wait ends too early, it takes all
that it wants or all that there are, and stalls only where the camera has fallen silent.

1. `Simulation.drive_follows`: a run follows the camera to the end of its watch.
2. `Heard` keeps of that what it says about the mailbox, and its lemmas tell which frames are handed
   out.
3. `Runner.simulated_frames` says so of every run.
-/

namespace FrameWatch

open MailboxEvent

namespace SimulatorBehavior

/-- No wait ends without a frame before every frame that can be heard of is put in. -/
def Patient (b : SimulatorBehavior) (es : List MailboxEvent) : Prop :=
  ∀ i, es[i]? = some .timedOut →
    ∀ k, b.Hears k → (k : ℤ) ∈ (signals (es.take i)).map FrameDescriptor.sequence

theorem Patient.of_append {b : SimulatorBehavior} {es more : List MailboxEvent}
    (h : b.Patient (es ++ more)) : b.Patient es := by
  intro i hi k hk
  obtain ⟨hlt, -⟩ := List.getElem?_eq_some_iff.mp hi
  have hmem := h i (by rw [List.getElem?_append_left hlt, hi]) k hk
  rwa [List.take_append_of_le_length hlt.le] at hmem

end SimulatorBehavior

/-! ## To the end of the watch -/

namespace Simulation

variable {pace : Pace} {allocator : Allocator} {b : SimulatorBehavior} {settings : RunSettings}
  {s : RunState Simulation}

theorem drive_follows (hu : Unopened b s)
    (hsetup : ∀ e diagnostic,
      (Run.drive (rig pace allocator) settings s).1.1 ≠ .setupFailed e diagnostic) :
    ∃ h n, Follows b h n (Run.drive (rig pace allocator) settings s).2 := by
  cases hsteps : (Setup.steps (rig pace allocator) settings s).1 with
  | error e =>
    obtain ⟨⟨diagnostic, hverdict⟩, -, -⟩ := Run.failSetup_path (rig pace allocator)
      (Setup.steps (rig pace allocator) settings s).2 e
    refine absurd ?_ (hsetup e diagnostic)
    rw [Run.drive_of_error _ _ _ hsteps]
    exact hverdict
  | ok began =>
    obtain ⟨h, n, hf⟩ := steps_answers settings hu began hsteps
    have hentered := hf.agree (RunState.agrees_enter _ .acquiring)
    obtain ⟨n', hwatched⟩ := hentered.watches
      (Watch.frames_watches _ settings _ settings.targetFrames began .none)
    rw [Run.drive_of_ok _ _ _ hsteps]
    exact ⟨h, n', hwatched.agree (RunState.agrees_enter _ _)⟩

end Simulation

/-! ## The frames handed out -/

/-- The frames put into the mailbox are those that can be heard of until frame `n`. -/
structure Heard (b : SimulatorBehavior) (n : ℕ) (s : RunState Simulation) : Prop where
  history : s.KeepsHistory
  heard : (signals s.mailboxEvents).map FrameDescriptor.told = (b.heardTo n).map b.told

namespace Heard

variable {b : SimulatorBehavior} {n : ℕ} {s : RunState Simulation}

theorem length_signals (h : Heard b n s) :
    (signals s.mailboxEvents).length = (b.heardTo n).length := by
  rw [← List.length_map FrameDescriptor.told, h.heard, List.length_map]

/-- No more frames are handed out than can be heard of. -/
theorem length_deliveries_le (h : Heard b n s) :
    ((deliveries s.mailboxEvents).length : ℕ∞) ≤ {k | b.Hears k}.encard := by
  have hsub := ((List.sublist_append_left _ _).trans h.history.ledger.sublist).length_le
  rw [h.length_signals] at hsub
  exact le_trans (by exact_mod_cast hsub) (SimulatorBehavior.length_heardTo_le n)

/-- Frames taken in turn are the first ones that can be heard of. -/
theorem told_deliveries (h : Heard b n s) (ht : InTurn s.mailboxEvents) :
    (deliveries s.mailboxEvents).map FrameDescriptor.told =
      (List.range (deliveries s.mailboxEvents).length).map
        fun i => b.told (Nat.nth b.Hears i) := by
  have hsignals := h.history.signals_eq_of_inTurn s.reset_not_mem ht
  have hle : (deliveries s.mailboxEvents).length ≤ (b.heardTo n).length := by
    rw [← h.length_signals, hsignals, List.length_append]
    exact Nat.le_add_right _ _
  calc (deliveries s.mailboxEvents).map FrameDescriptor.told
      = ((signals s.mailboxEvents).map FrameDescriptor.told).take
          (deliveries s.mailboxEvents).length := by
        rw [hsignals, List.map_append, List.take_left' (List.length_map _)]
    _ = ((List.range (b.heardTo n).length).map fun i => b.told (Nat.nth b.Hears i)).take
          (deliveries s.mailboxEvents).length := by
        rw [h.heard, SimulatorBehavior.heardTo_eq_map_nth, List.map_map, List.length_map,
          List.length_range]
        rfl
    _ = _ := by rw [← List.map_take, List.take_range, min_eq_left hle]

/-- After a wait that ends without a frame there is nothing more to be heard of. -/
theorem encard_le_of_timedOut (h : Heard b n s) (ht : InTurn s.mailboxEvents)
    (hp : b.Patient s.mailboxEvents) {before after : List MailboxEvent}
    (hes : s.mailboxEvents = before ++ .timedOut :: after) :
    {k | b.Hears k}.encard ≤ (deliveries before).length := by
  have hsignals := h.history.signals_eq_of_timedOut s.reset_not_mem ht hes
  set taken := deliveries before with htaken
  set numbers : List ℤ := taken.map FrameDescriptor.sequence with hnumbers
  have hsub : (fun k : ℕ => (k : ℤ)) '' {k | b.Hears k} ⊆ (numbers.toFinset : Set ℤ) := by
    rintro _ ⟨k, hk, rfl⟩
    have hmem := hp before.length (by rw [hes]; simp) k hk
    rw [hes, List.take_left, hsignals] at hmem
    simpa [hnumbers] using hmem
  have hcard : numbers.toFinset.card ≤ taken.length := by
    rw [← List.length_map FrameDescriptor.sequence]
    exact List.toFinset_card_le numbers
  calc {k | b.Hears k}.encard
      = ((fun k : ℕ => (k : ℤ)) '' {k | b.Hears k}).encard :=
        (Nat.cast_injective.encard_image _).symm
    _ ≤ (numbers.toFinset : Set ℤ).encard := Set.encard_le_encard hsub
    _ = numbers.toFinset.card := Set.encard_coe_eq_coe_finsetCard _
    _ ≤ taken.length := by exact_mod_cast hcard

end Heard

/-! ## Runs -/

namespace RunCourse

variable {pace : Pace} {allocator : Allocator} {settings : RunSettings} {x : Simulation}
  {mailbox : Mailbox} {outcome : Outcome} {s : RunState Simulation} {path : SetupPath}
  {taken : List (FrameDescriptor × Duration)} {f : TeardownFailures}
  (h : RunCourse (Simulation.rig pace allocator) settings (.initial x mailbox.reset) outcome s path
    taken f)

include h

/-- At the end of the watch, frames have been heard of until some frame. -/
theorem exists_heard (hpath : path.error? = none) :
    ∃ n, Heard x.camera.behavior n
      (Run.drive (Simulation.rig pace allocator) settings (.initial x mailbox.reset)).2 := by
  have hu : Unopened x.camera.behavior (.initial x mailbox.reset) := ⟨rfl, rfl, rfl⟩
  have hwatch := h.verdict_of_none hpath
  rw [h.judged] at hwatch
  obtain ⟨handle, n, hf⟩ := Simulation.drive_follows hu fun e diagnostic hfailed => by
    rw [hwatch] at hfailed
    unfold watchVerdict at hfailed
    split at hfailed <;> cases hfailed
  exact ⟨n, h.drives.history (RunState.keepsHistory_initial x mailbox), hf.heard⟩

theorem length_taken_le : (taken.length : ℕ∞) ≤ {k | x.camera.behavior.Hears k}.encard := by
  by_cases hpath : path.error? = none
  · obtain ⟨n, hheard⟩ := h.exists_heard hpath
    have hle := hheard.length_deliveries_le
    rwa [h.deliveries_driven, List.length_map] at hle
  · rw [h.unwatched hpath]
    exact zero_le

/-- A run that completes has taken as many frames as it wants. -/
theorem length_taken_of_completed (hcompleted : outcome.verdict = .completed) :
    taken.length = settings.targetFrames := by
  by_cases hpath : path.error? = none
  · by_contra hmissed
    rw [h.verdict_of_none hpath, decide_eq_false hmissed] at hcompleted
    cases hcompleted
  · obtain ⟨e, diagnostic, hverdict⟩ := h.verdict_of_ne_none hpath
    rw [hverdict] at hcompleted
    cases hcompleted

/-- Frames taken in turn are the first ones that can be heard of. -/
theorem told_taken (hpath : path.error? = none) (ht : InTurn s.mailboxEvents) :
    (taken.map Prod.fst).map FrameDescriptor.told =
      (List.range taken.length).map fun i =>
        x.camera.behavior.told (Nat.nth x.camera.behavior.Hears i) := by
  obtain ⟨n, hheard⟩ := h.exists_heard hpath
  obtain ⟨more, hmore⟩ := h.leaves.events_prefix
  rw [← hmore] at ht
  have htold := hheard.told_deliveries ht.of_append
  rwa [h.deliveries_driven, List.length_map] at htold

/-- Where the target is missed, there is nothing more to be heard of. -/
theorem encard_le_length_taken (hpath : path.error? = none) (ht : InTurn s.mailboxEvents)
    (hp : x.camera.behavior.Patient s.mailboxEvents)
    (hmissed : taken.length ≠ settings.targetFrames) :
    {k | x.camera.behavior.Hears k}.encard ≤ taken.length := by
  obtain ⟨n, hheard⟩ := h.exists_heard hpath
  obtain ⟨more, hmore⟩ := h.leaves.events_prefix
  rw [← hmore] at ht hp
  obtain ⟨before, after, hes, hbefore⟩ := h.exists_timedOut hpath hmissed
  have hle := hheard.encard_le_of_timedOut ht.of_append hp.of_append hes
  rwa [hbefore, List.length_map] at hle

end RunCourse

/-- **Stalls.** However the frames of the simulated camera and its run interleave: the run takes no
more frames than can be heard of, and does not complete where these are fewer than it wants. If
setup succeeds, frames are taken in turn and no wait ends too early, then it takes the first frames
that can be heard of, as many as it wants or as there are. It counts those among them that could not
be fetched, and stalls exactly where there are too few. -/
theorem Runner.simulated_frames (pace : Pace) (allocator : Allocator) (r : Runner Simulation)
    (number : ℕ) :
    let b := r.rig.camera.behavior
    let outcome := (r.run (Simulation.rig pace allocator) number).1
    let es := (r.run (Simulation.rig pace allocator) number).2.1.mailboxEvents
    let target := r.settings.targetFrames
    let heard := {k | b.Hears k}.encard
    (outcome.framesAcquired : ℕ∞) ≤ heard ∧
    (heard < target → outcome.verdict ≠ .completed) ∧
    ((∀ e diagnostic, outcome.verdict ≠ .setupFailed e diagnostic) → InTurn es → b.Patient es →
      (outcome.framesAcquired : ℕ∞) = min (target : ℕ∞) heard ∧
      (deliveries es).map FrameDescriptor.sequence =
        (List.range outcome.framesAcquired).map (fun i => (Nat.nth b.Hears i : ℤ)) ∧
      outcome.degradedFrames =
        (List.range outcome.framesAcquired).countP
          (fun i => (Nat.nth b.Hears i : ℤ) ∈ b.failFetchOn) ∧
      (target ≤ heard → outcome.verdict = .completed) ∧
      (heard < target → outcome.verdict = .stalled (outcome.framesAcquired + 1))) := by
  intro b outcome es target heard
  obtain ⟨path, taken, f, hcourse⟩ := r.run_course (Simulation.rig pace allocator) number
  have hframes : outcome.framesAcquired = taken.length := hcourse.frames
  have hle : (taken.length : ℕ∞) ≤ heard := hcourse.length_taken_le
  rw [hframes]
  refine ⟨hle, fun hfew hcompleted => ?_, fun hsucceeds hturn hpatient => ?_⟩
  · rw [hcourse.length_taken_of_completed hcompleted] at hle
    exact absurd hfew (not_lt.mpr hle)
  have hpath : path.error? = none := by
    by_contra hpath
    obtain ⟨e, diagnostic, hverdict⟩ := hcourse.verdict_of_ne_none hpath
    exact hsucceeds e diagnostic hverdict
  have hverdict : outcome.verdict = watchVerdict taken.length (taken.length = target) :=
    hcourse.verdict_of_none hpath
  have hall : deliveries es = taken.map Prod.fst := hcourse.deliveries_eq
  have hcount : outcome.degradedFrames = taken.countP (·.1.degraded) := hcourse.degraded
  have htold := hcourse.told_taken hpath hturn
  have hsequences := congrArg (List.map Prod.fst) htold
  have hdegraded := congrArg (List.countP Prod.snd) htold
  simp only [List.map_map] at hsequences
  simp only [List.countP_map] at hdegraded
  rw [hall, hcount, hverdict, List.map_map]
  by_cases hreached : taken.length = target
  · have henough : (target : ℕ∞) ≤ heard := hreached ▸ hle
    rw [decide_eq_true hreached]
    exact ⟨by rw [min_eq_left henough, hreached], hsequences, hdegraded, fun _ => rfl,
      fun hfew => absurd hfew (not_lt.mpr henough)⟩
  · have heq : heard = taken.length :=
      le_antisymm (hcourse.encard_le_length_taken hpath hturn hpatient hreached) hle
    have hlt : (taken.length : ℕ∞) < target := by
      exact_mod_cast lt_of_le_of_ne hcourse.short hreached
    rw [decide_eq_false hreached, heq]
    exact ⟨(min_eq_right hlt.le).symm, hsequences, hdegraded,
      fun henough => absurd hlt (not_lt.mpr henough), fun _ => rfl⟩

/-- A camera with a loss of every kind, that ends after frame 6. -/
def SimulatorBehavior.lossy : SimulatorBehavior where
  __ := standard
  stopAfter := some 6
  dropFrames := [2]
  nullInfoOn := [3]
  failFetchOn := [4]

/-- Nine frames are wanted of the lossy camera. -/
def Runner.lossy : Runner Simulation :=
  .fresh { RunSettings.standard with targetFrames := 9 }
    (.fresh (.fresh .lossy true) .none ⟨0, 0⟩)

theorem SimulatorBehavior.hears_lossy {k : ℕ} : lossy.Hears k ↔ k ∈ [1, 4, 5, 6] := by
  have hsmall : ∀ k ≤ 6, lossy.Hears k ↔ k ∈ [1, 4, 5, 6] := by decide +kernel
  by_cases hk : k ≤ 6
  · exact hsmall k hk
  · refine iff_of_false (fun hhears => hk (hhears.1.1.2.2 6 rfl)) fun hmem => ?_
    simp only [List.mem_cons, List.not_mem_nil, or_false] at hmem
    omega

/-- What comes of the lossy camera where it keeps time. -/
def Runner.lossyRun : Outcome × RunState Simulation × Runner Simulation :=
  Runner.lossy.run (Simulation.rig Simulation.steady fun _ => some 4096) 1

theorem Runner.simulated_frames_lossy :
    InTurn Runner.lossyRun.2.1.mailboxEvents ∧
      SimulatorBehavior.lossy.Patient Runner.lossyRun.2.1.mailboxEvents ∧
      (Runner.lossyRun.1.framesAcquired : ℕ∞) =
        min (Runner.lossy.settings.targetFrames : ℕ∞)
          {k | SimulatorBehavior.lossy.Hears k}.encard ∧
      Runner.lossyRun.1.framesAcquired = 4 ∧ Runner.lossyRun.1.degradedFrames = 1 ∧
      Runner.lossyRun.1.verdict = .stalled 5 := by
  have hverdict : Runner.lossyRun.1.verdict = .stalled 5 := by decide +kernel
  have hsucceeds : ∀ e diagnostic, Runner.lossyRun.1.verdict ≠ .setupFailed e diagnostic := by
    rw [hverdict]
    intro e diagnostic hfailed
    cases hfailed
  have hturn : InTurn Runner.lossyRun.2.1.mailboxEvents := by decide +kernel
  have hpatient : SimulatorBehavior.lossy.Patient Runner.lossyRun.2.1.mailboxEvents := by
    have hseen : ∀ i < Runner.lossyRun.2.1.mailboxEvents.length,
        Runner.lossyRun.2.1.mailboxEvents[i]? = some .timedOut → ∀ k ∈ [1, 4, 5, 6],
          ((k : ℕ) : ℤ) ∈ (signals (Runner.lossyRun.2.1.mailboxEvents.take i)).map
            FrameDescriptor.sequence := by decide +kernel
    intro i hi k hk
    obtain ⟨hlt, -⟩ := List.getElem?_eq_some_iff.mp hi
    exact hseen i hlt hi k (SimulatorBehavior.hears_lossy.mp hk)
  have hframes := Runner.simulated_frames Simulation.steady (fun _ => some 4096) .lossy 1
  dsimp only at hframes
  rw [show Runner.lossy.run (Simulation.rig Simulation.steady fun _ => some 4096) 1 =
    Runner.lossyRun from rfl] at hframes
  have hacquired := (hframes.2.2 hsucceeds hturn hpatient).1
  exact ⟨hturn, hpatient, hacquired, by decide +kernel, by decide +kernel, hverdict⟩

end FrameWatch
