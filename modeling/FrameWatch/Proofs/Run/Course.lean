import FrameWatch.Proofs.Run.SetupPath
import FrameWatch.Proofs.Run.TeardownPath
import FrameWatch.Proofs.Run.WatchPath

/-!
# The course of a run

A run is decided by the exit that it takes from setup, the frames that it takes while it watches,
and the calls of its teardown that fail. `RunCourse` says what the outcome is and where the run
stands in the end for each of them, and `Runner.run_course` that every run on every rig has a
course.
-/

namespace FrameWatch

open Relation (ReflTransGen)

/-- What is asked of the camera about a failure. -/
def SetupCause.diagnosis : SetupCause → List RunStep
  | camera _ => [.noted (.call .lastError)]
  | allocation _ => []

/-- The steps that follow a failure of setup. -/
def SetupError.steps (e : SetupError) (source : Phase) : List RunStep :=
  e.cause.diagnosis ++
    [.noted (.event (.setupFailed e)), .noted (.event (.transition source .setupFailed))]

/-- The phase that a watch ends in. -/
def watchPhase (reached : Bool) : Phase := if reached then .completed else .stalled

theorem phase_of_verdict (n : ℕ) (reached : Bool) :
    (if watchVerdict n reached = .completed then Phase.completed else .stalled) =
      watchPhase reached := by
  cases reached <;> rfl

/-- The steps of a watch that takes these frames. -/
def watchSteps (settings : RunSettings) (source : Phase) (taken : List FrameDescriptor) :
    List RunStep :=
  let reached : Bool := taken.length = settings.targetFrames
  .noted (.event (.transition source .acquiring)) ::
    (takenSteps settings 0 taken ++ endSteps settings taken.length reached ++
      [.noted (.event (.transition .acquiring (watchPhase reached)))])

namespace SetupPath

variable (settings : RunSettings) (logsOpening : Bool) (path : SetupPath)
  (taken : List FrameDescriptor)

/-- The steps between setup and teardown. -/
def drivenSteps (source : Phase) : List RunStep :=
  match path.error? with
  | some e => e.steps source
  | none => watchSteps settings source taken

/-- The phase in which teardown begins. -/
def drivenPhase : Phase :=
  match path.error? with
  | some _ => .setupFailed
  | none => watchPhase (taken.length = settings.targetFrames)

/-- Where the run stands when it comes to its teardown. -/
def driven : Standing :=
  let s := path.standing settings logsOpening
  { s.did (path.drivenSteps settings taken s.phase) with phase := path.drivenPhase settings taken }

/-- Where the run stands at its end. -/
def ended (f : TeardownFailures) (gaps : List RunStep) : Standing :=
  let s := path.driven settings logsOpening taken
  { (s.givenBack f).did (.noted (.event (.transition s.phase .stopped)) :: gaps) with
    phase := .stopped
    tornDown := true }

theorem driven_of_some {e : SetupError} (h : path.error? = some e) :
    path.driven settings logsOpening taken =
      let s := path.standing settings logsOpening
      { s.did (e.steps s.phase) with phase := .setupFailed } := by
  unfold driven drivenSteps drivenPhase
  rw [h]

theorem driven_of_none (h : path.error? = none) :
    path.driven settings logsOpening taken =
      let s := path.standing settings logsOpening
      { s.did (watchSteps settings s.phase taken) with
        phase := watchPhase (taken.length = settings.targetFrames) } := by
  unfold driven drivenSteps drivenPhase
  rw [h]

@[simp] theorem camera_driven :
    (path.driven settings logsOpening taken).camera =
      (path.standing settings logsOpening).camera := rfl

@[simp] theorem registered_driven :
    (path.driven settings logsOpening taken).registered =
      (path.standing settings logsOpening).registered := rfl

@[simp] theorem context_driven :
    (path.driven settings logsOpening taken).context =
      (path.standing settings logsOpening).context := rfl

@[simp] theorem buffer_driven :
    (path.driven settings logsOpening taken).buffer =
      (path.standing settings logsOpening).buffer := rfl

theorem tornDown_driven : (path.driven settings logsOpening taken).tornDown = false := by
  cases path <;> rfl

theorem registered_of_closed (h : (path.standing settings logsOpening).camera = none) :
    (path.standing settings logsOpening).registered = false := by
  cases path with
  | openFails => rfl
  | _ => cases h

end SetupPath

/-- The course of a run from `s₀` to `s`. -/
structure RunCourse {σ : Type} (rig : Rig σ) (settings : RunSettings) (s₀ : RunState σ)
    (outcome : Outcome) (s : RunState σ) (path : SetupPath)
    (taken : List (FrameDescriptor × Duration)) (f : TeardownFailures) : Prop where
  allocates : path.Allocates settings
  unwatched : path.error? ≠ none → taken = []
  short : taken.length ≤ settings.targetFrames
  driven : (Run.drive rig settings s₀).2.standing =
    path.driven settings rig.logsOpening (taken.map Prod.fst)
  drives : Moves rig s₀ (Run.drive rig settings s₀).2
  leaves : Moves rig (Run.drive rig settings s₀).2 s
  admits : (path.driven settings rig.logsOpening (taken.map Prod.fst)).Admits f
  judged : outcome.verdict = (Run.drive rig settings s₀).1.1
  verdict : match path.error? with
    | some e => ∃ diagnostic, outcome.verdict = .setupFailed e diagnostic
    | none => outcome.verdict = watchVerdict taken.length (taken.length = settings.targetFrames)
  frames : outcome.framesAcquired = taken.length
  degraded : outcome.degradedFrames = taken.countP (·.1.degraded)
  lastFrame : outcome.lastFrame = taken.getLast?.map Prod.fst
  lastInterval : outcome.lastInterval = taken.getLast?.map Prod.snd
  intervals : outcome.intervals = .ofList (taken.map Prod.snd)
  target : outcome.targetFrames = settings.targetFrames
  tally : outcome.tally = s.mailbox.tally
  /-- The counters are those that teardown tells. -/
  settles : outcome.callbacks =
      (Teardown.steps rig (Run.drive rig settings s₀).2).1.1.handled ∧
    outcome.teardown = (Teardown.steps rig (Run.drive rig settings s₀).2).1.2
  ends : ∃ counters, s = (Run.stop counters (Teardown.steps rig (Run.drive rig settings s₀).2).2).2
  teardown : outcome.teardown = (path.driven settings rig.logsOpening (taken.map Prod.fst)).leaks f
  standing : ∃ gaps : List RunStep,
    (∀ e ∈ gaps, ∃ events lost, e = .noted (.event (.gapsDetected events lost))) ∧
    s.standing = path.ended settings rig.logsOpening (taken.map Prod.fst) f gaps

namespace RunCourse

variable {σ : Type} {rig : Rig σ} {settings : RunSettings} {s₀ s : RunState σ} {outcome : Outcome}
  {path : SetupPath} {taken : List (FrameDescriptor × Duration)} {f : TeardownFailures}

theorem moves (h : RunCourse rig settings s₀ outcome s path taken f) : Moves rig s₀ s :=
  h.drives.trans h.leaves

theorem verdict_of_none (h : RunCourse rig settings s₀ outcome s path taken f)
    (hpath : path.error? = none) :
    outcome.verdict = watchVerdict taken.length (taken.length = settings.targetFrames) := by
  have hverdict := h.verdict
  rwa [hpath] at hverdict

theorem verdict_of_ne_none (h : RunCourse rig settings s₀ outcome s path taken f)
    (hpath : path.error? ≠ none) :
    ∃ e diagnostic, outcome.verdict = .setupFailed e diagnostic := by
  obtain ⟨e, he⟩ := Option.ne_none_iff_exists'.mp hpath
  have hverdict := h.verdict
  rw [he] at hverdict
  exact ⟨e, hverdict⟩

end RunCourse

namespace Run

variable {σ : Type} (rig : Rig σ) (settings : RunSettings) (s : RunState σ)

theorem failSetup_path (e : SetupError) :
    (∃ diagnostic, (failSetup rig e s).1 = .setupFailed e diagnostic) ∧
      (failSetup rig e s).2.standing =
        { s.standing.did (e.steps s.phase) with phase := .setupFailed } ∧
      Moves rig s (failSetup rig e s).2 := by
  unfold failSetup SetupError.steps
  cases hcause : e.cause with
  | camera error =>
    set s₁ := (Act.ask rig.lastError (s.note (.call .lastError))).2 with hs₁
    have hasked : s₁.standing = s.standing.did [.noted (.call .lastError)] :=
      s.standing_step_own rfl
    have hmoves : Moves rig s s₁ :=
      ReflTransGen.head (.did s _ rfl (by simp)) (Act.ask_moves rig _ rig.lastError)
    refine ⟨⟨_, rfl⟩, ?_, (hmoves.trans (Act.log_moves rig _ (.setupFailed e))).trans
      (Act.enter_moves rig _ .setupFailed)⟩
    show (Act.enter .setupFailed (Act.log (.setupFailed e) s₁).2).2.standing = _
    rw [Act.standing_enter, Act.standing_log, hasked, Standing.did_did, Standing.did_did]
    rfl
  | allocation error =>
    refine ⟨⟨_, rfl⟩, ?_, (Act.log_moves rig s (.setupFailed e)).trans
      (Act.enter_moves rig _ .setupFailed)⟩
    show (Act.enter .setupFailed (Act.log (.setupFailed e) s).2).2.standing = _
    rw [Act.standing_enter, Act.standing_log, Standing.did_did]
    rfl

theorem drive_of_error {e : SetupError} (h : (Setup.steps rig settings s).1 = .error e) :
    drive rig settings s =
      (((failSetup rig e (Setup.steps rig settings s).2).1, .none),
        (failSetup rig e (Setup.steps rig settings s).2).2) := by
  unfold drive
  have hrun : (Setup.steps rig settings).run s = (.error e, (Setup.steps rig settings s).2) :=
    Prod.ext h rfl
  rw [Act.run_bind, hrun]
  rfl

theorem drive_of_ok {began : Duration} (h : (Setup.steps rig settings s).1 = .ok began) :
    drive rig settings s =
      let watch := Watch.frames rig settings settings.targetFrames began .none
        (Act.enter .acquiring (Setup.steps rig settings s).2).2
      (watch.1,
        (Act.enter (if watch.1.1 = .completed then .completed else .stalled) watch.2).2) := by
  unfold drive
  have hrun : (Setup.steps rig settings).run s = (.ok began, (Setup.steps rig settings s).2) :=
    Prod.ext h rfl
  rw [Act.run_bind, hrun]
  rfl

/-- Where setup and watch lead. -/
theorem drive_path (hs : s.standing = .fresh) :
    ∃ (path : SetupPath) (taken : List (FrameDescriptor × Duration)),
      path.Allocates settings ∧ (path.error? ≠ none → taken = []) ∧
      taken.length ≤ settings.targetFrames ∧
      (match path.error? with
        | some e => ∃ diagnostic, (drive rig settings s).1.1 = .setupFailed e diagnostic
        | none => (drive rig settings s).1.1 =
            watchVerdict taken.length (taken.length = settings.targetFrames)) ∧
      (drive rig settings s).1.2 = Progress.none.recordAll taken ∧
      (drive rig settings s).2.standing =
        path.driven settings rig.logsOpening (taken.map Prod.fst) ∧
      Moves rig s (drive rig settings s).2 := by
  obtain ⟨path, herror, hallocates, hst⟩ := Setup.steps_path rig settings hs
  have hmoves := (Setup.steps_leads rig settings hs).moves
  have hphase : (Setup.steps rig settings s).2.phase =
      (path.standing settings rig.logsOpening).phase := congrArg Standing.phase hst
  cases h : (Setup.steps rig settings s).1 with
  | error e =>
    have hpath : path.error? = some e := by rw [← herror, h]; rfl
    obtain ⟨hverdict, hst', hmoves'⟩ := failSetup_path rig (Setup.steps rig settings s).2 e
    refine ⟨path, [], hallocates, fun _ => rfl, Nat.zero_le _, ?_⟩
    rw [drive_of_error rig settings s h, hpath, SetupPath.driven_of_some _ _ _ _ hpath, ← hst]
    exact ⟨hverdict, rfl, hst', hmoves.trans hmoves'⟩
  | ok began =>
    have hpath : path.error? = none := by rw [← herror, h]; rfl
    set s₁ := (Act.enter .acquiring (Setup.steps rig settings s).2).2 with hs₁
    have hst₁ := Act.standing_enter (Setup.steps rig settings s).2 .acquiring
    obtain ⟨taken, hlength, hanswer, hst'⟩ :=
      Watch.frames_path rig settings s₁ settings.targetFrames began .none
    have hmoves' := Act.watches_moves rig
      (Watch.frames_watches rig settings s₁ settings.targetFrames began .none)
    set s₂ := (Watch.frames rig settings settings.targetFrames began .none s₁).2 with hs₂
    have hcount : Progress.none.frames + taken.length = taken.length := Nat.zero_add _
    have hphase' : s₂.phase = .acquiring := congrArg Standing.phase hst'
    rw [hcount] at hanswer hst'
    refine ⟨path, taken, hallocates, fun hne => absurd hpath hne, hlength, ?_⟩
    rw [drive_of_ok rig settings s h, hpath, SetupPath.driven_of_none _ _ _ _ hpath]
    dsimp only
    rw [hanswer, ← hs₂]
    refine ⟨rfl, rfl, ?_, ((hmoves.trans (Act.enter_moves rig _ .acquiring)).trans hmoves').trans
      (Act.enter_moves rig _ _)⟩
    rw [Act.standing_enter, hphase', phase_of_verdict, hst', hs₁, hst₁, hst, hphase,
      List.length_map]
    unfold watchSteps Standing.did
    simp only [List.length_map, List.append_assoc]
    rfl

theorem stop_path (counters : HandlerCounters) :
    (∃ gaps : List RunStep,
      (∀ e ∈ gaps, ∃ events lost, e = .noted (.event (.gapsDetected events lost))) ∧
      (stop counters s).2.standing =
        { s.standing.did (.noted (.event (.transition s.phase .stopped)) :: gaps) with
          phase := .stopped }) ∧
      Moves rig s (stop counters s).2 := by
  unfold stop
  rw [Act.run_bind]
  have hentered := Act.standing_enter s .stopped
  by_cases h : 0 < counters.lostFrames
  · rw [if_pos h]
    refine ⟨⟨[.noted (.event (.gapsDetected counters.gapEvents counters.lostFrames))], ?_, ?_⟩,
      (Act.enter_moves rig s .stopped).trans (Act.log_moves rig _ _)⟩
    · exact fun e he => ⟨_, _, List.mem_singleton.mp he⟩
    · rw [Act.standing_log, hentered]
      unfold Standing.did
      simp only [List.append_assoc]
      rfl
  · rw [if_neg h]
    exact ⟨⟨[], by simp, hentered⟩, Act.enter_moves rig s .stopped⟩

/-- A run up to its outcome has a course. -/
theorem observe_course (run : ℕ) (hs : s.standing = .fresh) :
    ∃ path taken f, RunCourse rig settings s (observe rig settings run s).1
      (observe rig settings run s).2 path taken f := by
  obtain ⟨path, taken, hallocates, hunwatched, hshort, hverdict, hprogress, hst, hmoves⟩ :=
    drive_path rig settings s hs
  set s₁ := (drive rig settings s).2 with hs₁
  have hcamera : s₁.camera = none → s₁.registered = false := by
    show s₁.standing.camera = none → s₁.standing.registered = false
    rw [hst, SetupPath.camera_driven, SetupPath.registered_driven]
    exact path.registered_of_closed settings rig.logsOpening
  have hdue : s₁.tornDown = false :=
    (congrArg Standing.tornDown hst).trans (path.tornDown_driven settings _ _)
  obtain ⟨f, hmade, hleaks, hst₂, hmoves₂⟩ := Teardown.steps_path rig s₁ hcamera hdue
  set s₂ := (Teardown.steps rig s₁).2 with hs₂
  obtain ⟨⟨gaps, hgaps, hst₃⟩, hmoves₃⟩ := stop_path rig s₂ (Teardown.steps rig s₁).1.1
  have hrun : observe rig settings run s =
      ((observe rig settings run s).1, (stop (Teardown.steps rig s₁).1.1 s₂).2) := rfl
  have hprogress' : (observe rig settings run s).1.framesAcquired =
      (drive rig settings s).1.2.frames := rfl
  have hdegraded : (observe rig settings run s).1.degradedFrames =
      (drive rig settings s).1.2.degraded := rfl
  have hlastFrame : (observe rig settings run s).1.lastFrame =
      (drive rig settings s).1.2.lastFrame := rfl
  have hlastInterval : (observe rig settings run s).1.lastInterval =
      (drive rig settings s).1.2.lastInterval := rfl
  have hintervals : (observe rig settings run s).1.intervals =
      (drive rig settings s).1.2.intervals := rfl
  rw [hrun]
  refine ⟨path, taken, f, hallocates, hunwatched, hshort, hst, hmoves, hmoves₂.trans hmoves₃, ?_,
    rfl, hverdict, ?_, ?_, ?_, ?_, ?_, rfl, rfl, ⟨rfl, rfl⟩, ⟨_, rfl⟩, ?_,
    ⟨gaps, hgaps, ?_⟩⟩
  · rw [← hst]; exact hmade
  · rw [hprogress', hprogress, Progress.frames_recordAll]; exact Nat.zero_add _
  · rw [hdegraded, hprogress, Progress.degraded_recordAll]; exact Nat.zero_add _
  · rw [hlastFrame, hprogress, (Progress.last_recordAll _ taken).1]; exact Option.or_none
  · rw [hlastInterval, hprogress, (Progress.last_recordAll _ taken).2]; exact Option.or_none
  · rw [hintervals, hprogress, Progress.intervals_recordAll]; rfl
  · rw [← hst]; exact hleaks
  · have hphase : s₂.phase = s₁.standing.phase := congrArg Standing.phase hst₂
    rw [hst₃, hphase, hst₂, hst]
    rfl

/-- The run has given everything back when it goes out of scope. -/
theorem steps_eq_observe (run : ℕ) (hs : s.standing = .fresh) :
    steps rig settings run s = observe rig settings run s := by
  obtain ⟨path, taken, f, hcourse⟩ := observe_course rig settings s run hs
  obtain ⟨gaps, -, hst⟩ := hcourse.standing
  have hdone : (observe rig settings run s).2.tornDown = true := congrArg Standing.tornDown hst
  have hrun : steps rig settings run s = ((observe rig settings run s).1,
      (Teardown.steps rig (observe rig settings run s).2).2) := rfl
  rw [hrun, Teardown.steps_of_tornDown rig _ hdone]
  rfl

end Run

theorem Runner.run_eq_observe {σ : Type} (rig : Rig σ) (r : Runner σ) (number : ℕ) :
    (r.run rig number).1 =
        (Run.observe rig r.settings number (.initial r.rig r.mailbox.reset)).1 ∧
      (r.run rig number).2.1 =
        (Run.observe rig r.settings number (.initial r.rig r.mailbox.reset)).2 := by
  rw [← Run.steps_eq_observe rig _ _ _ rfl]
  exact ⟨rfl, rfl⟩

/-- **Courses.** Every run on every rig has a course. -/
theorem Runner.run_course {σ : Type} (rig : Rig σ) (r : Runner σ) (number : ℕ) :
    ∃ path taken f, RunCourse rig r.settings (.initial r.rig r.mailbox.reset)
      (r.run rig number).1 (r.run rig number).2.1 path taken f := by
  obtain ⟨houtcome, hstate⟩ := r.run_eq_observe rig number
  rw [houtcome, hstate]
  exact Run.observe_course rig r.settings _ number rfl

end FrameWatch
