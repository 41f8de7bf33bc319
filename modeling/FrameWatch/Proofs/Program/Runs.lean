import FrameWatch.Proofs.Settings.Valid
import FrameWatch.Proofs.Text.Keys
import FrameWatch.Program.Probe

/-!
# Several runs

What the run command makes of a sequence of runs.

1. `Runner.behind` is the one runner behind some runs, and `Runner.outcome` what its next run ends
   in. The runs that are made are the first ones, up to one that does not complete or up to the last
   that was asked for (`Probe.runs_spec`).
2. `Report.tells`: either form of a report begins with the number of the run and tells how it ended,
   so that the reports can be told apart in what is printed (`Probe.acquireOn_of_runs`).
3. The exit status is that of the last report. As no report but the last can be on a run that did
   not complete, it tells whether all did (`Probe.acquireOn_reported`).
4. `Probe.run_command` puts all of it together for the command.
-/

namespace FrameWatch

variable {σ : Type} {rig : Rig σ} {r : Runner σ}

/-! ## One runner -/

namespace Runner

/-- The runner behind so many runs that are numbered from `first` on. -/
def behind (rig : Rig σ) (first : ℕ) (r : Runner σ) : ℕ → Runner σ
  | 0 => r
  | k + 1 => ((r.behind rig first k).run rig (first + k)).2.2

/-- The outcome of the run behind `k` others. -/
def outcome (rig : Rig σ) (first : ℕ) (r : Runner σ) (k : ℕ) : Outcome :=
  ((r.behind rig first k).run rig (first + k)).1

theorem behind_succ (rig : Rig σ) (first : ℕ) (r : Runner σ) (k : ℕ) :
    r.behind rig first (k + 1) = (r.run rig first).2.2.behind rig (first + 1) k := by
  induction k with
  | zero => rfl
  | succ k ih =>
    show ((r.behind rig first (k + 1)).run rig (first + (k + 1))).2.2 = _
    rw [ih, show first + (k + 1) = first + 1 + k by omega]
    rfl

theorem outcome_succ (rig : Rig σ) (first : ℕ) (r : Runner σ) (k : ℕ) :
    r.outcome rig first (k + 1) = (r.run rig first).2.2.outcome rig (first + 1) k := by
  unfold outcome
  rw [behind_succ, show first + (k + 1) = first + 1 + k by omega]

end Runner

/-! ## What a report tells -/

/-- The word that a headline begins with. -/
def RunStatus.word : RunStatus → String
  | completed => "COMPLETED"
  | stalled => "STALLED"
  | setupFailed => "SETUP FAILED"

namespace Report

/-- Either form of the report begins with the number of the run, and tells how it ended. -/
structure Tells (report : Report) (number : ℕ) : Prop where
  text : ∃ rest, report.text = "Run " ++ toString number ++ " on " ++ report.camera ++ ": " ++
    report.headline ++ "\n" ++ rest
  headline : ∃ rest, report.headline = report.status.word ++ rest
  json : ∃ rest, report.json = "\x7b\n  \"run\": " ++ toString number ++ "," ++ rest
  status : ∃ before rest, report.json =
    before ++ "\n  \"status\": \"" ++ report.status.name ++ "\"" ++ rest

variable (report : Report)

theorem exists_text_eq : ∃ rest, report.text = "Run " ++ toString report.run ++ " on " ++
    report.camera ++ ": " ++ report.headline ++ "\n" ++ rest := by
  obtain ⟨lines, hlines⟩ : ∃ lines, report.lines =
      ("Run " ++ toString report.run ++ " on " ++ report.camera ++ ": " ++ report.headline) ::
        lines := ⟨_, rfl⟩
  refine ⟨String.join (lines.map (· ++ "\n")), ?_⟩
  unfold text
  rw [hlines, List.map_cons, String.join_cons]

theorem exists_headline_eq : ∃ rest, report.headline = report.status.word ++ rest := by
  unfold headline
  cases report.status with
  | completed =>
    simp only [String.append_assoc]
    exact ⟨": " ++ _, rfl⟩
  | stalled =>
    simp only [String.append_assoc]
    exact ⟨" at frame " ++ _, rfl⟩
  | setupFailed => exact ⟨" at stage " ++ _, rfl⟩

/-- The first field of the document is the number of the run. -/
theorem exists_json_eq :
    ∃ rest, report.json = "\x7b\n  \"run\": " ++ toString report.run ++ "," ++ rest := by
  obtain ⟨f, fields, hfields⟩ : ∃ f fields,
      report.fields = ("run", .integer report.run) :: f :: fields := ⟨_, _, rfl⟩
  have hopening : "\x7b\n  \"run\": ".toList = '\x7b' :: '\n' :: Json.opening "run" := by decide
  refine ⟨String.ofList (Json.line f ++ (Json.writeFields 0 fields).toList ++
    (Json.newline 0 ++ "\x7d").toList), ?_⟩
  rw [← String.toList_inj, json, document, hfields, Json.toList_write_object,
    Json.toList_writeFields_cons]
  simp only [String.toList_append, String.toList_ofList, hopening, Json.line, List.append_assoc,
    List.cons_append]
  rfl

theorem exists_json_status_eq : ∃ before rest, report.json =
    before ++ "\n  \"status\": \"" ++ report.status.name ++ "\"" ++ rest := by
  have hmem : ("status", Json.text report.status.name) ∈ report.fields :=
    List.mem_of_getElem? (i := 4) rfl
  have hsimple : Json.Simple report.status.name := by cases report.status <;> decide
  obtain ⟨before, rest, hline⟩ := Json.line_infix_write hmem
  refine ⟨String.ofList before, String.ofList rest, ?_⟩
  rw [← String.toList_inj, json, document, ← hline, Json.line, Json.writeAt,
    Json.quote_of_simple hsimple]
  simp only [String.toList_append, String.toList_ofList, List.append_assoc, List.cons_append]
  rfl

theorem tells : report.Tells report.run where
  text := report.exists_text_eq
  headline := report.exists_headline_eq
  json := report.exists_json_eq
  status := report.exists_json_status_eq

end Report

namespace Probe

/-- The first `n` of at most `count` runs are those that are made: all but the last complete, and
the last does only if there is no run left to be made. -/
structure Stops (outcome : ℕ → Outcome) (count n : ℕ) : Prop where
  bounded : n ≤ count
  completed : ∀ k, k + 1 < n → (outcome k).verdict = .completed
  exhausted : n < count → ∃ k, n = k + 1 ∧ (outcome k).verdict ≠ .completed

theorem Stops.succ {outcome : ℕ → Outcome} {count n : ℕ}
    (h : Stops (fun k => outcome (k + 1)) count n) (hfirst : (outcome 0).verdict = .completed) :
    Stops outcome (count + 1) (n + 1) where
  bounded := Nat.succ_le_succ h.bounded
  completed k hk := by
    cases k with
    | zero => exact hfirst
    | succ k => exact h.completed k (by omega)
  exhausted hn := by
    obtain ⟨k, hk, hfailed⟩ := h.exhausted (by omega)
    exact ⟨k + 1, by omega, hfailed⟩

/-- The runs that are made are the first ones of one runner, up to the one where they stop. -/
theorem runs_spec (rig : Rig σ) (first count : ℕ) (r : Runner σ) :
    ∃ n, Stops (r.outcome rig first) count n ∧
      (runs rig first count r).map Prod.fst = (List.range n).map (r.outcome rig first) := by
  induction count generalizing first r with
  | zero => exact ⟨0, ⟨le_rfl, fun k hk => by omega, fun hn => by omega⟩, rfl⟩
  | succ count ih =>
    by_cases hfirst : (r.run rig first).1.verdict = .completed
    · obtain ⟨n, hstops, houtcomes⟩ := ih (first + 1) (r.run rig first).2.2
      have hshift : (r.run rig first).2.2.outcome rig (first + 1) =
          fun k => r.outcome rig first (k + 1) := funext fun k => (r.outcome_succ rig first k).symm
      rw [hshift] at hstops houtcomes
      refine ⟨n + 1, hstops.succ hfirst, ?_⟩
      unfold runs
      dsimp only
      rw [if_pos hfirst, List.map_cons, houtcomes, List.range_succ_eq_map, List.map_cons,
        List.map_map]
      rfl
    · refine ⟨1, ⟨by omega, fun k hk => by omega, fun _ => ⟨0, rfl, hfirst⟩⟩, ?_⟩
      unfold runs
      dsimp only
      rw [if_neg hfirst]
      rfl

/-! ## The exit status -/

/-- The report on the run behind `k` others. -/
def reportOf (rig : Rig σ) (start : σ) (c : Settings.Config) (k : ℕ) : Report :=
  .ofOutcome ((Runner.fresh c.runSettings start).outcome rig 1 k)

theorem exitCode_eq_zero_iff {report : Report} :
    report.exitCode = 0 ↔ report.status = .completed := by
  unfold Report.exitCode
  cases report.status <;> decide

theorem exitCode_of_ne_completed {report : Report} (h : report.status ≠ .completed) :
    report.status = .stalled ∧ report.exitCode = 1 ∨
      report.status = .setupFailed ∧ report.exitCode = 2 := by
  unfold Report.exitCode
  cases hstatus : report.status with
  | completed => exact absurd hstatus h
  | stalled => exact .inl ⟨rfl, rfl⟩
  | setupFailed => exact .inr ⟨rfl, rfl⟩

theorem exitStatus_exitCode (report : Report) : exitStatus report.exitCode = report.exitCode := by
  unfold Report.exitCode
  cases report.status <;> rfl

theorem status_reportOf_iff {start : σ} {c : Settings.Config} {k : ℕ} :
    (reportOf rig start c k).status = .completed ↔
      ((Runner.fresh c.runSettings start).outcome rig 1 k).verdict = .completed := by
  show ((Runner.fresh c.runSettings start).outcome rig 1 k).verdict.status = .completed ↔ _
  cases ((Runner.fresh c.runSettings start).outcome rig 1 k).verdict <;> simp [Verdict.status]

theorem acquireOn_exitCode_eq (rig : Rig σ) (start : σ) (c : Settings.Config) (journal : Journal) :
    (acquireOn rig start c journal).exitCode = exitStatus
      (((runs rig 1 c.acquisition.runs (.fresh c.runSettings start)).map fun (o, _) =>
        Report.ofOutcome o).getLast?.elim 0 Report.exitCode) := rfl

/-- What is printed after `n` runs, and the status that the process exits with. -/
theorem acquireOn_of_runs {start : σ} {c : Settings.Config} (journal : Journal) {n : ℕ}
    (houtcomes : (runs rig 1 c.acquisition.runs (.fresh c.runSettings start)).map Prod.fst =
      (List.range n).map ((Runner.fresh c.runSettings start).outcome rig 1)) :
    (acquireOn rig start c journal).output =
        String.join ((List.range n).map fun k => print c.report.format (reportOf rig start c k)) ∧
      (n = 0 → (acquireOn rig start c journal).exitCode = 0) ∧
      ∀ k, n = k + 1 →
        (acquireOn rig start c journal).exitCode = (reportOf rig start c k).exitCode := by
  have hreports : (runs rig 1 c.acquisition.runs (.fresh c.runSettings start)).map
      (fun (o, _) => Report.ofOutcome o) = (List.range n).map (reportOf rig start c) := by
    have hcompose := congrArg (List.map Report.ofOutcome) houtcomes
    rwa [List.map_map, List.map_map] at hcompose
  have hexit : (acquireOn rig start c journal).exitCode =
      exitStatus (((List.range n).map (reportOf rig start c)).getLast?.elim 0 Report.exitCode) := by
    rw [acquireOn_exitCode_eq, hreports]
  refine ⟨?_, ?_, ?_⟩
  · show String.join (List.map _ (List.map _ (runs rig _ _ _))) = _
    rw [hreports, List.map_map]
    rfl
  · rintro rfl
    exact hexit
  · rintro k rfl
    rw [hexit, List.range_succ, List.map_append, List.map_singleton, List.getLast?_concat]
    exact exitStatus_exitCode _

/-! ## The run command -/

/-- What the run command comes to: `n` runs of one runner, with a report on each, up to the first
that does not complete or up to the number that is set. -/
structure RunsReported (rig : Rig σ) (start : σ) (c : Settings.Config) (n : ℕ)
    (result : ProgramResult) : Prop where
  made : (runs rig 1 c.acquisition.runs (.fresh c.runSettings start)).map Prod.fst =
    (List.range n).map ((Runner.fresh c.runSettings start).outcome rig 1)
  numbered : ∀ k < n, (reportOf rig start c k).run = k + 1
  bounded : n ≤ c.acquisition.runs
  goesOn : ∀ k, k + 1 < n → (reportOf rig start c k).status = .completed
  stops : n < c.acquisition.runs →
    ∃ k, n = k + 1 ∧ (reportOf rig start c k).status ≠ .completed
  /-- One report for every run is printed, in the order of the runs, in the form that is set. -/
  text : c.report.format = .text →
    result.output = String.join ((List.range n).map fun k => (reportOf rig start c k).text)
  json : c.report.format = .json →
    result.output = String.join ((List.range n).map fun k => (reportOf rig start c k).json ++ "\n")
  told : ∀ k < n, (reportOf rig start c k).Tells (k + 1)
  succeeds : result.exitCode = 0 ↔
    n = c.acquisition.runs ∧ ∀ k < n, (reportOf rig start c k).status = .completed
  fails : result.exitCode ≠ 0 →
    ∃ k, n = k + 1 ∧ (∀ j < k, (reportOf rig start c j).status = .completed) ∧
      ((reportOf rig start c k).status = .stalled ∧ result.exitCode = 1 ∨
        (reportOf rig start c k).status = .setupFailed ∧ result.exitCode = 2)

theorem acquireOn_reported (rig : Rig σ) (start : σ) (c : Settings.Config) (journal : Journal) :
    ∃ n, RunsReported rig start c n (acquireOn rig start c journal) := by
  obtain ⟨n, hstops, hmade⟩ := runs_spec rig 1 c.acquisition.runs (.fresh c.runSettings start)
  obtain ⟨hprinted, hnone, hlast⟩ := acquireOn_of_runs journal hmade
  have hgoesOn : ∀ k, k + 1 < n → (reportOf rig start c k).status = .completed := fun k hk =>
    status_reportOf_iff.mpr (hstops.completed k hk)
  have hfailed : n < c.acquisition.runs →
      ∃ k, n = k + 1 ∧ (reportOf rig start c k).status ≠ .completed := by
    intro hn
    obtain ⟨k, hk, hverdict⟩ := hstops.exhausted hn
    exact ⟨k, hk, fun hstatus => hverdict (status_reportOf_iff.mp hstatus)⟩
  have hnumber : ∀ k, (reportOf rig start c k).run = k + 1 := fun k => Nat.add_comm 1 k
  refine ⟨n, hmade, fun k _ => hnumber k, hstops.bounded, hgoesOn, hfailed, fun htext => ?text,
    fun hjson => ?json, fun k _ => hnumber k ▸ (reportOf rig start c k).tells, ⟨fun hzero => ?all,
      fun hall => ?zero⟩, fun hne => ?fails⟩
  case text =>
    rw [hprinted, htext]
    rfl
  case json =>
    rw [hprinted, hjson]
    rfl
  case all =>
    have hall : ∀ k < n, (reportOf rig start c k).status = .completed := by
      intro k hk
      obtain hend | hbefore : n = k + 1 ∨ k + 1 < n := by omega
      · exact exitCode_eq_zero_iff.mp ((hlast k hend).symm.trans hzero)
      · exact hgoesOn k hbefore
    refine ⟨hstops.bounded.antisymm (not_lt.mp fun hn => ?_), hall⟩
    obtain ⟨k, hk, hstatus⟩ := hfailed hn
    exact hstatus (hall k (by omega))
  case zero =>
    cases hn : n with
    | zero => exact hnone hn
    | succ k => exact (hlast k hn).trans (exitCode_eq_zero_iff.mpr (hall.2 k (by omega)))
  case fails =>
    cases hn : n with
    | zero => exact absurd (hnone hn) hne
    | succ k =>
      rw [hlast k hn] at hne ⊢
      exact ⟨k, rfl, fun j hj => hgoesOn j (by omega),
        exitCode_of_ne_completed (mt exitCode_eq_zero_iff.mpr hne)⟩

/-- With valid settings for the simulated camera, the run command makes runs on it. -/
theorem perform_of_valid (s : Surroundings) (o : CommandLine.RunOptions) {c : Settings.Config}
    (hmock : c.camera.backend = .mock) (hvalid : c.validate = .ok ()) :
    ∃ journal, perform s (.run o) c =
      acquireOn (Simulation.rig Simulation.steady s.allocator)
        (.fresh (.fresh c.simulator true) .none s.now) c journal := by
  obtain ⟨logging, hlogging⟩ := Settings.Config.logging_of_valid hvalid
  refine ⟨.ofConfig logging (s.environment.lookup filterVariable), ?_⟩
  unfold perform
  rw [hvalid, hlogging]
  show acquire s c _ = _
  unfold acquire
  rw [Settings.Config.connect_of_mock hmock]

/-- What the run command does with settings for the simulated camera. -/
structure RunCommand (s : Surroundings) (o : CommandLine.RunOptions) (c : Settings.Config) :
    Prop where
  /-- Settings that are not valid lead to an error before any run. -/
  refused : ∀ reason, c.validate = .error reason →
    perform s (.run o) c = .ofError (.invalid reason.describe) ∧
      (perform s (.run o) c).output = "" ∧ (perform s (.run o) c).log = [] ∧
      (perform s (.run o) c).exitCode = 1
  /-- Else runs are made on the simulated camera. -/
  accepted : c.validate = .ok () → ∃ journal, perform s (.run o) c =
    acquireOn (Simulation.rig Simulation.steady s.allocator)
      (.fresh (.fresh c.simulator true) .none s.now) c journal
  /-- On whatever rig the runs are made, they are made one after the other and reported, and the
  last report decides how the program ends. -/
  reported : ∀ {σ : Type} (rig : Rig σ) (start : σ) (journal : Journal),
    ∃ n, RunsReported rig start c n (acquireOn rig start c journal)

/-- **Several runs.** With settings that are not valid no run is made and nothing is printed. With
valid ones, runs of one runner are made up to the first that does not complete, or as many as are
set, each with its report; the program ends well just if all of those complete, and otherwise with
the exit code of the last report, the only one on a run that did not. -/
theorem run_command (s : Surroundings) (o : CommandLine.RunOptions) (c : Settings.Config)
    (hmock : c.camera.backend = .mock) : RunCommand s o c where
  refused reason hvalid := by
    have hperform : perform s (.run o) c = .ofError (.invalid reason.describe) := by
      unfold perform
      rw [hvalid]
    rw [hperform]
    exact ⟨rfl, rfl, rfl, rfl⟩
  accepted := perform_of_valid s o hmock
  reported rig start journal := acquireOn_reported rig start c journal

/-- Settings for three runs with a camera that stays silent. -/
def silentConfig : Settings.Config :=
  let standard := Settings.Config.standard
  { standard with
    acquisition := { standard.acquisition with runs := 3 }
    simulator := { standard.simulator with stopAfter := some 0 } }

/-- A machine with nothing on it. -/
def bareSurroundings : Surroundings :=
  ⟨[], [], "/", fun _ => none, fun _ => some 4096, ⟨0, 0⟩⟩

/-- The simulated camera behind these settings on that machine. -/
def silentStart : Simulation :=
  .fresh (.fresh silentConfig.simulator true) .none bareSurroundings.now

/-- The rig on that machine. -/
def bareRig : Rig Simulation := Simulation.rig Simulation.steady bareSurroundings.allocator

/-- The first of the three runs is the only one, and the report on it is all that is printed. -/
theorem run_command_silent :
    silentConfig.camera.backend = .mock ∧ silentConfig.validate = .ok () ∧
      RunCommand bareSurroundings .none silentConfig ∧
      (perform bareSurroundings (.run .none) silentConfig).exitCode = 1 ∧
      (perform bareSurroundings (.run .none) silentConfig).output =
        (reportOf bareRig silentStart silentConfig 0).text ∧
      ∃ rest, (perform bareSurroundings (.run .none) silentConfig).output =
        "Run 1 on PMUSBCam00: STALLED at frame 1 (0 frames acquired, deadline 2s)\n" ++ rest := by
  have hvalid : silentConfig.validate = .ok () := by decide +kernel
  have hcommand := run_command bareSurroundings .none silentConfig rfl
  obtain ⟨journal, hperform⟩ : ∃ journal, perform bareSurroundings (.run .none) silentConfig =
      acquireOn bareRig silentStart silentConfig journal := hcommand.accepted hvalid
  obtain ⟨n, hreported⟩ := hcommand.reported bareRig silentStart journal
  have hone : n = 1 := by
    have hlength := congrArg List.length hreported.made
    rw [List.length_map, List.length_map, List.length_range] at hlength
    rw [← hlength]
    decide +kernel
  subst hone
  have houtput : (acquireOn bareRig silentStart silentConfig journal).output =
      (reportOf bareRig silentStart silentConfig 0).text := by
    rw [hreported.text rfl, List.range_one, List.map_singleton, String.join_cons, String.join_nil,
      String.append_empty]
  obtain ⟨rest, htext⟩ := (hreported.told 0 Nat.one_pos).text
  have hline : "Run " ++ toString (0 + 1) ++ " on " ++
      (reportOf bareRig silentStart silentConfig 0).camera ++ ": " ++
        (reportOf bareRig silentStart silentConfig 0).headline ++ "\n" =
      "Run 1 on PMUSBCam00: STALLED at frame 1 (0 frames acquired, deadline 2s)\n" := by
    decide +kernel
  rw [hperform]
  refine ⟨rfl, hvalid, hcommand, ?exit, houtput, rest, ?line⟩
  case exit =>
    rw [acquireOn_exitCode_eq]
    decide +kernel
  case line =>
    rw [houtput, htext, hline]

end Probe

end FrameWatch
