import FrameWatch.Proofs.Program.Runs

/-!
# The exit status

How the program ends, for whatever it finds when it starts.

1. `Probe.begun?` are the settings that runs are made with, if the program comes that far, and
   `Probe.executed` is what these runs end in.
2. A program that comes to its runs ends with the status of the last one (`acquireOn_exitCode`), and
   without a complaint. One that does not ends as its arguments and its errors have it
   (`program_ends`).
3. `Probe.ExitLaw` puts both together. An error in front of all runs shares its status with a
   stalled run, and arguments that make no sense share theirs with a run whose setup fails
   (`Probe.status_shared`); only the complaint tells them apart.
-/

namespace FrameWatch

open CommandLine

/-! ## Settings that runs can be made with -/

/-- A configuration that passes the check asks for a run. -/
theorem Settings.Config.runs_ne_zero_of_valid {c : Settings.Config} (hvalid : c.validate = .ok ()) :
    c.acquisition.runs ≠ 0 := by
  have hgeneral := invalidity?_of_valid hvalid
  unfold invalidity? at hgeneral
  obtain ⟨-, hgeneral⟩ := not_and_of_ite_eq_none hgeneral
  obtain ⟨-, hgeneral⟩ := not_and_of_ite_eq_none hgeneral
  obtain ⟨-, hgeneral⟩ := not_and_of_ite_eq_none hgeneral
  obtain ⟨-, hgeneral⟩ := not_and_of_ite_eq_none hgeneral
  obtain ⟨-, hgeneral⟩ := not_and_of_ite_eq_none hgeneral
  obtain ⟨-, hgeneral⟩ := not_and_of_ite_eq_none hgeneral
  obtain ⟨-, hgeneral⟩ := not_and_of_ite_eq_none hgeneral
  exact (not_and_of_ite_eq_none hgeneral).1

namespace Probe

/-- The settings that a command is carried out with, if they can be read. -/
def settings? (s : Surroundings) (o : GlobalOptions) (command : Command) :
    Except LoadError Settings.Config :=
  (Settings.load (Settings.SettingsFile.find? s.read? s.directory o.settingsPath)
    s.environment).map fun c => command.apply (o.apply c)

/-- The settings that runs are made with, if the program comes that far. -/
def begun? (s : Surroundings) : Option Settings.Config :=
  match parse s.arguments with
  | .command o (.run options) =>
    (settings? s o (.run options)).toOption.filter fun c =>
      c.validate = .ok () ∧ c.camera.backend = .mock
  | _ => none

/-- The outcomes of the runs that settings ask for, on the simulated camera. -/
def outcomesOf (s : Surroundings) (c : Settings.Config) : List Outcome :=
  (runs (Simulation.rig Simulation.steady s.allocator) 1 c.acquisition.runs
    (.fresh c.runSettings (.fresh (.fresh c.simulator true) .none s.now))).map Prod.fst

/-- The outcomes of all runs that the program makes. -/
def executed (s : Surroundings) : List Outcome := (begun? s).elim [] (outcomesOf s)

/-! ## Programs that come to their runs -/

/-- On whatever rig runs are made, the last one decides how they end. -/
theorem acquireOn_exitCode {σ : Type} (rig : Rig σ) (start : σ) (c : Settings.Config)
    (journal : Journal) :
    (acquireOn rig start c journal).exitCode =
      ((runs rig 1 c.acquisition.runs (.fresh c.runSettings start)).map Prod.fst).getLast?.elim 0
        (·.verdict.status.exitCode) := by
  rw [acquireOn_exitCode_eq, List.getLast?_map, List.getLast?_map]
  cases (runs rig 1 c.acquisition.runs (.fresh c.runSettings start)).getLast? with
  | none => rfl
  | some last => exact exitStatus_exitCode (Report.ofOutcome last.1)

theorem runs_ne_nil {σ : Type} (rig : Rig σ) (first : ℕ) {count : ℕ} (hcount : count ≠ 0)
    (r : Runner σ) : runs rig first count r ≠ [] := by
  cases count with
  | zero => exact absurd rfl hcount
  | succ count => exact List.cons_ne_nil _ _

section Begun

variable {s : Surroundings} {c : Settings.Config} {o : GlobalOptions} {command : Command}

theorem execute_of_ok (h : settings? s o command = .ok c) :
    execute s o command = perform s command c := by
  unfold settings? at h
  unfold execute
  cases hload : Settings.load
    (Settings.SettingsFile.find? s.read? s.directory o.settingsPath) s.environment with
  | error e => rw [hload] at h; cases h
  | ok c' =>
    rw [hload] at h
    cases h
    dsimp only
    rw [hload]

theorem begun?_eq_some (h : begun? s = some c) :
    ∃ o options, parse s.arguments = .command o (.run options) ∧
      settings? s o (.run options) = .ok c ∧ c.validate = .ok () ∧ c.camera.backend = .mock := by
  unfold begun? at h
  split at h
  · rename_i o options hparse
    obtain ⟨hread, hfit⟩ := Option.filter_eq_some_iff.mp h
    obtain ⟨hvalid, hmock⟩ := of_decide_eq_true hfit
    refine ⟨o, options, hparse, ?_, hvalid, hmock⟩
    cases hsettings : settings? s o (.run options) with
    | error e => rw [hsettings] at hread; cases hread
    | ok c' => rw [hsettings] at hread; cases hread; rfl
  · cases h

/-- A program that has settings to make runs with makes them. -/
theorem program_of_begun (h : begun? s = some c) :
    outcomesOf s c ≠ [] ∧ (program s).complaint = "" ∧
      (program s).exitCode = (outcomesOf s c).getLast?.elim 0 (·.verdict.status.exitCode) := by
  obtain ⟨o, options, hparse, hsettings, hvalid, hmock⟩ := begun?_eq_some h
  obtain ⟨journal, hperform⟩ := perform_of_valid s options hmock hvalid
  have hprogram : program s = acquireOn (Simulation.rig Simulation.steady s.allocator)
      (.fresh (.fresh c.simulator true) .none s.now) c journal := by
    unfold program
    rw [hparse]
    exact (execute_of_ok hsettings).trans hperform
  rw [hprogram]
  refine ⟨?_, rfl, acquireOn_exitCode _ _ c journal⟩
  exact mt List.map_eq_nil_iff.mp
    (runs_ne_nil _ 1 (Settings.Config.runs_ne_zero_of_valid hvalid) _)

end Begun

/-! ## Programs that do not -/

theorem errorText_ne (message : String) (causes : List String) : errorText message causes ≠ "" := by
  unfold errorText
  dsimp only
  rw [List.cons_append, List.map_cons, String.join_cons]
  simp [String.append_eq_empty_iff]

/-- The program ends with an error. -/
def Fails (result : ProgramResult) : Prop := result.exitCode = 1 ∧ result.complaint ≠ ""

theorem fails_ofError (e : ProbeError) : Fails (.ofError e) := ⟨rfl, errorText_ne _ _⟩

theorem execute_of_error {s : Surroundings} {o : GlobalOptions} {command : Command} {e : LoadError}
    (h : settings? s o command = .error e) : Fails (execute s o command) := by
  unfold settings? at h
  unfold execute
  cases hload : Settings.load
    (Settings.SettingsFile.find? s.read? s.directory o.settingsPath) s.environment with
  | error e' =>
    dsimp only
    rw [hload]
    exact ⟨rfl, errorText_ne _ _⟩
  | ok c => rw [hload] at h; cases h

/-- Without valid settings for the simulated camera, the run command fails. -/
theorem fails_run (s : Surroundings) (options : RunOptions) {c : Settings.Config}
    (h : ¬(c.validate = .ok () ∧ c.camera.backend = .mock)) :
    Fails (perform s (.run options) c) := by
  unfold perform
  split
  · exact fails_ofError _
  · exact fails_ofError _
  · rename_i hvalid _
    have hbackend : c.camera.backend = .pvcam := by
      cases hbackend : c.camera.backend with
      | mock => exact absurd ⟨hvalid, hbackend⟩ h
      | pvcam => rfl
    show Fails (acquire s c _)
    unfold acquire
    rw [hbackend]
    exact fails_ofError _

/-- A list of cameras is given unless that fails. -/
theorem list_cases (s : Surroundings) (c : Settings.Config) :
    Fails (perform s .list c) ∨
      (perform s .list c).exitCode = 0 ∧ (perform s .list c).complaint = "" := by
  unfold perform
  split
  · exact .inl (fails_ofError _)
  · exact .inl (fails_ofError _)
  · show Fails (list c) ∨ (list c).exitCode = 0 ∧ (list c).complaint = ""
    unfold list
    split
    · exact .inl (fails_ofError _)
    · exact .inr ⟨rfl, rfl⟩

/-! ## How the program ends -/

/-- How a program can end. -/
inductive Ends (s : Surroundings) (result : ProgramResult) : Prop
  | ran (o : GlobalOptions) (options : RunOptions)
      (hparse : parse s.arguments = .command o (.run options)) (last : Outcome)
      (hlast : (executed s).getLast? = some last)
      (hcode : result.exitCode = last.verdict.status.exitCode) (hcomplaint : result.complaint = "")
  | failed (o : GlobalOptions) (command : Command) (hparse : parse s.arguments = .command o command)
      (hnone : executed s = []) (hfails : Fails result)
  /-- Help or a list of cameras was asked for. -/
  | answered (hparse : (∃ o, parse s.arguments = .command o .list) ∨
        ∃ topic long, parse s.arguments = .help topic long)
      (hnone : executed s = []) (hcode : result.exitCode = 0) (hcomplaint : result.complaint = "")
  | misused (hparse : parse s.arguments = .nothing ∨ parse s.arguments = .misuse)
      (hnone : executed s = []) (hcode : result.exitCode = 2) (hcomplaint : result.complaint ≠ "")

theorem executed_of_not_run {s : Surroundings}
    (h : ∀ o options, parse s.arguments ≠ .command o (.run options)) : executed s = [] := by
  unfold executed begun?
  split
  · rename_i o options hparse
    exact absurd hparse (h o options)
  · rfl

theorem ends_run (s : Surroundings) {o : GlobalOptions} {options : RunOptions}
    (hparse : parse s.arguments = .command o (.run options)) : Ends s (program s) := by
  cases hbegun : begun? s with
  | some c =>
    obtain ⟨hsome, hcomplaint, hcode⟩ := program_of_begun hbegun
    have hexecuted : executed s = outcomesOf s c := by unfold executed; rw [hbegun]; rfl
    obtain ⟨last, hlast⟩ := Option.ne_none_iff_exists'.mp (mt List.getLast?_eq_none_iff.mp hsome)
    rw [hlast] at hcode
    exact .ran o options hparse last (hexecuted ▸ hlast) hcode hcomplaint
  | none =>
    have hnone : executed s = [] := by unfold executed; rw [hbegun]; rfl
    have hprogram : program s = execute s o (.run options) := by unfold program; rw [hparse]
    refine .failed o (.run options) hparse hnone ?_
    rw [hprogram]
    -- either the settings cannot be read, or they are refused once they are
    cases hsettings : settings? s o (.run options) with
    | error e => exact execute_of_error hsettings
    | ok c =>
      rw [execute_of_ok hsettings]
      refine fails_run s options fun hfit => ?_
      unfold begun? at hbegun
      rw [hparse] at hbegun
      dsimp only at hbegun
      rw [hsettings] at hbegun
      simp [Except.toOption, Option.filter, hfit] at hbegun

theorem ends_list (s : Surroundings) {o : GlobalOptions}
    (hparse : parse s.arguments = .command o .list) : Ends s (program s) := by
  have hother : ∀ o options, parse s.arguments ≠ .command o (.run options) := by simp [hparse]
  have hprogram : program s = execute s o .list := by unfold program; rw [hparse]
  rw [hprogram]
  cases hsettings : settings? s o .list with
  | error e =>
    exact .failed o .list hparse (executed_of_not_run hother) (execute_of_error hsettings)
  | ok c =>
    rw [execute_of_ok hsettings]
    rcases list_cases s c with hfails | ⟨hcode, hcomplaint⟩
    · exact .failed o .list hparse (executed_of_not_run hother) hfails
    · exact .answered (.inl ⟨o, hparse⟩) (executed_of_not_run hother) hcode hcomplaint

theorem program_ends (s : Surroundings) : Ends s (program s) := by
  cases hparse : parse s.arguments with
  | command o command =>
    cases command with
    | run options => exact ends_run s hparse
    | list => exact ends_list s hparse
  | help topic long =>
    have hother : ∀ o options, parse s.arguments ≠ .command o (.run options) := by simp [hparse]
    have hprogram : program s = .ofOutput (topic.text long) := by unfold program; rw [hparse]
    rw [hprogram]
    exact .answered (.inr ⟨topic, long, hparse⟩) (executed_of_not_run hother) rfl rfl
  | nothing =>
    have hother : ∀ o options, parse s.arguments ≠ .command o (.run options) := by simp [hparse]
    have hprogram : program s = .ofComplaint (Topic.program.text false) 2 := by
      unfold program; rw [hparse]
    rw [hprogram]
    exact .misused (.inl hparse) (executed_of_not_run hother) rfl (by decide +kernel)
  | misuse =>
    have hother : ∀ o options, parse s.arguments ≠ .command o (.run options) := by simp [hparse]
    have hprogram : program s = .ofComplaint misuseNotice 2 := by unfold program; rw [hparse]
    rw [hprogram]
    exact .misused (.inr hparse) (executed_of_not_run hother) rfl (by decide +kernel)

/-- What the exit status tells about the runs that were made. -/
structure ExitLaw (s : Surroundings) (result : ProgramResult) : Prop where
  ran : ∀ last, (executed s).getLast? = some last →
    result.exitCode = last.verdict.status.exitCode ∧ result.complaint = ""
  /-- A run command that makes no run ends with an error. -/
  unrun : ∀ o options, parse s.arguments = .command o (.run options) → executed s = [] →
    Fails result
  one : result.exitCode = RunStatus.stalled.exitCode ↔
    (∃ last n, (executed s).getLast? = some last ∧ last.verdict = .stalled n) ∨
      (∃ o command, parse s.arguments = .command o command) ∧ result.complaint ≠ ""
  two : result.exitCode = RunStatus.setupFailed.exitCode ↔
    (∃ last e diagnostic, (executed s).getLast? = some last ∧
      last.verdict = .setupFailed e diagnostic) ∨
      parse s.arguments = .nothing ∨ parse s.arguments = .misuse
  /-- Without a complaint, the status of a run command is that of its last run. -/
  identified : ∀ o options, parse s.arguments = .command o (.run options) →
    result.complaint = "" → ∃ last, (executed s).getLast? = some last ∧
      result.exitCode = last.verdict.status.exitCode

theorem exitCode_eq_one_iff {v : Verdict} :
    v.status.exitCode = RunStatus.stalled.exitCode ↔ ∃ n, v = .stalled n := by
  cases v <;> simp [Verdict.status, RunStatus.exitCode]

theorem exitCode_eq_two_iff {v : Verdict} :
    v.status.exitCode = RunStatus.setupFailed.exitCode ↔
      ∃ e diagnostic, v = .setupFailed e diagnostic := by
  cases v <;> simp [Verdict.status, RunStatus.exitCode]

namespace Ends

variable {s : Surroundings} {result : ProgramResult}

theorem one_iff (h : Ends s result) : result.exitCode = RunStatus.stalled.exitCode ↔
    (∃ last n, (executed s).getLast? = some last ∧ last.verdict = .stalled n) ∨
      (∃ o command, parse s.arguments = .command o command) ∧ result.complaint ≠ "" := by
  cases h with
  | ran o options hparse last hlast hcode hcomplaint =>
    rw [hcode, exitCode_eq_one_iff, hlast]
    simp [hcomplaint]
  | failed o command hparse hnone hfails =>
    exact ⟨fun _ => .inr ⟨⟨o, command, hparse⟩, hfails.2⟩, fun _ => hfails.1⟩
  | answered hparse hnone hcode hcomplaint => simp [hnone, hcode, hcomplaint, RunStatus.exitCode]
  | misused hparse hnone hcode hcomplaint =>
    rcases hparse with hparse | hparse <;> simp [hparse, hnone, hcode, RunStatus.exitCode]

theorem two_iff (h : Ends s result) : result.exitCode = RunStatus.setupFailed.exitCode ↔
    (∃ last e diagnostic, (executed s).getLast? = some last ∧
      last.verdict = .setupFailed e diagnostic) ∨
      parse s.arguments = .nothing ∨ parse s.arguments = .misuse := by
  cases h with
  | ran o options hparse last hlast hcode hcomplaint =>
    rw [hcode, exitCode_eq_two_iff, hlast]
    simp [hparse]
  | failed o command hparse hnone hfails =>
    simp [hparse, hnone, hfails.1, RunStatus.exitCode]
  | answered hparse hnone hcode hcomplaint =>
    rcases hparse with ⟨o, hparse⟩ | ⟨topic, long, hparse⟩ <;>
      simp [hparse, hnone, hcode, RunStatus.exitCode]
  | misused hparse hnone hcode hcomplaint => exact ⟨fun _ => .inr hparse, fun _ => hcode⟩

/-- What the exit status tells follows from the way in which the program ends. -/
theorem law (h : Ends s result) : ExitLaw s result where
  ran last hlast := by
    cases h with
    | ran _ _ _ last' hlast' hcode hcomplaint =>
      obtain rfl : last' = last := Option.some.inj (hlast'.symm.trans hlast)
      exact ⟨hcode, hcomplaint⟩
    | _ => simp_all
  unrun o options hparse hnone := by
    cases h with
    | failed _ _ _ _ hfails => exact hfails
    | _ => simp_all
  one := h.one_iff
  two := h.two_iff
  identified o options hparse hcomplaint := by
    cases h with
    | ran _ _ _ last hlast hcode => exact ⟨last, hlast, hcode⟩
    | failed _ _ _ _ hfails => exact absurd hcomplaint hfails.2
    | answered hother => rw [hparse] at hother; simp at hother
    | misused _ _ _ hother => exact absurd hcomplaint hother

end Ends

/-- **Exit status.** For whatever arguments, settings and environment: where runs are made, the last
one decides the status. The status of a stalled run may also stand for an error in front of all
runs, and that of a run whose setup fails for arguments that make no sense; these two come with a
complaint. -/
theorem exit_law (s : Surroundings) : ExitLaw s (program s) := (program_ends s).law

/-- Nothing but arguments on a machine. -/
def told (arguments : List String) : Surroundings :=
  { bareSurroundings with arguments := arguments }

/-- Settings are the built-in ones where nothing else is found. -/
theorem settings?_told (arguments : List String) (o : GlobalOptions) (command : Command) :
    settings? (told arguments) o command = .ok (command.apply (o.apply .standard)) := by
  have hnone : Settings.SettingsFile.find? (told arguments).read? (told arguments).directory
      o.settingsPath = none := by
    unfold Settings.SettingsFile.find?
    rw [List.findSome?_eq_none_iff]
    exact fun place _ => rfl
  unfold settings?
  rw [hnone]
  rfl

/-- An error in front of all runs and arguments that make no sense have the status of a verdict. -/
theorem status_shared :
    (program (told ["run", "--target", "0"])).exitCode = RunStatus.stalled.exitCode ∧
      executed (told ["run", "--target", "0"]) = [] ∧
      (program (told ["run", "--bogus"])).exitCode = RunStatus.setupFailed.exitCode ∧
      executed (told ["run", "--bogus"]) = [] := by
  have hread : parse ["run", "--target", "0"] =
      .command .none (.run { RunOptions.none with target := some 0 }) := by decide +kernel
  have hmisread : parse ["run", "--bogus"] = .misuse := by decide +kernel
  have hunrun : executed (told ["run", "--bogus"]) = [] := executed_of_not_run (by
    show ∀ o options, parse ["run", "--bogus"] ≠ .command o (.run options)
    simp [hmisread])
  have hbegun : begun? (told ["run", "--target", "0"]) = none := by
    unfold begun?
    rw [show (told ["run", "--target", "0"]).arguments = ["run", "--target", "0"] from rfl, hread]
    dsimp only
    rw [settings?_told]
    decide +kernel
  have hnone : executed (told ["run", "--target", "0"]) = [] := by
    unfold executed
    rw [hbegun]
    rfl
  exact ⟨((program_ends _).law.unrun _ _ hread hnone).1, hnone,
    (program_ends _).two_iff.mpr (.inr (.inr hmisread)), hunrun⟩

end Probe

end FrameWatch
