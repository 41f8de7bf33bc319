import FrameWatch.Logging.Journal
import FrameWatch.Program.Complaint
import FrameWatch.Program.Help
import FrameWatch.Report
import FrameWatch.Settings.Validity
import FrameWatch.Simulator.Rig

/-!
# The probe

The whole program as a function of its surroundings: it reads its arguments and its settings,
connects to a camera, and makes runs until one does not complete. What it prints and logs, and how
it ends, is its result.
-/

namespace FrameWatch

/-- What the program finds when it starts. -/
structure Surroundings where
  arguments : List String
  /-- Environment variables by their names. -/
  environment : List (String × String)
  /-- The working directory. -/
  directory : String
  /-- The text of the file at a path from the root. -/
  read? : String → Option String
  allocator : Allocator
  now : Timestamp

/-- What the program does. -/
structure ProgramResult where
  output : String
  logFormat : LogFormat
  log : List LogEntry
  /-- What is told about an error that the program ends with. -/
  complaint : String
  exitCode : Nat
deriving DecidableEq

namespace ProgramResult

/-- A program that prints a text and ends well. -/
def ofOutput (output : String) : ProgramResult := ⟨output, .pretty, [], "", 0⟩

/-- A program that ends with a complaint. -/
def ofComplaint (complaint : String) (exitCode : Nat) : ProgramResult :=
  ⟨"", .pretty, [], complaint, exitCode⟩

/-- A program that ends with an error. -/
def ofError (e : ProbeError) : ProgramResult := ofComplaint (errorText e.describe e.causes) 1

/-- The result with a journal of what was logged. -/
def logged (r : ProgramResult) (format : LogFormat) (log : List LogEntry) : ProgramResult :=
  { r with logFormat := format, log := log }

end ProgramResult

/-! ### Settings -/

namespace CommandLine

/-- The settings with the options for the whole program. -/
def GlobalOptions.apply (o : GlobalOptions) (c : Settings.Config) : Settings.Config :=
  { c with
    camera := { c.camera with backend := o.backend.getD c.camera.backend }
    application :=
      { c.application with logFormat := o.logFormat.getD c.application.logFormat } }

/-- The settings with the options of the run command. -/
def RunOptions.apply (o : RunOptions) (c : Settings.Config) : Settings.Config :=
  { c with
    acquisition :=
      { c.acquisition with
        targetFrames := o.target.getD c.acquisition.targetFrames
        frameDeadline := o.deadline.getD c.acquisition.frameDeadline
        runs := o.runs.getD c.acquisition.runs }
    report := if o.json then ⟨.json⟩ else c.report }

/-- The settings with the options of a command. -/
def Command.apply (command : Command) (c : Settings.Config) : Settings.Config :=
  match command with
  | .run o => o.apply c
  | .list => c

/-- The path of the settings file. -/
def GlobalOptions.settingsPath (o : GlobalOptions) : String :=
  o.config.getD Settings.standardPath

end CommandLine

/-- The camera behind a backend. -/
def Backend.connect (backend : Backend) (behavior : SimulatorBehavior) :
    Except ProbeError Simulator :=
  match backend with
  | .mock => .ok (.fresh behavior true)
  | .pvcam => .error (.backendUnavailable "pvcam (rebuild with --features pvcam_hardware)")

namespace Probe

/-- The part of the program that the probe itself is logged by. -/
def source : String := "pvcam_stall_probe"

/-- The environment variable that spells out a filter for log lines. -/
def filterVariable : String := "RUST_LOG"

/-- What is logged before the camera is connected to. -/
def startLine (c : Settings.Config) : LogLine :=
  ⟨.info, source, "Starting stall probe",
    [("app", c.application.name), ("backend", c.camera.backend.label), ("camera", c.camera.name),
      ("target", toString c.acquisition.targetFrames),
      ("deadline", c.acquisition.frameDeadline.brief), ("runs", toString c.acquisition.runs)], []⟩

/-- What is logged behind several runs. -/
def finishLine (completed runs : Nat) : LogLine :=
  ⟨.info, source, "Probe finished",
    [("completed", toString completed), ("runs", toString runs)], []⟩

/-- Runs number `first` and on, at most so many, up to the first that does not complete; each with
the lines that it logs. -/
def runs {σ : Type} (rig : Rig σ) : Nat → Nat → Runner σ → List (Outcome × List LogLine)
  | _, 0, _ => []
  | first, count + 1, runner =>
    let (outcome, state, runner) := runner.run rig first
    let lines := (state.record.toList.filterMap RecordEntry.event?).map RunEvent.line
    (outcome, lines)
      :: if outcome.verdict = .completed then runs rig (first + 1) count runner else []

/-- The report in a format, as it is printed. -/
def print (format : ReportFormat) (r : Report) : String :=
  match format with
  | .text => r.text
  | .json => r.json ++ "\n"

/-- The exit status of the process for a code. A status is a byte; what is none counts as 1. -/
def exitStatus (code : Nat) : Nat := if code < 2 ^ 8 then code else 1

/-- Makes runs on a rig and reports on each. -/
def acquireOn {σ : Type} (rig : Rig σ) (start : σ) (c : Settings.Config) (journal : Journal) :
    ProgramResult :=
  let outcomes := runs rig 1 c.acquisition.runs (.fresh c.runSettings start)
  let reports := outcomes.map fun (o, _) => Report.ofOutcome o
  let watched := outcomes.flatMap fun (o, lines) => journal.within (runSpan o.camera o.run) lines
  let completed := (reports.filter fun r => r.exitCode = 0).length
  let finished :=
    if 1 < reports.length then journal.plain [finishLine completed reports.length] else []
  { output := String.join (reports.map (print c.report.format))
    logFormat := journal.config.format
    log := journal.plain [startLine c] ++ watched ++ finished
    complaint := ""
    exitCode := exitStatus (reports.getLast?.elim 0 Report.exitCode) }

/-- Connects to the camera, makes runs with it and reports on each. -/
def acquire (s : Surroundings) (c : Settings.Config) (journal : Journal) : ProgramResult :=
  match c.camera.backend.connect c.simulator with
  | .error e => (ProgramResult.ofError e).logged journal.config.format (journal.plain [startLine c])
  | .ok camera =>
    acquireOn (Simulation.rig Simulation.steady s.allocator) (.fresh camera .none s.now) c journal

/-- Lists the cameras that can be opened. -/
def list (c : Settings.Config) : ProgramResult :=
  match c.camera.backend.connect c.simulator with
  | .error e => .ofError e
  | .ok camera =>
    let lines := camera.enumerate.zipIdx.map fun (name, n) => toString n ++ ": " ++ name ++ "\n"
    .ofOutput (if lines.isEmpty then "No cameras found\n" else String.join lines)

/-- Carries out a command with the settings for it. -/
def perform (s : Surroundings) (command : CommandLine.Command) (c : Settings.Config) :
    ProgramResult :=
  match c.validate, LoggingConfig.ofConfig c with
  | .error reason, _ => .ofError (.invalid reason.describe)
  | .ok (), .error e => .ofError e
  | .ok (), .ok logging =>
    match command with
    | .list => list c
    | .run _ => acquire s c (.ofConfig logging (s.environment.lookup filterVariable))

/-- Carries out a command that the arguments ask for. -/
def execute (s : Surroundings) (o : CommandLine.GlobalOptions) (command : CommandLine.Command) :
    ProgramResult :=
  let file := Settings.SettingsFile.find? s.read? s.directory o.settingsPath
  match Settings.load file s.environment with
  | .error e =>
    let e : ProbeError := .load e
    .ofComplaint
      (errorText ("Failed to load configuration from " ++ o.settingsPath) (e.describe :: e.causes))
      1
  | .ok c => perform s command (command.apply (o.apply c))

/-- The whole program. -/
def program (s : Surroundings) : ProgramResult :=
  match CommandLine.parse s.arguments with
  | .command o command => execute s o command
  | .help topic long => .ofOutput (topic.text long)
  | .nothing => .ofComplaint (CommandLine.Topic.program.text false) 2
  | .misuse => .ofComplaint CommandLine.misuseNotice 2

/-- The places where the settings file may be, if the arguments ask for one. -/
def settingsPlaces (arguments : List String) (directory : String) : List Settings.Place :=
  match CommandLine.parse arguments with
  | .command o _ => Settings.places (Settings.pathParts directory) o.settingsPath
  | _ => []

end Probe

end FrameWatch
