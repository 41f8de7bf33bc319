import FrameWatch.Settings.Decode
import FrameWatch.Simulator.Behavior

/-!
# The configuration

All settings of the program in their sections, the built-in value of each, and how each is decoded.
-/

namespace FrameWatch

/-- How log lines are written. -/
inductive LogFormat
  /-- Several lines, in colour. -/
  | pretty
  /-- One line. -/
  | compact
  /-- One JSON object a line. -/
  | json
deriving DecidableEq, Repr

namespace LogFormat

/-- The name in settings. -/
def name : LogFormat → String
  | pretty => "pretty"
  | compact => "compact"
  | json => "json"

/-- The name in descriptions of the logging configuration. -/
def label : LogFormat → String
  | pretty => "Pretty"
  | compact => "Compact"
  | json => "Json"

/-- All formats. -/
def all : List LogFormat := [pretty, compact, json]

end LogFormat

/-- What drives the camera. -/
inductive Backend
  /-- The simulated camera. -/
  | mock
  /-- A camera driver, which this program has none of. -/
  | pvcam
deriving DecidableEq, Repr

namespace Backend

/-- The name in settings. -/
def name : Backend → String
  | mock => "mock"
  | pvcam => "pvcam"

/-- The name in logs. -/
def label : Backend → String
  | mock => "Mock"
  | pvcam => "Pvcam"

/-- All backends. -/
def all : List Backend := [mock, pvcam]

end Backend

/-- How reports are written. -/
inductive ReportFormat
  | text | json
deriving DecidableEq, Repr

namespace ReportFormat

/-- The name in settings. -/
def name : ReportFormat → String
  | text => "text"
  | json => "json"

/-- The name in descriptions. -/
def label : ReportFormat → String
  | text => "Text"
  | json => "Json"

/-- All formats. -/
def all : List ReportFormat := [text, json]

end ReportFormat

namespace Settings

/-- Settings of the program itself. -/
structure ApplicationConfig where
  name : String
  logLevel : String
  logFormat : LogFormat
deriving DecidableEq

/-- Which camera, and how it is set up. -/
structure CameraConfig where
  backend : Backend
  name : String
  region : Region
  exposureMode : ExposureMode
  exposureMs : Nat
deriving DecidableEq

/-- Length, deadline and buffer of runs, and how many there are. -/
structure AcquisitionConfig where
  targetFrames : Nat
  frameDeadline : Duration
  bufferFrames : Nat
  bufferLimit : Option Nat
  bufferPolicy : BufferPolicy
  progressEvery : Nat
  runs : Nat
deriving DecidableEq

/-- How reports are written. -/
structure ReportConfig where
  format : ReportFormat
deriving DecidableEq

/-- All settings. -/
structure Config where
  application : ApplicationConfig
  camera : CameraConfig
  acquisition : AcquisitionConfig
  report : ReportConfig
  simulator : SimulatorBehavior
deriving DecidableEq

/-- The built-in settings. -/
def Config.standard : Config where
  application := ⟨"PVCAM Stall Probe", "info", .pretty⟩
  camera :=
    { backend := .mock
      name := RunSettings.standard.camera
      region := RunSettings.standard.region
      exposureMode := RunSettings.standard.exposureMode
      exposureMs := RunSettings.standard.exposureMs }
  acquisition :=
    { targetFrames := RunSettings.standard.targetFrames
      frameDeadline := RunSettings.standard.frameDeadline
      bufferFrames := RunSettings.standard.bufferFrames
      bufferLimit := RunSettings.standard.bufferLimit
      bufferPolicy := RunSettings.standard.bufferPolicy
      progressEvery := RunSettings.standard.progressEvery
      runs := 1 }
  report := ⟨.text⟩
  simulator := .standard

/-- The settings of a single run. -/
def Config.runSettings (c : Config) : RunSettings where
  camera := c.camera.name
  region := c.camera.region
  exposureMode := c.camera.exposureMode
  exposureMs := c.camera.exposureMs
  bufferPolicy := c.acquisition.bufferPolicy
  bufferFrames := c.acquisition.bufferFrames
  bufferLimit := c.acquisition.bufferLimit
  targetFrames := c.acquisition.targetFrames
  frameDeadline := c.acquisition.frameDeadline
  progressEvery := c.acquisition.progressEvery

namespace Decode

/-- The options of an enumeration by their names. -/
def byName {α : Type} (name : α → String) (all : List α) : List (String × α) :=
  all.map fun a => (name a, a)

/-- An exposure mode. -/
def exposureMode : Decoder ExposureMode :=
  choice "ExposureMode" (byName ExposureMode.name ExposureMode.all)

/-- A stage of setup. -/
def setupStage : Decoder SetupStage := choice "SetupStage" (byName SetupStage.name SetupStage.all)

/-- A buffer policy. -/
def bufferPolicy : Decoder BufferPolicy :=
  choice "BufferPolicy" (byName BufferPolicy.name BufferPolicy.all)

/-- A log format. -/
def logFormat : Decoder LogFormat := choice "LogFormat" (byName LogFormat.name LogFormat.all)

/-- A backend. -/
def backend : Decoder Backend := choice "Backend" (byName Backend.name Backend.all)

/-- A report format. -/
def reportFormat : Decoder ReportFormat :=
  choice "ReportFormat" (byName ReportFormat.name ReportFormat.all)

/-- A region of which not all fields are known. -/
structure RegionDraft where
  s1 : Option Nat
  s2 : Option Nat
  sbin : Option Nat
  p1 : Option Nat
  p2 : Option Nat
  pbin : Option Nat

/-- The fields of a region. None has a built-in value of its own. -/
def regionFields : List (Field RegionDraft) :=
  [ field "s1" bound fun r n => { r with s1 := some n },
    field "s2" bound fun r n => { r with s2 := some n },
    field "sbin" bound fun r n => { r with sbin := some n },
    field "p1" bound fun r n => { r with p1 := some n },
    field "p2" bound fun r n => { r with p2 := some n },
    field "pbin" bound fun r n => { r with pbin := some n } ]

/-- The region, if all its fields are known; else the first that is not. -/
def RegionDraft.finish (r : RegionDraft) : Except String Region := do
  let known (name : String) : Option Nat → Except String Nat
    | some n => .ok n
    | none => .error name
  return {
    s1 := ← known "s1" r.s1
    s2 := ← known "s2" r.s2
    sbin := ← known "sbin" r.sbin
    p1 := ← known "p1" r.p1
    p2 := ← known "p2" r.p2
    pbin := ← known "pbin" r.pbin }

/-- A region, with all its fields. -/
def region : Decoder Region := fun v => do
  let draft ← record "Region" ⟨none, none, none, none, none, none⟩ regionFields v
  match draft.finish with
  | .ok r => return r
  | .error name =>
    .error (.on v (match v with
      | .list _ items => .invalidLength items.length "struct Region with 6 elements"
      | _ => .missingField name))

/-- The application section. -/
def application : Decoder ApplicationConfig :=
  record "ApplicationConfig" Config.standard.application
    [ field "name" text fun c s => { c with name := s },
      field "log_level" text fun c s => { c with logLevel := s },
      field "log_format" logFormat fun c f => { c with logFormat := f } ]

/-- The camera section. -/
def camera : Decoder CameraConfig :=
  record "CameraConfig" Config.standard.camera
    [ field "backend" backend fun c b => { c with backend := b },
      field "name" text fun c s => { c with name := s },
      field "region" region fun c r => { c with region := r },
      field "exposure_mode" exposureMode fun c m => { c with exposureMode := m },
      field "exposure_ms" count fun c n => { c with exposureMs := n } ]

/-- The acquisition section. -/
def acquisition : Decoder AcquisitionConfig :=
  record "AcquisitionConfig" Config.standard.acquisition
    [ field "target_frames" count fun c n => { c with targetFrames := n },
      field "frame_deadline" duration fun c d => { c with frameDeadline := d },
      field "buffer_frames" size fun c n => { c with bufferFrames := n },
      field "buffer_limit_bytes" (optional size) fun c n => { c with bufferLimit := n },
      field "buffer_policy" bufferPolicy fun c p => { c with bufferPolicy := p },
      field "progress_every" count fun c n => { c with progressEvery := n },
      field "runs" count fun c n => { c with runs := n } ]

/-- The report section. -/
def report : Decoder ReportConfig :=
  record "ReportConfig" Config.standard.report
    [field "format" reportFormat fun c f => { c with format := f }]

/-- The behaviour of the simulated camera. -/
def simulator : Decoder SimulatorBehavior :=
  record "MockBehavior" SimulatorBehavior.standard
    [ field "cameras" (list text) fun b names => { b with cameras := names },
      field "frame_interval" duration fun b d => { b with frameInterval := d },
      field "stop_after" (optional count) fun b n => { b with stopAfter := n },
      field "fail_fetch_on" (list frameNumber) fun b ns => { b with failFetchOn := ns },
      field "null_info_on" (list frameNumber) fun b ns => { b with nullInfoOn := ns },
      field "drop_frames" (list frameNumber) fun b ns => { b with dropFrames := ns },
      field "fail_stage" (optional setupStage) fun b s => { b with failStage := s },
      field "ready_queue_depth" size fun b n => { b with readyQueueDepth := n },
      field "frame_bytes" (optional size) fun b n => { b with frameBytes := n },
      field "default_exposure_mode" rawMode fun b n => { b with defaultExposureMode := n } ]

/-- All settings. -/
def config : Decoder Config :=
  record "ProbeConfig" Config.standard
    [ field "application" application fun c a => { c with application := a },
      field "camera" camera fun c a => { c with camera := a },
      field "acquisition" acquisition fun c a => { c with acquisition := a },
      field "report" report fun c a => { c with report := a },
      field "mock" simulator fun c b => { c with simulator := b } ]

end Decode

end Settings

end FrameWatch
