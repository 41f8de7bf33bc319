import FrameWatch.Run.Outcome
import FrameWatch.Text.Json
import FrameWatch.Time.Spelling

/-!
# Reports

What is printed about a run: its classification with the exit code, a headline, and the numbers
worth printing, as text for people or as a JSON document.
-/

namespace FrameWatch

/-- The classification of a run. -/
inductive RunStatus
  | completed | stalled | setupFailed
deriving DecidableEq, Repr

namespace RunStatus

/-- The name in reports. -/
def name : RunStatus → String
  | completed => "completed"
  | stalled => "stalled"
  | setupFailed => "setup_failed"

/-- The exit code that stands for the status. -/
def exitCode : RunStatus → Nat
  | completed => 0
  | stalled => 1
  | setupFailed => 2

/-- All statuses. -/
def all : List RunStatus := [completed, stalled, setupFailed]

end RunStatus

/-- The times between frames in milliseconds. -/
structure IntervalSummary where
  shortest : Float
  longest : Float
  mean : Float
  last : Float

/-- What is printed about a run. -/
structure Report where
  run : Nat
  camera : String
  startedAt : Timestamp
  elapsed : Duration
  status : RunStatus
  framesAcquired : Nat
  targetFrames : Nat
  frameDeadline : Duration
  /-- The frame that missed its deadline. -/
  stalledAt : Option Nat
  /-- The stage of setup that failed. -/
  failedStage : Option SetupStage
  /-- Why the run did not complete. -/
  error : Option String
  /-- What the camera had to say about a failed setup. -/
  diagnostic : Option CameraError
  degradedFrames : Nat
  /-- Frames that gave way to a later one in the mailbox. -/
  coalesced : Nat
  callbacks : Nat
  gapEvents : Nat
  lostFrames : Nat
  intervals : Option IntervalSummary
  /-- The names of what could not be given back. -/
  leaked : List String

/-- `d` in seconds. -/
def Duration.inSeconds (d : Duration) : Float :=
  d.secs.toUInt64.toFloat + d.subsec.toUInt64.toFloat / 1e9

/-- `d` in milliseconds. -/
def Duration.inMillis (d : Duration) : Float := d.inSeconds * 1000.0

/-- The summary of the intervals of a run, if there are any. -/
def IntervalSummary.of? (o : Outcome) : Option IntervalSummary := do
  let shortest ← o.intervals.shortest
  let longest ← o.intervals.longest
  let mean ← o.intervals.mean
  let last ← o.lastInterval
  return ⟨shortest.inMillis, longest.inMillis, mean.inMillis, last.inMillis⟩

/-- The names of what could not be given back. -/
def TeardownSummary.names (s : TeardownSummary) : List String :=
  (if s.bufferLeaked then ["circular_buffer"] else [])
    ++ (if s.contextLeaked then ["callback_context"] else [])

namespace Verdict

/-- The classification of a run that ended so. -/
def status : Verdict → RunStatus
  | completed => .completed
  | stalled _ => .stalled
  | setupFailed .. => .setupFailed

/-- The frame that missed its deadline. -/
def stalledAt? : Verdict → Option Nat
  | stalled frame => some frame
  | _ => none

/-- The stage of setup that failed. -/
def failedStage? : Verdict → Option SetupStage
  | setupFailed e _ => some e.stage
  | _ => none

/-- Why a run with that deadline did not complete. -/
def error? (deadline : Duration) : Verdict → Option String
  | completed => none
  | stalled frame =>
    some ("no frame within " ++ deadline.spell ++ " while waiting for frame " ++ toString frame)
  | setupFailed e _ => some e.describe

/-- What the camera had to say about a failed setup. -/
def diagnostic? : Verdict → Option CameraError
  | setupFailed _ diagnostic => diagnostic
  | _ => none

end Verdict

namespace Report

/-- The report on an outcome. -/
def ofOutcome (o : Outcome) : Report where
  run := o.run
  camera := o.camera
  startedAt := o.startedAt
  elapsed := o.elapsed
  status := o.verdict.status
  framesAcquired := o.framesAcquired
  targetFrames := o.targetFrames
  frameDeadline := o.frameDeadline
  stalledAt := o.verdict.stalledAt?
  failedStage := o.verdict.failedStage?
  error := o.verdict.error? o.frameDeadline
  diagnostic := o.verdict.diagnostic?
  degradedFrames := o.degradedFrames
  coalesced := o.tally.overwritten
  callbacks := o.callbacks
  gapEvents := o.gapEvents
  lostFrames := o.lostFrames
  intervals := IntervalSummary.of? o
  leaked := o.teardown.names

/-- The exit code that stands for the run. -/
def exitCode (r : Report) : Nat := r.status.exitCode

/-- The verdict in one line. -/
def headline (r : Report) : String :=
  match r.status with
  | .completed =>
    "COMPLETED: " ++ toString r.framesAcquired ++ "/" ++ toString r.targetFrames
      ++ " frames acquired"
  | .stalled =>
    "STALLED at frame " ++ toString (r.stalledAt.getD (r.framesAcquired + 1)) ++ " ("
      ++ toString r.framesAcquired ++ " frames acquired, deadline " ++ r.frameDeadline.spell
      ++ ")"
  | .setupFailed =>
    "SETUP FAILED at stage " ++ r.failedStage.elim "unknown" SetupStage.name

/-- `x` milliseconds with two decimals. -/
def millisText (x : Float) : String := Decimal.fixed 2 x ++ " ms"

/-- The lines of the report as text. -/
def lines (r : Report) : List String :=
  ["Run " ++ toString r.run ++ " on " ++ r.camera ++ ": " ++ r.headline,
    "  started " ++ r.startedAt.write "+00:00" ++ ", took " ++ Decimal.fixed 3 r.elapsed.inSeconds
      ++ " s"]
  ++ r.error.toList.map (fun e => "  error: " ++ e)
  ++ r.diagnostic.toList.map
    (fun d => "  sdk error " ++ toString d.code ++ ": " ++ d.message)
  ++ r.intervals.toList.map
    (fun s => "  intervals: min " ++ millisText s.shortest ++ ", mean " ++ millisText s.mean
      ++ ", max " ++ millisText s.longest ++ ", last " ++ millisText s.last)
  ++ ["  degraded frames: " ++ toString r.degradedFrames ++ ", coalesced signals: "
      ++ toString r.coalesced ++ ", callbacks: " ++ toString r.callbacks]
  ++ (if 0 < r.gapEvents then
      ["  frame gaps: " ++ toString r.gapEvents ++ " (" ++ toString r.lostFrames
        ++ " frames lost by the driver)"]
    else [])
  ++ (if r.leaked.isEmpty then []
    else ["  teardown leaked: " ++ ", ".intercalate r.leaked
      ++ " (acquisition could not be stopped)"])

/-- The report as text. -/
def text (r : Report) : String := String.join (r.lines.map (· ++ "\n"))

/-- A camera error as a JSON document. -/
def diagnosticDocument (e : CameraError) : Json :=
  .object [("code", .integer e.code), ("message", .text e.message)]

/-- A summary of intervals as a JSON document. -/
def intervalDocument (s : IntervalSummary) : Json :=
  .object [("min_ms", .real s.shortest), ("max_ms", .real s.longest), ("mean_ms", .real s.mean),
    ("last_ms", .real s.last)]

/-- The fields of the report, those left out that have nothing to say. -/
def fields (r : Report) : List (String × Json) :=
  [("run", .integer r.run), ("camera", .text r.camera),
    ("started_at", .text (r.startedAt.write "Z")), ("elapsed", .text r.elapsed.spell),
    ("status", .text r.status.name), ("frames_acquired", .integer r.framesAcquired),
    ("target_frames", .integer r.targetFrames), ("frame_deadline", .text r.frameDeadline.spell)]
  ++ r.stalledAt.toList.map (fun (n : Nat) => ("stalled_at_frame", .integer n))
  ++ r.failedStage.toList.map (fun s => ("failed_stage", .text s.name))
  ++ r.error.toList.map (fun e => ("error", .text e))
  ++ r.diagnostic.toList.map (fun d => ("sdk_error", diagnosticDocument d))
  ++ [("degraded_frames", .integer r.degradedFrames), ("coalesced_signals", .integer r.coalesced),
    ("callback_invocations", .integer r.callbacks), ("gap_events", .integer r.gapEvents),
    ("lost_frames", .integer r.lostFrames)]
  ++ r.intervals.toList.map (fun s => ("intervals", intervalDocument s))
  ++ (if r.leaked.isEmpty then [] else [("leaked", .list (r.leaked.map .text))])

/-- The report as a JSON document. -/
def document (r : Report) : Json := .object r.fields

/-- The written form of the report as a JSON document. -/
def json (r : Report) : String := r.document.write

end Report

end FrameWatch
