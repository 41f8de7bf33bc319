import FrameWatch.Main
import FrameWatch.Run.Script
import FrameWatch.Simulator.Bench
import FrameWatch.FileTree
import FrameWatch.Proofs.Delivery
import FrameWatch.Proofs.Run.Standing
import FrameWatch.Proofs.Run.SetupPath
import FrameWatch.Proofs.Run.WatchPath
import FrameWatch.Proofs.Run.TeardownPath
import FrameWatch.Proofs.Run.Course
import FrameWatch.Proofs.Run.Protocol
import FrameWatch.Proofs.Run.HandOff
import FrameWatch.Proofs.Simulator.Frames
import FrameWatch.Proofs.Simulator.Ticks
import FrameWatch.Proofs.Simulator.Follow
import FrameWatch.Proofs.Simulator.Start
import FrameWatch.Proofs.Run.Waits
import FrameWatch.Proofs.Run.Verdict
import FrameWatch.Proofs.Run.Accounts
import FrameWatch.Proofs.Simulator.Stalls
import FrameWatch.Proofs.Run.InStep
import FrameWatch.Proofs.Run.Heard
import FrameWatch.Proofs.Run.Independence
import FrameWatch.Proofs.Run.Blame
import FrameWatch.Proofs.Simulator.LastError
import FrameWatch.Proofs.Run.Upkeep
import FrameWatch.Proofs.Simulator.Accepted
import FrameWatch.Proofs.Settings.Parts
import FrameWatch.Proofs.Settings.Valid
import FrameWatch.Proofs.Settings.Reading
import FrameWatch.Proofs.Settings.Records
import FrameWatch.Proofs.Settings.Sections
import FrameWatch.Proofs.Settings.Layering
import FrameWatch.Proofs.Program.Runs
import FrameWatch.Proofs.Settings.RegionBounds
import FrameWatch.Proofs.Run.Gaps
import FrameWatch.Proofs.Simulator.Lost
import FrameWatch.Proofs.Simulator.Memory
import FrameWatch.Proofs.Run.Seen
import FrameWatch.Proofs.Run.Remembered
import FrameWatch.Proofs.Run.Unwind
import FrameWatch.Proofs.Simulator.Calls
import FrameWatch.Proofs.Simulator.Slots
import FrameWatch.Proofs.Simulator.Filled
import FrameWatch.Proofs.Simulator.Stamps
import FrameWatch.Proofs.Text.Keys
import FrameWatch.Proofs.Report.Agreement
import FrameWatch.Proofs.Time.Spelling
import FrameWatch.Proofs.Report.Durations
import FrameWatch.Proofs.Run.Counts
import FrameWatch.Proofs.Run.Lifecycle
import FrameWatch.Proofs.Run.Jumps
import FrameWatch.Proofs.Program.ExitStatus
import FrameWatch.Proofs.Run.Books
import FrameWatch.Proofs.Simulator.Books
import FrameWatch.Proofs.Run.Target
import FrameWatch.Proofs.Notifications
import FrameWatch.Proofs.Simulator.Effects
import FrameWatch.Proofs.Simulator.Histories
import FrameWatch.Proofs.Simulator.ReadyQueue
import FrameWatch.Proofs.Simulator.Refusals
import FrameWatch.Proofs.Simulator.Automaton
import FrameWatch.Proofs.Simulator.Handles
import FrameWatch.Proofs.Intervals
import FrameWatch.Proofs.Run.WatchLog
import FrameWatch.Proofs.Buffer
