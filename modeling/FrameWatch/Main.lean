import FrameWatch.Program.Probe

/-!
# The executable

Collects what the program finds on this machine, runs the program and prints what it has to say.
-/

namespace FrameWatch.Executable

/-- The entries of the environment, as the system lists them. -/
def environment : IO (List (String × String)) := do
  let bytes ← IO.FS.readBinFile "/proc/self/environ"
  match String.fromUTF8? bytes with
  | none => return []
  | some text =>
    return (text.splitOn "\x00").filterMap fun entry =>
      match entry.splitOn "=" with
      | name :: value@(_ :: _) => some (name, "=".intercalate value)
      | _ => none

/-- The text at a path, if there is a file that can be read. -/
def text? (path : String) : IO (Option String) := do
  try
    let file := (← IO.currentDir) / path
    match (← file.metadata).type with
    | .file => return some (← IO.FS.readFile file)
    | _ => return none
  catch _ =>
    return none

/-- The texts of those files that can be read, by their paths. -/
def texts (paths : List String) : IO (List (String × String)) :=
  paths.filterMapM fun path => do
    return (← text? path).map fun text => (path, text)

/-- Date and time at the start of the program. -/
def now : IO Timestamp := do
  try
    let entry ← ((← IO.currentDir) / "/proc/self").metadata
    return ⟨entry.modified.sec, entry.modified.nsec.toNat⟩
  catch _ =>
    return ⟨0, 0⟩

/-- Memory for simulated frames: one block of an address space of its own. -/
def allocator : Allocator := fun size => if size < 2 ^ 46 then some (2 ^ 46) else none

end FrameWatch.Executable

open FrameWatch in
/-- Runs the program. -/
def main (arguments : List String) : IO UInt32 := do
  let directory := (← IO.currentDir).toString
  let places := Probe.settingsPlaces arguments directory
  let texts ← Executable.texts (places.map (·.path))
  let result := Probe.program {
    arguments := arguments
    environment := ← Executable.environment
    directory := directory
    read? := fun path => texts.lookup path
    allocator := Executable.allocator
    now := ← Executable.now }
  for entry in result.log do
    IO.eprintln (entry.write result.logFormat)
  IO.print result.output
  IO.eprint result.complaint
  return result.exitCode.toUInt32
