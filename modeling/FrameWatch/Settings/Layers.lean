import FrameWatch.Error
import FrameWatch.Settings.Config
import FrameWatch.Settings.Toml.Document
import FrameWatch.Settings.Variable

/-!
# Layered settings

The configuration is laid together from the built-in values, the settings file and the environment;
a later layer wins key by key. The settings file is looked for in the working directory and in the
directories above it.
-/

namespace FrameWatch.Settings

/-- Where the settings file is by default. -/
def standardPath : String := "config/stall_probe.toml"

/-- The settings file: its path as seen from the working directory, and its text. -/
structure SettingsFile where
  path : String
  text : String
deriving DecidableEq

/-- The parts of a path between slashes, without those that stay in place. -/
def pathParts (path : String) : List String :=
  (path.splitOn "/").filter fun part => part != "" && part != "."

/-- The parts of the way from a directory to a path: up to where the two part, and down from
there. -/
def relativeParts : List String → List String → List String
  | here :: directory, part :: path =>
    if here = part then relativeParts directory path
    else List.replicate (directory.length + 1) ".." ++ part :: path
  | directory, path => List.replicate directory.length ".." ++ path

/-- A path as it is shown: as seen from a directory if that has fewer parts, else from the root,
which counts as a part of its own. -/
def shownPath (directory path : List String) : String :=
  let relative := relativeParts directory path
  if relative.length < path.length + 1 then "/".intercalate relative
  else "/" ++ "/".intercalate path

/-- A place where a file may be: its path from the root, and its path as it is shown. -/
structure Place where
  path : String
  shown : String
deriving DecidableEq, Repr

/-- The places where a file is looked for: in the working directory, and in the directories above
it from the nearest to the farthest. -/
def places (directory : List String) (path : String) : List Place :=
  if path.startsWith "/" then [⟨path, shownPath directory (pathParts path)⟩]
  else
    (List.range (directory.length + 1)).map fun up =>
      let above := directory.take (directory.length - up)
      ⟨"/" ++ "/".intercalate (above ++ [path]), shownPath directory (above ++ pathParts path)⟩

/-- The settings file, at the first place where there is one; `read?` finds the text of the file at
a path from the root. -/
def SettingsFile.find? (read? : String → Option String) (directory path : String) :
    Option SettingsFile :=
  (places (pathParts directory) path).findSome? fun place =>
    (read? place.path).map fun text => ⟨place.shown, text⟩

/-- The layer of a settings file; none if it is no document at all. -/
def SettingsFile.layer? (f : SettingsFile) : Option Value := Toml.parse? (.file f.path) f.text

/-- The layer of the environment. Of variables for the same key, the last one wins. -/
def environmentLayer (environment : List (String × String)) : Value :=
  environment.foldl
    (fun layer (name, text) =>
      match Variable.path? name with
      | some path => layer.merge ((Variable.read text).atPath path)
      | none => layer)
    (.table .environment [])

/-- The configuration that the file and the environment amount to. -/
def load (file : Option SettingsFile) (environment : List (String × String)) :
    Except LoadError Config := do
  let lower ←
    match file with
    | none => pure (.table .environment [])
    | some f =>
      match f.layer? with
      | some layer => pure layer
      | none => throw .malformed
  (Decode.config (lower.merge (environmentLayer environment))).mapError .fault

end FrameWatch.Settings
