/-!
# Trees of files

Files in directories, and how a path leads to a file: part by part from the root, where every part
with another one behind it has to be a directory.
-/

namespace FrameWatch

/-- Files in directories; paths are given by their parts, from the root. -/
structure FileTree where
  /-- The texts of files. -/
  files : List (List String × String)
  /-- Directories besides those that hold files. -/
  directories : List (List String)

namespace FileTree

/-- Whether there is a directory at that place. -/
def isDirectory (tree : FileTree) (place : List String) : Bool :=
  place.isEmpty
    || (tree.directories ++ tree.files.map (·.1.dropLast)).any (place.isPrefixOf ·)

/-- The place that the parts of a path lead to from `here`, if all but the last lead through
directories. -/
def walk? (tree : FileTree) : List String → List String → Option (List String)
  | here, [] => some here
  | here, part :: rest =>
    if !tree.isDirectory here then none
    else if part = "" ∨ part = "." then tree.walk? here rest
    else if part = ".." then tree.walk? here.dropLast rest
    else tree.walk? (here ++ [part]) rest

/-- The text of the file at a path. -/
def read? (tree : FileTree) (path : String) : Option String := do
  tree.files.lookup (← tree.walk? [] (path.splitOn "/"))

end FileTree

end FrameWatch
