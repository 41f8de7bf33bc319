import FrameWatch.Settings.Toml.Number

/-!
# Settings files

A settings file is a sequence of sections with headers, each with keys and values. Every key may be
set once; a table may be spread over several sections only where no section was its own, and keys
with points open tables that belong to their section alone.
-/

namespace FrameWatch.Settings.Toml

open Reader

/-! ## Tables while they are read -/

/-- How a table came about, which decides how it may go on. -/
inductive Opening
  /-- By a header of its own. -/
  | header
  /-- By the header of a table inside it. -/
  | implied
  /-- By a key with points. -/
  | dotted
deriving DecidableEq, Repr

/-- A value or an unfinished table. -/
inductive Node
  /-- A value that nothing can be added to. -/
  | closed (v : Value)
  | table (opening : Opening) (fields : List (String × Node))
  /-- A list of tables, the newest last. -/
  | tables (items : List (List (String × Node)))

/-- The fields of an unfinished table. -/
abbrev Fields : Type := List (String × Node)

namespace Fields

/-- The fields with one changed, or added behind all others. -/
def set (key : String) (node : Node) : Fields → Fields
  | [] => [(key, node)]
  | (k, n) :: rest => if k = key then (key, node) :: rest else (k, n) :: set key node rest

/-- The fields without one. -/
def erase (key : String) (fields : Fields) : Fields := fields.filter (·.1 != key)

/-- Changes the table at a path of headers by `f`. Tables on the way are opened where there are
none, and in a list of tables the path goes on in the newest. -/
def atHeader (f : Fields → Option Fields) : List String → Fields → Option Fields
  | [], fields => f fields
  | key :: path, fields =>
    match fields.lookup key with
    | none => do
      let inner ← atHeader f path []
      some (set key (.table .implied inner) fields)
    | some (.table opening inner) => do
      let inner ← atHeader f path inner
      some (set key (.table opening inner) fields)
    | some (.tables items) => do
      let inner ← atHeader f path (items.getLast?.getD [])
      some (set key (.tables (items.dropLast ++ [inner])) fields)
    | some (.closed _) => none

/-- Adds a value under a new key. -/
def add (key : String) (node : Node) (fields : Fields) : Option Fields :=
  if fields.any (·.1 == key) then none else some (set key node fields)

/-- Adds a value under a key with points. The table that takes it has to be one that such keys have
opened; `opening` is how the table at hand came about. -/
def addDotted (last : String) (node : Node) : Opening → List String → Fields → Option Fields
  | opening, [], fields => if opening = .dotted then add last node fields else none
  | _, key :: path, fields =>
    match fields.lookup key with
    | none => do
      let inner ← addDotted last node .dotted path []
      some (set key (.table .dotted inner) fields)
    | some (.table .header _) => none
    | some (.table opening inner) => do
      let inner ← addDotted last node opening path inner
      some (set key (.table opening inner) fields)
    | some (.tables items) => do
      let inner ← addDotted last node .header path (items.getLast?.getD [])
      some (set key (.tables (items.dropLast ++ [inner])) fields)
    | some (.closed _) => none

/-- Adds a value under a key. -/
def addAt (path : List String) (node : Node) (fields : Fields) : Option Fields :=
  match path.getLast?, path.dropLast with
  | none, _ => none
  | some last, [] => add last node fields
  | some last, outer => addDotted last node .header outer fields

end Fields

/-- The key whose value takes the place of the table that holds it. -/
def valueKey : String := "___figment_value_value"

/-- The key that no table below the top may have. -/
def identityKey : String := "___figment_value_id"

/-- What a table below the top with those fields stands for. -/
def tableValue (origin : Origin) (fields : List (String × Value)) : Option Value :=
  if fields.any (·.1 == identityKey) then none
  else some ((fields.lookup valueKey).getD (.ofFields origin fields))

mutual

/-- The value that an unfinished table stands for, if it stands for one. -/
def Node.finish (origin : Origin) : Node → Option Value
  | .closed v => some v
  | .table _ fields => do tableValue origin (← finishFields origin fields)
  | .tables items => do return .list origin (← finishTables origin items)

/-- The values of all fields. -/
def finishFields (origin : Origin) : List (String × Node) → Option (List (String × Value))
  | [] => some []
  | (key, node) :: rest => do
    let v ← node.finish origin
    return (key, v) :: (← finishFields origin rest)

/-- The values of all tables of a list. -/
def finishTables (origin : Origin) : List (List (String × Node)) → Option (List Value)
  | [] => some []
  | fields :: rest => do
    let v ← tableValue origin (← finishFields origin fields)
    return v :: (← finishTables origin rest)

end

/-! ## Values -/

/-- What is read if it makes sense. -/
def orFail {α : Type} : Option α → Reader α
  | some a => return a
  | none => fail

/-- Reads the items of a list behind its bracket, at most `bound` of them. -/
def items (value : Reader Value) : Nat → Reader (List Value)
  | 0 => fail
  | bound + 1 => do
    gaps
    match ← option (char ']') with
    | some () => return []
    | none =>
      let v ← value
      gaps
      match ← option (char ',') with
      | some () => return v :: (← items value bound)
      | none => do
        char ']'
        return [v]

/-- Reads a key and its value. -/
def pair (value : Reader Value) : Reader (List String × Value) := do
  let path ← key
  char '='
  spaces
  return (path, ← value)

/-- Reads the fields of a table on one line behind the first, at most `bound` of them, and adds each
to those before it. -/
def inlineFields (value : Reader Value) : Nat → Fields → Reader Fields
  | 0, _ => fail
  | bound + 1, fields => do
    let (path, v) ← pair value
    match fields.addAt path (.closed v) with
    | none => fail
    | some fields =>
      spaces
      match ← option (char ',') with
      | some () => inlineFields value bound fields
      | none => do
        char '\x7d'
        return fields

/-- Reads a table on one line behind its brace. -/
def inlineTable (origin : Origin) (value : Reader Value) : Reader Value := do
  spaces
  match ← option (char '\x7d') with
  | some () => return .table origin []
  | none =>
    let fields ← inlineFields value ((← rest).length + 1) []
    orFail ((Node.table .header fields).finish origin)

/-- Reads a value without parts, or a date. -/
def simpleValue (origin : Origin) : Reader Value := do
  match ← peek? with
  | some '"' | some '\'' => return .scalar origin (.text (← anyText))
  | some 't' => do
    text "true"
    return .scalar origin (.flag true)
  | some 'f' => do
    text "false"
    return .scalar origin (.flag false)
  | _ => numberOrMoment origin

/-- Reads a value with parts nested at most `depth` deep. -/
def value (origin : Origin) : Nat → Reader Value
  | 0 => simpleValue origin
  | depth + 1 => do
    match ← peek? with
    | some '[' => do
      char '['
      return .list origin (← items (value origin depth) ((← rest).length + 1))
    | some '\x7b' => do
      char '\x7b'
      inlineTable origin (value origin depth)
    | _ => simpleValue origin

/-! ## Sections -/

/-- The header that a section stands under. -/
inductive Header
  /-- None: the section at the top of the file. -/
  | top
  | table (path : List String)
  /-- One more table of a list. -/
  | item (path : List String)
deriving DecidableEq, Repr

/-- What has been read of a file: the finished sections, and the one at hand. -/
structure Draft where
  root : Fields
  header : Header
  current : Fields

/-- The fields of a file once the section at hand is finished. -/
def Draft.close (d : Draft) : Option Fields :=
  match d.header with
  | .top => some d.current
  | .table path => do
    let last ← path.getLast?
    Fields.atHeader (Fields.add last (.table .header d.current)) path.dropLast d.root
  | .item path => do
    let last ← path.getLast?
    d.root.atHeader
      (fun fields =>
        match fields.lookup last with
        | some (.tables items) => some (fields.set last (.tables (items ++ [d.current])))
        | _ => none)
      path.dropLast

/-- Opens the section of a table. A table that was implied so far keeps its fields. -/
def Draft.openTable (d : Draft) (path : List String) : Option Draft := do
  let root ← d.close
  let last ← path.getLast?
  let taken :=
    root.atHeader
      (fun fields =>
        match fields.lookup last with
        | none => some fields
        | some (.table .implied _) => some (fields.erase last)
        | some _ => none)
      path.dropLast
  let found ← fieldsAt path root
  some ⟨← taken, .table path, found⟩
where
  /-- The fields of the table at a path, if there is one. -/
  fieldsAt : List String → Fields → Option Fields
    | [], fields => some fields
    | key :: path, fields =>
      match fields.lookup key with
      | some (.table _ inner) => fieldsAt path inner
      | some (.tables items) => fieldsAt path (items.getLast?.getD [])
      | some (.closed _) => none
      | none => some []

/-- Opens the section of one more table of a list. -/
def Draft.openItem (d : Draft) (path : List String) : Option Draft := do
  let root ← d.close
  let last ← path.getLast?
  let root ←
    root.atHeader
      (fun fields =>
        match fields.lookup last with
        | none => some (fields.set last (.tables []))
        | some (.tables _) => some fields
        | some _ => none)
      path.dropLast
  some ⟨root, .item path, []⟩

/-- Adds a value to the section at hand. -/
def Draft.add (d : Draft) (path : List String) (v : Value) : Option Draft := do
  let fields ← d.current.addAt path (.closed v)
  some { d with current := fields }

/-- Reads a header, and opens its section. -/
def readHeader (d : Draft) : Reader Draft := do
  char '['
  match ← option (char '[') with
  | some () =>
    let path ← key
    text "]]"
    lineEnd
    orFail (d.openItem path)
  | none =>
    let path ← key
    char ']'
    lineEnd
    orFail (d.openTable path)

/-- Reads a line with a key and its value. -/
def readPair (origin : Origin) (d : Draft) : Reader Draft := do
  let (path, v) ← pair (value origin maxDepth)
  lineEnd
  orFail (d.add path v)

/-- Reads the lines of a file, at most `bound` of them. -/
def readLines (origin : Origin) : Nat → Draft → Reader Draft
  | 0, d => return d
  | bound + 1, d => do
    spaces
    match ← peek? with
    | none => return d
    | some '[' => readLines origin bound (← readHeader d)
    | some '#' | some '\n' | some '\r' => do
      lineEnd
      readLines origin bound d
    | some _ => readLines origin bound (← readPair origin d)

/-- The table that a settings file stands for; a byte order mark in front is passed over. -/
def parse? (origin : Origin) (s : String) : Option Value := do
  let cs := s.toList
  let cs := if cs.head? = some '\ufeff' then cs.drop 1 else cs
  let d ← (readLines origin (cs.length + 1) ⟨[], .top, []⟩).run? cs
  let fields ← d.close
  some (.ofFields origin (← finishFields origin fields))

end FrameWatch.Settings.Toml
