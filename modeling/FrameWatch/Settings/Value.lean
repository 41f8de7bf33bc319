/-!
# Setting values

A setting as it was written, before it is known what it stands for: a scalar, a list, or a table
with its keys in ascending order. Every value remembers where it was written. `Value.merge` lays one
value over another.
-/

namespace FrameWatch.Settings

/-- Where a value was written. -/
inductive Origin
  /-- A document on its own. -/
  | document
  /-- The settings file at that path. -/
  | file (path : String)
  /-- The environment of the program. -/
  | environment
deriving DecidableEq, Repr

/-- A value without parts. -/
inductive Scalar
  | null
  | flag (b : Bool)
  /-- A number that was written without room for a sign. -/
  | natural (n : Nat)
  | integer (n : Int)
  | real (x : Float)
  | letter (c : Char)
  | text (s : String)

/-- A value as it was written. -/
inductive Value
  | scalar (origin : Origin) (content : Scalar)
  | list (origin : Origin) (items : List Value)
  | table (origin : Origin) (fields : List (String × Value))

instance : Inhabited Value := ⟨.scalar .document .null⟩

namespace Value

/-- Where the value was written. -/
def origin : Value → Origin
  | scalar o _ => o
  | list o _ => o
  | table o _ => o

end Value

/-- The fields with one more among them, in ascending order; it takes the place of one of the same
key. -/
def insertField (key : String) (value : Value) : List (String × Value) → List (String × Value)
  | [] => [(key, value)]
  | (k, v) :: rest =>
    if key = k then (key, value) :: rest
    else if key < k then (key, value) :: (k, v) :: rest
    else (k, v) :: insertField key value rest

/-- Fields in ascending order; of two with the same key, the later one. -/
def sortFields (fields : List (String × Value)) : List (String × Value) :=
  fields.foldl (fun sorted f => insertField f.1 f.2 sorted) []

/-- The table with those fields. -/
def Value.ofFields (origin : Origin) (fields : List (String × Value)) : Value :=
  .table origin (sortFields fields)

/-- The fields of `upper` whose keys are not among those of `lower`, laid among `lower`. -/
def addMissing (lower upper : List (String × Value)) : List (String × Value) :=
  (upper.filter fun f => !lower.any (·.1 == f.1)).foldl
    (fun sorted f => insertField f.1 f.2 sorted) lower

mutual

/-- `upper` laid over `lower`: tables are joined key by key, and everything else gives way. -/
def Value.merge : Value → Value → Value
  | .table _ lower, .table o upper => .table o (addMissing (mergeFields lower upper) upper)
  | _, upper => upper

/-- Every field of `lower` with the field of `upper` of the same key laid over it. -/
def mergeFields : List (String × Value) → List (String × Value) → List (String × Value)
  | [], _ => []
  | (k, v) :: rest, upper =>
    (k, match upper.lookup k with
      | some w => v.merge w
      | none => v) :: mergeFields rest upper

end

/-- The table that holds `value` at the end of a path of keys. -/
def Value.atPath (value : Value) : List String → Value
  | [] => value
  | key :: rest => .table value.origin [(key, value.atPath rest)]

end FrameWatch.Settings
