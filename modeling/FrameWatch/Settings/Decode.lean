import FrameWatch.Settings.Fault
import FrameWatch.Time.Spelling

/-!
# Decoding settings

What a value stands for, by what is expected of it. Records are read from tables by name and from
lists by position; of several faults, the first in the order of keys is reported.
-/

namespace FrameWatch.Settings

/-- A reading of values, which may find a fault. -/
abbrev Decoder (α : Type) := Value → Except Fault α

namespace Decode

variable {α ρ : Type}

/-- The fault of a value that is of another kind than expected. -/
def mismatch (v : Value) (expected : String) : Except Fault α :=
  .error (.on v (.invalidType (.of v) expected))

/-- A whole number from `low` to `high`. -/
def integer (low high : Int) (expected : String) : Decoder Int := fun v =>
  let inRange (n : Int) : Except Fault Int :=
    if low ≤ n ∧ n ≤ high then .ok n else .error (.on v (.invalidValue (.of v) expected))
  match v with
  | .scalar _ (.natural n) => inRange n
  | .scalar _ (.integer n) => inRange n
  | _ => mismatch v expected

/-- A whole number below `2^bits`. -/
def word (bits : Nat) (expected : String) : Decoder Nat := fun v =>
  (integer 0 (2 ^ bits - 1) expected v).map Int.toNat

/-- A number that counts something small. -/
def count : Decoder Nat := word 32 "u32"

/-- A number of bytes or frames. -/
def size : Decoder Nat := word 64 "usize"

/-- The bound of a region, or its binning. -/
def bound : Decoder Nat := word 16 "u16"

/-- The number of a frame. -/
def frameNumber : Decoder Int := integer (-(2 ^ 31)) (2 ^ 31 - 1) "i32"

/-- The raw value of an exposure mode. -/
def rawMode : Decoder Int := integer (-(2 ^ 15)) (2 ^ 15 - 1) "i16"

/-- A text. -/
def text : Decoder String := fun v =>
  match v with
  | .scalar _ (.text s) => .ok s
  | .scalar _ (.letter c) => .ok c.toString
  | _ => mismatch v "a string"

/-- A duration in words. -/
def duration : Decoder Duration := fun v =>
  let read (s : String) : Except Fault Duration :=
    match Duration.parse? s with
    | some d => .ok d
    | none => .error (.on v (.invalidValue (.scalar (.text s)) "a duration"))
  match v with
  | .scalar _ (.text s) => read s
  | .scalar _ (.letter c) => read c.toString
  | _ => mismatch v "a duration"

/-- Something that may be left out. -/
def optional (decode : Decoder α) : Decoder (Option α) := fun v =>
  match v with
  | .scalar _ .null => .ok none
  | _ => (decode v).map some

/-- The items of a list, from position `index` on. -/
def items (decode : Decoder α) : Nat → List Value → Except Fault (List α)
  | _, [] => .ok []
  | index, v :: rest => do
    let item ← (decode v).mapError (Fault.under (toString index))
    let rest ← items decode (index + 1) rest
    return item :: rest

/-- A list. -/
def list (decode : Decoder α) : Decoder (List α) := fun v =>
  match v with
  | .list _ values => items decode 0 values
  | _ => mismatch v "a sequence"

/-- The option of that name. -/
def option (v : Value) (options : List (String × α)) (name : String) : Except Fault α :=
  match options.lookup name with
  | some a => .ok a
  | none => .error (.on v (.unknownVariant name (options.map (·.1))))

/-- Nothing: what may stand behind the name of an option. -/
def nothing : Decoder Unit := fun v =>
  match v with
  | .scalar _ .null => .ok ()
  | _ => mismatch v "unit"

/-- An option of an enumeration, as its name or as a table with its name as the only key. Layered
settings take the first key of a table. -/
def choice (name : String) (options : List (String × α)) : Decoder α := fun v =>
  let named (key : String) (payload : Value) : Except Fault α :=
    Except.mapError (Fault.under key) do
      let a ← option payload options key
      nothing payload
      return a
  match v, v.origin with
  | .scalar _ (.text s), _ => option v options s
  | .table _ [(key, payload)], _ => named key payload
  | .table .., .document =>
    .error (.on v (.invalidValue .table "map with a single key"))
  | .table _ ((key, payload) :: _), _ => named key payload
  | .table .., _ => .error (.on v (.invalidType .table "enum"))
  | _, .document => mismatch v "string or map"
  | _, _ => mismatch v ("enum " ++ name)

/-- A field of a record: its key, and how its value is put into the record. -/
structure Field (ρ : Type) where
  name : String
  put : ρ → Decoder ρ

/-- The field of that key, which is set to what is decoded. -/
def field (name : String) (decode : Decoder α) (set : ρ → α → ρ) : Field ρ :=
  ⟨name, fun r v => (decode v).map (set r)⟩

/-- The record with the fields of a table put into it; keys of no field are passed over. -/
def fromTable (fields : List (Field ρ)) (r : ρ) (values : List (String × Value)) :
    Except Fault ρ :=
  values.foldlM (fun r (key, v) =>
    match fields.find? (·.name == key) with
    | some f => (f.put r v).mapError (Fault.under key)
    | none => .ok r) r

/-- The record with the items of a list put into its fields, from position `index` on. -/
def fromList : List (Field ρ) → Nat → ρ → List Value → Except Fault ρ
  | f :: fields, index, r, v :: rest => do
    let r ← (f.put r v).mapError (Fault.under (toString index))
    fromList fields (index + 1) r rest
  | _, _, r, _ => .ok r

/-- A list that stands for a record may not be longer than the record, in a document. -/
def checkLength (v : Value) (fields items : Nat) : Except Fault Unit :=
  if v.origin = .document ∧ fields < items then
    .error (.on v (.invalidLength items "fewer elements in array"))
  else .ok ()

/-- A record whose fields keep the values of `standard` where they are left out. -/
def record (name : String) (standard : ρ) (fields : List (Field ρ)) : Decoder ρ := fun v =>
  match v with
  | .table _ values => fromTable fields standard values
  | .list _ values => do
    let r ← fromList fields 0 standard values
    checkLength v fields.length values.length
    return r
  | _ => mismatch v ("struct " ++ name)

end Decode

end FrameWatch.Settings
