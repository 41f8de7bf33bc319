import FrameWatch.Decimal.Written
import FrameWatch.Settings.Value
import FrameWatch.Text.Blank
import FrameWatch.Text.Quoted

/-!
# Faulty settings

Why a value cannot be what it should be, with the wording of the message. Documents and layered
settings word their messages differently, and only layered ones say where the value was written.
-/

namespace FrameWatch.Settings

/-- What a value turned out to be. A letter counts as a text. -/
inductive Found
  | scalar (content : Scalar)
  | list
  | table

/-- What `v` turned out to be. -/
def Found.of : Value → Found
  | .scalar _ content => scalar content
  | .list .. => list
  | .table .. => table

/-- Why a value cannot be what it should be. -/
inductive FaultCause
  /-- It is of another kind. -/
  | invalidType (found : Found) (expected : String)
  /-- It is of the right kind and stands for nothing. -/
  | invalidValue (found : Found) (expected : String)
  | invalidLength (found : Nat) (expected : String)
  /-- It is a name that is none of the options. -/
  | unknownVariant (found : String) (options : List String)
  | missingField (name : String)

/-- A faulty value, with the keys that lead to it and the place where it was written. -/
structure Fault where
  cause : FaultCause
  path : List String
  origin : Origin

namespace Found

/-- The wording in messages about documents. -/
def inDocument : Found → String
  | scalar .null => "null"
  | scalar (.flag b) => "boolean `" ++ toString b ++ "`"
  | scalar (.natural n) => "integer `" ++ toString n ++ "`"
  | scalar (.integer n) => "integer `" ++ toString n ++ "`"
  | scalar (.real x) => "floating point `" ++ Decimal.json x ++ "`"
  | scalar (.letter c) => "string " ++ Text.quote c.toString
  | scalar (.text s) => "string " ++ Text.quote s
  | list => "sequence"
  | table => "map"

/-- The wording in messages about layered settings. -/
def inLayers : Found → String
  | scalar .null => "unit"
  | scalar (.flag b) => "bool " ++ toString b
  | scalar (.natural n) => "unsigned int `" ++ toString n ++ "`"
  | scalar (.integer n) => "signed int `" ++ toString n ++ "`"
  | scalar (.real x) => "float `" ++ Decimal.plain x ++ "`"
  | scalar (.letter c) => "string " ++ Text.quote c.toString
  | scalar (.text s) => "string " ++ Text.quote s
  | list => "sequence"
  | table => "map"

end Found

/-- Options of which one is expected. -/
def oneOf (options : List String) : String :=
  match options.map fun o => "`" ++ o ++ "`" with
  | [a] => a
  | [a, b] => a ++ " or " ++ b
  | all => "one of " ++ ", ".intercalate all

namespace FaultCause

/-- The kind of fault. -/
def kind : FaultCause → String
  | invalidType .. => "InvalidType"
  | invalidValue .. => "InvalidValue"
  | invalidLength .. => "InvalidLength"
  | unknownVariant .. => "UnknownVariant"
  | missingField .. => "MissingField"

/-- The message about a document. -/
def inDocument : FaultCause → String
  | invalidType found expected =>
    "invalid type: " ++ found.inDocument ++ ", expected " ++ expected
  | invalidValue found expected =>
    "invalid value: " ++ found.inDocument ++ ", expected " ++ expected
  | invalidLength found expected =>
    "invalid length " ++ toString found ++ ", expected " ++ expected
  | unknownVariant found options =>
    "unknown variant `" ++ found ++ "`, expected " ++ oneOf options
  | missingField name => "missing field `" ++ name ++ "`"

/-- The message about layered settings. -/
def inLayers : FaultCause → String
  | invalidType found expected =>
    "invalid type: found " ++ found.inLayers ++ ", expected " ++ expected
  | invalidValue found expected =>
    "invalid value " ++ found.inLayers ++ ", expected " ++ expected
  | invalidLength found expected =>
    "invalid length " ++ toString found ++ ", expected " ++ expected
  | unknownVariant found options =>
    "unknown variant: found `" ++ found ++ "`, expected `" ++ oneOf options ++ "`"
  | missingField name => "missing field `" ++ name ++ "`"

end FaultCause

namespace Fault

/-- The fault of a value itself. -/
def on (v : Value) (cause : FaultCause) : Fault := ⟨cause, [], v.origin⟩

/-- The fault, seen from the table or list that holds the value at `key`. -/
def under (key : String) (f : Fault) : Fault := { f with path := key :: f.path }

/-- The place of the value in words. -/
def place (f : Fault) : String :=
  match f.origin with
  | .document => ""
  | .file path =>
    " for key \"" ++ ".".intercalate ("default" :: f.path) ++ "\" in " ++ path ++ " TOML file"
  | .environment =>
    " for key \"" ++ ".".intercalate (f.path.map Text.upperAscii)
      ++ "\" in `STALL_PROBE_` environment variable(s)"

/-- The fault as a message. -/
def describe (f : Fault) : String :=
  match f.origin with
  | .document => f.cause.inDocument
  | _ => f.cause.inLayers ++ f.place

end Fault

end FrameWatch.Settings
