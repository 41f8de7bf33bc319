import FrameWatch.Settings.Config
import FrameWatch.Settings.Layers

/-!
# The command line

What the program can be told to do, and how its arguments say so. Options for the whole program may
stand in front of the command or behind it; what stands behind it wins.
-/

namespace FrameWatch.CommandLine

/-- Options for the whole program. -/
structure GlobalOptions where
  /-- The path of the settings file. -/
  config : Option String
  backend : Option Backend
  logFormat : Option LogFormat
deriving DecidableEq

/-- Options of the run command. -/
structure RunOptions where
  target : Option Nat
  deadline : Option Duration
  runs : Option Nat
  /-- Whether the report is printed as a JSON document. -/
  json : Bool
deriving DecidableEq

/-- What the program is told to do. -/
inductive Command
  | run (options : RunOptions)
  | list
deriving DecidableEq

/-- The arguments that help may be asked about. -/
inductive Topic
  | program | run | list | help
deriving DecidableEq, Repr

/-- What the arguments amount to. -/
inductive Parsed
  | command (options : GlobalOptions) (command : Command)
  | help (topic : Topic) (long : Bool)
  /-- There are no arguments at all. -/
  | nothing
  /-- The arguments make no sense. -/
  | misuse
deriving DecidableEq

/-- Where the arguments have led to so far. -/
inductive Scope
  | program
  | run (options : RunOptions)
  | list
deriving DecidableEq

/-- The options read so far: those in front of the command, and those at hand. -/
structure Reading where
  outer : GlobalOptions
  inner : GlobalOptions
  scope : Scope
  /-- Whether the option right in front of the command has an unsuitable value. That counts once the
  arguments have ended: help that is asked for behind the command comes first. -/
  unsuitable : Bool
deriving DecidableEq

/-- No option. -/
def GlobalOptions.none : GlobalOptions := ⟨Option.none, Option.none, Option.none⟩

/-- No option. -/
def RunOptions.none : RunOptions := ⟨Option.none, Option.none, Option.none, false⟩

/-- The options of both, those of `inner` first. -/
def GlobalOptions.over (inner outer : GlobalOptions) : GlobalOptions where
  config := inner.config <|> outer.config
  backend := inner.backend <|> outer.backend
  logFormat := inner.logFormat <|> outer.logFormat

/-- The topic that the arguments have led to. -/
def Scope.topic : Scope → Topic
  | program => .program
  | run _ => .run
  | list => .list

/-- The number that an argument spells, if it is a count of 32 bits. -/
def count? (s : String) : Option Nat :=
  let n :=
    match Decimal.negative? s.toList with
    | some 0 => some 0
    | some _ => none
    | none => Decimal.natural? s.toList
  n.filter (· < 2 ^ 32)

/-- The option set to a value for the first time. -/
def setOnce {α : Type} (old : Option α) (value : Option α) : Option (Option α) :=
  match old, value with
  | none, some a => some (some a)
  | _, _ => none

/-- The options with one more that takes a value. -/
def GlobalOptions.set? (o : GlobalOptions) (name value : String) : Option GlobalOptions :=
  match name with
  | "config" =>
    (setOnce o.config (if value.isEmpty then Option.none else some value)).map fun v =>
      { o with config := v }
  | "backend" =>
    (setOnce o.backend (Backend.all.find? (·.name == value))).map fun v => { o with backend := v }
  | "log-format" =>
    (setOnce o.logFormat (LogFormat.all.find? (·.name == value))).map fun v =>
      { o with logFormat := v }
  | _ => Option.none

/-- The options with one more that takes a value. -/
def RunOptions.set? (o : RunOptions) (name value : String) : Option RunOptions :=
  match name with
  | "target" => (setOnce o.target (count? value)).map fun v => { o with target := v }
  | "deadline" =>
    (setOnce o.deadline (Duration.parse? value)).map fun v => { o with deadline := v }
  | "runs" => (setOnce o.runs (count? value)).map fun v => { o with runs := v }
  | _ => Option.none

/-- Whether an option for the whole program takes a value. -/
def isGlobal (name : String) : Bool := ["config", "backend", "log-format"].contains name

/-- Whether an option of the run command takes a value. -/
def isRunOption (name : String) : Bool := ["target", "deadline", "runs"].contains name

/-- Whether an option takes a value where the arguments have led to. -/
def Scope.takesValue (s : Scope) (name : String) : Bool :=
  isGlobal name ||
    match s with
    | run _ => isRunOption name
    | _ => false

/-- The reading with one more option that takes a value. -/
def Reading.set? (r : Reading) (name value : String) : Option Reading :=
  if isGlobal name then (r.inner.set? name value).map fun o => { r with inner := o }
  else
    match r.scope with
    | .run o => (o.set? name value).map fun o => { r with scope := .run o }
    | _ => none

/-- The reading with the flag for JSON. -/
def Reading.setJson? (r : Reading) : Option Reading :=
  match r.scope with
  | .run o => if o.json then none else some { r with scope := .run { o with json := true } }
  | _ => none

/-- The reading behind the name of a command. -/
def Reading.enter? (r : Reading) (name : String) : Option Reading :=
  match r.scope, name with
  | .program, "run" => some ⟨r.inner, .none, .run .none, r.unsuitable⟩
  | .program, "list" => some ⟨r.inner, .none, .list, r.unsuitable⟩
  | _, _ => none

/-- What the arguments amount to once they have ended. `any` tells whether there was an option. -/
def Reading.finish (r : Reading) (any : Bool) : Parsed :=
  match r.unsuitable, r.scope with
  | true, _ => .misuse
  | false, .program => if any then .misuse else .nothing
  | false, .run o => .command (r.inner.over r.outer) (.run o)
  | false, .list => .command (r.inner.over r.outer) .list

/-- The topic of the help command with those arguments. -/
def helpTopic : List String → Parsed
  | [] => .help .program true
  | ["run"] => .help .run true
  | ["list"] => .help .list true
  | ["help"] => .help .help true
  | _ => .misuse

/-- Whether an argument can be a value: anything but an option. -/
def isValue (s : String) : Bool := !s.startsWith "-" || s = "-"

/-- Whether an argument is the name of a command. -/
def isCommand (s : String) : Bool := ["run", "list", "help"].contains s

/-- The reading with one more option whose value stands on its own; `rest` is what follows it. -/
def Reading.setSeparate? (r : Reading) (name value : String) (rest : List String) :
    Option Reading :=
  match r.set? name value with
  | some r => some r
  | none =>
    if r.scope = .program && rest.head?.any isCommand then some { r with unsuitable := true }
    else none

/-- The name of a long option and its value, if one is attached. -/
def splitOption (s : String) : String × Option String :=
  let cs := s.toList.drop 2
  let name := String.ofList (cs.takeWhile (· != '='))
  match cs.dropWhile (· != '=') with
  | [] => (name, none)
  | _ :: value => (name, some (String.ofList value))

/-- Reads the arguments one by one. -/
def read (r : Reading) (any : Bool) : List String → Parsed
  | [] => r.finish any
  | "--" :: rest => if rest.isEmpty then r.finish any else .misuse
  | arg :: rest =>
    if arg.startsWith "--" then
      match splitOption arg with
      | ("help", none) => .help r.scope.topic true
      | ("json", none) =>
        match r.setJson? with
        | some r => read r true rest
        | none => .misuse
      | (name, some value) =>
        match r.set? name value with
        | some r => read r true rest
        | none => .misuse
      | (name, none) =>
        if r.scope.takesValue name then
          match rest with
          | value :: rest =>
            if isValue value then
              match r.setSeparate? name value rest with
              | some r => read r true rest
              | none => .misuse
            else .misuse
          | [] => .misuse
        else .misuse
    else if arg.startsWith "-h" then .help r.scope.topic false
    else if !isValue arg then .misuse
    else if r.scope = .program ∧ arg = "help" then helpTopic rest
    else
      match r.enter? arg with
      | some r => read r any rest
      | none => .misuse

/-- What the arguments of the program amount to. -/
def parse (args : List String) : Parsed := read ⟨.none, .none, .program, false⟩ false args

end FrameWatch.CommandLine
