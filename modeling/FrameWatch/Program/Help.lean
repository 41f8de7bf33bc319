import FrameWatch.Program.CommandLine

/-!
# Help

What the program tells about its arguments. A short help gives every option one line; a long one
gives it a paragraph, with the meaning of each value it may take.
-/

namespace FrameWatch.CommandLine

/-- A value that an option may take, and its meaning. -/
structure Choice where
  name : String
  about : String
deriving DecidableEq, Repr

/-- What there is to tell about an option. -/
structure OptionHelp where
  spelling : String
  about : String
  /-- The value where the option is not given. -/
  standard : Option String
  /-- All values that the option may take, if they are few. -/
  choices : List Choice
deriving DecidableEq, Repr

/-- What there is to tell about an argument that is no option. -/
structure ArgumentHelp where
  spelling : String
  about : String
deriving DecidableEq, Repr

/-- `s` followed by blanks up to `width` characters. -/
def padded (width : Nat) (s : String) : String :=
  s ++ String.ofList (List.replicate (width - s.length) ' ')

/-- The greatest length among texts. -/
def widest (texts : List String) : Nat := texts.foldl (fun n s => max n s.length) 0

/-! ### Options -/

/-- The option for the settings file. -/
def configHelp : OptionHelp :=
  ⟨"    --config <CONFIG>", "Configuration file", some Settings.standardPath, []⟩

/-- The option for the backend. -/
def backendHelp : OptionHelp :=
  ⟨"    --backend <BACKEND>", "Camera backend (overrides config)", none,
    [⟨Backend.mock.name, "In-process simulated camera"⟩,
      ⟨Backend.pvcam.name, "PVCAM SDK (needs the `pvcam_hardware` feature)"⟩]⟩

/-- The option for the log format. -/
def logFormatHelp : OptionHelp :=
  ⟨"    --log-format <LOG_FORMAT>", "Log format (overrides config)", none,
    [⟨LogFormat.pretty.name, "Multi-line, colored"⟩, ⟨LogFormat.compact.name, "Single-line"⟩,
      ⟨LogFormat.json.name, "Structured JSON lines"⟩]⟩

/-- The option for help itself. -/
def helpHelp (long : Bool) : OptionHelp :=
  ⟨"-h, --help",
    if long then "Print help (see a summary with '-h')"
    else "Print help (see more with '--help')",
    none, []⟩

/-- All options that a topic has, in order. -/
def Topic.options (long : Bool) : Topic → List OptionHelp
  | .program | .list => [configHelp, backendHelp, logFormatHelp, helpHelp long]
  | .run =>
    [configHelp, ⟨"    --target <TARGET>", "Frames needed for success", none, []⟩,
      backendHelp,
      ⟨"    --deadline <DEADLINE>", "Per-frame deadline, e.g. \"2s\" or \"500ms\"", none, []⟩,
      logFormatHelp,
      ⟨"    --runs <RUNS>", "Consecutive runs; stops at the first that does not complete", none,
        []⟩,
      ⟨"    --json", "Print the report as JSON", none, []⟩, helpHelp long]
  | .help => []

/-- What a topic is about. -/
def Topic.about : Topic → String
  | .program => "Detects silent frame-delivery stalls in PVCAM continuous acquisition"
  | .run => "Run continuous acquisition and report completion or stall"
  | .list => "List cameras the backend can open"
  | .help => "Print this message or the help of the given subcommand(s)"

/-- How a topic is called. -/
def Topic.usage : Topic → String
  | .program => "Usage: pvcam_stall_probe [OPTIONS] <COMMAND>"
  | .run => "Usage: pvcam_stall_probe run [OPTIONS]"
  | .list => "Usage: pvcam_stall_probe list [OPTIONS]"
  | .help => "Usage: pvcam_stall_probe help [COMMAND]..."

/-- The arguments of a topic that are no options, under their heading. -/
def Topic.arguments : Topic → Option (String × List ArgumentHelp)
  | .program =>
    some ("Commands:",
      [⟨"run", Topic.run.about⟩, ⟨"list", Topic.list.about⟩, ⟨"help", Topic.help.about⟩])
  | .run | .list => none
  | .help => some ("Arguments:", [⟨"[COMMAND]...", "Print help for the subcommand(s)"⟩])

/-! ### Layout -/

/-- The margin of a paragraph. -/
def margin : String := "          "

/-- The notes at the end of an option's line. -/
def OptionHelp.notes (o : OptionHelp) : List String :=
  o.standard.toList.map (fun s => "[default: " ++ s ++ "]")
    ++ (if o.choices.isEmpty then []
      else ["[possible values: " ++ ", ".intercalate (o.choices.map (·.name)) ++ "]"])

/-- An option on one line, its spelling on `width` characters. -/
def OptionHelp.line (width : Nat) (o : OptionHelp) : String :=
  "  " ++ padded width o.spelling ++ "  " ++ " ".intercalate (o.about :: o.notes)

/-- The values of an option, one a line. -/
def OptionHelp.choiceLines (o : OptionHelp) : List String :=
  let width := widest (o.choices.map (·.name)) + 1
  o.choices.map fun c => margin ++ "- " ++ padded width (c.name ++ ":") ++ " " ++ c.about

/-- An option as a paragraph. -/
def OptionHelp.paragraph (o : OptionHelp) : List String :=
  ["  " ++ o.spelling, margin ++ o.about]
    ++ o.standard.toList.flatMap (fun s => [margin, margin ++ "[default: " ++ s ++ "]"])
    ++ (if o.choices.isEmpty then [] else ["", margin ++ "Possible values:"] ++ o.choiceLines)

/-- All options under their heading. -/
def optionLines (long : Bool) (options : List OptionHelp) : List String :=
  if options.isEmpty then []
  else
    ["", "Options:"]
      ++ (if long then [""].intercalate (options.map (·.paragraph))
        else options.map (·.line (widest (options.map (·.spelling)))))

/-- Arguments that are no options under their heading. -/
def argumentLines (heading : String) (arguments : List ArgumentHelp) : List String :=
  ["", heading]
    ++ arguments.map fun a =>
      "  " ++ padded (widest (arguments.map (·.spelling))) a.spelling ++ "  " ++ a.about

/-- The help about a topic. -/
def Topic.text (topic : Topic) (long : Bool) : String :=
  String.join
    (([topic.about, "", topic.usage]
      ++ topic.arguments.elim [] (fun (heading, arguments) => argumentLines heading arguments)
      ++ optionLines long (topic.options long)).map (· ++ "\n"))

/-- What is told about arguments that make no sense. -/
def misuseNotice : String :=
  "error: the arguments make no sense\n\n" ++ Topic.program.usage
    ++ "\n\nFor more information, try '--help'.\n"

end FrameWatch.CommandLine
