import DiceLauncher.CommandLine.Emphasis
import DiceLauncher.CommandLine.Options
import DiceLauncher.CommandLine.Similarity

/-!
# What the command line answers

The help, the version, and the messages about a command line that is wrong. A message
names the problem, may give a tip, and may show how the program is used.
-/

namespace DiceLauncher.CommandLine

/-- The name of the program. -/
def programName : String := "dicer-repl"

/-- The version, as it is printed. -/
def versionText : String := programName ++ " 0.1.0\n"

/-! ## Usage -/

/-- A flag as messages name it. -/
def Flag.shown : Flag → String
  | config => "--config <CONFIG>"
  | flag => "--" ++ flag.name

/-- A flag as it is typed. -/
def Flag.spans (flag : Flag) : List Span :=
  match flag with
  | config => [Emphasis.literal.on "--config", plain " <CONFIG>"]
  | flag => [Emphasis.literal.on flag.shown]

/-- Whether a flag is an option of the program, and no request for the help or the version. -/
def Flag.isOption : Flag → Bool
  | help => false
  | version => false
  | _ => true

/-- A form of a command line: what stands behind the name of the program. -/
def usageOf (spans : List Span) : List Span :=
  [Emphasis.heading.on "Usage:", plain " ", Emphasis.literal.on programName] ++ spans

/-- The general form of a command line. -/
def generalUsage : List Span := usageOf [plain " [OPTIONS] [TERMS]..."]

/-- The form of a command line that uses the given arguments; the general form without any. -/
def usage (used : List Argument) : List Span :=
  if used.isEmpty then generalUsage
  else
    let flags := used.flatMap fun
      | .flag flag => plain " " :: flag.spans
      | .terms => []
    let terms := if used.contains .terms then " <TERMS>..." else " [TERMS]..."
    usageOf (flags ++ [plain terms])

/-- The form of a command line with at least one of the options or terms. -/
def choiceUsage (flag : Flag) : List Span :=
  let options := (Flag.all.filter Flag.isOption).map Flag.shown
  usageOf ((if flag.isOption then [] else plain " " :: flag.spans) ++
    [plain (" <" ++ String.intercalate "|" (options ++ ["TERMS"]) ++ ">")])

/-- The form of a command line with a flag, when the given arguments were used before it. -/
def usageWith (used : List Argument) (flag : Flag) : List Span :=
  if used.isEmpty then usage [.flag flag] else choiceUsage flag

/-! ## Help -/

/-- A line of the help about a flag: its letter, if it has one, its name, and what it does behind
some blanks. -/
def helpLine (letter : Option String) (flag : Flag) (about : String) : List Span :=
  (match letter with
    | some letter => [plain "  ", Emphasis.literal.on letter, plain ", "]
    | none => [plain "      "]) ++ flag.spans ++ [plain (about ++ "\n")]

/-- The help. -/
def help : List Span :=
  [plain "Terminal launcher for dice notation queries\n\n"] ++ generalUsage ++ [plain "\n\n",
    Emphasis.heading.on "Arguments:",
    plain "\n  [TERMS]...  Dice notations to roll once, e.g. `2d6+1 1d20`\n\n",
    Emphasis.heading.on "Options:", plain "\n"] ++
  helpLine (some "-d") .debug "            Enable Debug logging" ++
  helpLine (some "-c") .config "  RON settings file [default: dicer.ron]" ++
  helpLine none .dumpConfig "      Print the effective settings and exit" ++
  helpLine (some "-h") .help "             Print help" ++
  helpLine (some "-V") .version "          Print version"

/-- The help, as it is printed. -/
def helpText (colors : Bool) : String := renderSpans colors help

/-! ## Messages -/

/-- How similar a flag has to be to be suggested: more than seven tenths. -/
def suggestionBound : Float := 0.7

/-- The flag that may be meant by an unknown name. -/
def suggestion (name : List Char) : Option Flag :=
  match Similarity.best suggestionBound name (Flag.all.map fun flag => flag.name.toList) with
  | some similar => Flag.all.find? fun flag => flag.name.toList == similar
  | none => none

/-- A message: the problem, a tip and a usage. -/
structure Message where
  /-- What is wrong. -/
  problem : List Span
  /-- What may help. -/
  tip : Option (List Span) := none
  /-- How the program is used. -/
  usage : Option (List Span) := none
  deriving Repr

/-- The whole message in spans. -/
def Message.spans (message : Message) : List Span :=
  [Emphasis.error.on "error:", plain " "] ++ message.problem ++ [plain "\n\n"] ++
  (match message.tip with
    | some tip => [plain "  ", Emphasis.valid.on "tip:", plain " "] ++ tip ++ [plain "\n\n"]
    | none => []) ++
  (match message.usage with
    | some usage => usage ++ [plain "\n\n"]
    | none => []) ++
  [plain "For more information, try '", Emphasis.literal.on Flag.help.shown, plain "'.\n"]

/-- The message as it is printed. -/
def Message.render (message : Message) (colors : Bool) : String :=
  renderSpans colors message.spans

/-- The tip to pass something that looks like a flag as a term. -/
def termTip (argument : String) : List Span :=
  [plain "to pass '", Emphasis.invalid.on argument, plain "' as a value, use '",
    Emphasis.valid.on ("-- " ++ argument), plain "'"]

/-- The tip that another flag may be meant. -/
def flagTip (flag : Flag) : List Span :=
  [plain "a similar argument exists: '", Emphasis.valid.on ("--" ++ flag.name), plain "'"]

/-- The problem of an unknown flag. -/
def unknownProblem (argument : String) : List Span :=
  [plain "unexpected argument '", Emphasis.invalid.on argument, plain "' found"]

/-- The message about what is wrong. -/
def UsageError.message : UsageError → Message
  | unknownShort letter =>
    let argument := String.ofList ['-', letter]
    { problem := unknownProblem argument, tip := termTip argument, usage := generalUsage }
  | unknownLong name used =>
    let argument := "--" ++ String.ofList name
    match suggestion name with
    | some flag =>
      { problem := unknownProblem argument
        tip := flagTip flag
        usage := usage (if used.contains (.flag flag) then used else used ++ [.flag flag]) }
    | none =>
      { problem := unknownProblem argument, tip := termTip argument, usage := usage used }
  | missingValue =>
    { problem :=
        [plain "a value is required for '", Emphasis.invalid.on Flag.config.shown,
          plain "' but none was supplied"] }
  | unexpectedValue flag value used =>
    { problem :=
        [plain "unexpected value '", Emphasis.invalid.on (String.ofList value), plain "' for '",
          Emphasis.literal.on flag.shown, plain "' found; no more were expected"]
      usage := usageWith used flag }
  | repeated flag =>
    { problem :=
        [plain "the argument '", Emphasis.invalid.on flag.shown,
          plain "' cannot be used multiple times"]
      usage := generalUsage }

end DiceLauncher.CommandLine
