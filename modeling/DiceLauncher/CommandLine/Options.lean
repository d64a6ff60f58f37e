/-!
# Command-line options

What the command line can say, and what can be wrong about it.
-/

namespace DiceLauncher.CommandLine

/-- The flags of the command line. -/
inductive Flag
  /-- Debug records are logged. -/
  | debug
  /-- The settings file is given. -/
  | config
  /-- The settings are printed. -/
  | dumpConfig
  /-- The help is printed. -/
  | help
  /-- The version is printed. -/
  | version
  deriving DecidableEq, Repr

/-- The long name of a flag, without its hyphens. -/
def Flag.name : Flag → String
  | debug => "debug"
  | config => "config"
  | dumpConfig => "dump-config"
  | help => "help"
  | version => "version"

/-- All flags, in the order in which the help lists them. -/
def Flag.all : List Flag := [debug, config, dumpConfig, help, version]

/-- What a command line asks for. -/
structure Options where
  /-- Whether debug records are logged. -/
  debug : Bool := false
  /-- The settings file. -/
  config : String := "dicer.ron"
  /-- Whether the settings are printed, and nothing else is done. -/
  dumpConfig : Bool := false
  /-- The terms to roll once; without any the program is interactive. -/
  terms : List String := []
  deriving DecidableEq, Repr

/-- Something that a command line has used. -/
inductive Argument
  /-- A flag. -/
  | flag (flag : Flag)
  /-- The terms. -/
  | terms
  deriving DecidableEq, Repr

/-- What is wrong about a command line. -/
inductive UsageError
  /-- There is no such short flag. -/
  | unknownShort (letter : Char)
  /-- There is no such long flag; these arguments were used before it. -/
  | unknownLong (name : List Char) (used : List Argument)
  /-- The settings file is not named. -/
  | missingValue
  /-- A flag is given a value that it cannot take; these arguments were used before it. -/
  | unexpectedValue (flag : Flag) (value : List Char) (used : List Argument)
  /-- A flag is given twice. -/
  | repeated (flag : Flag)
  deriving DecidableEq, Repr

/-- Why a command line gives no options. -/
inductive Refusal
  /-- It asks for the help. -/
  | help
  /-- It asks for the version. -/
  | version
  /-- Something is wrong about it. -/
  | wrong (error : UsageError)
  deriving DecidableEq, Repr

end DiceLauncher.CommandLine
