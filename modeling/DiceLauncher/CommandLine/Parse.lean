import DiceLauncher.CommandLine.Options

/-!
# Reading the command line

Arguments are read from left to right, and the first problem decides. The value of
`--config` and the terms are held back until something else follows them; only then a
value that is missing, empty, or given twice is noticed. So an unknown flag right behind
such a value is reported in its place.
-/

namespace DiceLauncher.CommandLine

/-- What has been read and is held back. -/
inductive Pending
  /-- Nothing. -/
  | nothing
  /-- The flag for the settings file, with the value if that has been read. -/
  | config (value : Option String)
  /-- Terms. -/
  | terms (terms : List String)

/-- How far a command line has been read. -/
structure Progress where
  /-- Whether `--debug` was given. -/
  debug : Bool := false
  /-- Whether `--dump-config` was given. -/
  dumpConfig : Bool := false
  /-- The settings file, if one was given. -/
  config : Option String := none
  /-- The terms so far. -/
  terms : List String := []
  /-- The arguments used so far, in order. -/
  used : List Argument := []
  /-- What is held back. -/
  pending : Pending := .nothing
  /-- Whether everything that follows is a term. -/
  onlyTerms : Bool := false

namespace Progress

/-- Notes that an argument was used. -/
def note (progress : Progress) (argument : Argument) : Progress :=
  if progress.used.contains argument then progress
  else { progress with used := progress.used ++ [argument] }

/-- Accepts a value for the settings file. -/
def setConfig (progress : Progress) (value : String) : Progress × Option UsageError :=
  if progress.config.isSome then
    ({ progress with used := progress.used.filter (· ≠ .flag .config) },
      some (.repeated .config))
  else if value.isEmpty then (progress.note (.flag .config), some .missingValue)
  else ({ progress with config := some value }.note (.flag .config), none)

/-- Accepts what is held back, and says what is wrong about it. -/
def settle (progress : Progress) : Progress × Option UsageError :=
  let settled := { progress with pending := .nothing }
  match progress.pending with
  | .nothing => (settled, none)
  | .config none => (settled, some .missingValue)
  | .config (some value) => settled.setConfig value
  | .terms terms => ({ settled with terms := settled.terms ++ terms }.note .terms, none)

/-- Accepts what is held back, and stops if something is wrong about it. -/
def settled (progress : Progress) : Except Refusal Progress :=
  match progress.settle with
  | (progress, none) => .ok progress
  | (_, some error) => .error (.wrong error)

/-- Accepts a flag without a value. -/
def raise (progress : Progress) (flag : Flag) : Except Refusal Progress := do
  let progress ← progress.settled
  match flag with
  | .debug =>
    if progress.debug then .error (.wrong (.repeated .debug))
    else .ok ({ progress with debug := true }.note (.flag .debug))
  | .dumpConfig =>
    if progress.dumpConfig then .error (.wrong (.repeated .dumpConfig))
    else .ok ({ progress with dumpConfig := true }.note (.flag .dumpConfig))
  | .config => .ok { progress with pending := .config none }
  | .help => .error .help
  | .version => .error .version

/-- Accepts the settings file with a value that is attached to its flag. -/
def raiseWith (progress : Progress) (value : List Char) : Except Refusal Progress := do
  let progress ← progress.settled
  match progress.setConfig (String.ofList value) with
  | (progress, none) => .ok progress
  | (_, some error) => .error (.wrong error)

/-- Reads a term, or the value that the flag for the settings file waits for. -/
def plain (progress : Progress) (argument : String) : Except Refusal Progress :=
  match progress.pending, progress.onlyTerms with
  | .config none, false => .ok { progress with pending := .config (some argument) }
  | .terms terms, _ => .ok { progress with pending := .terms (terms ++ [argument]) }
  | _, _ => do
    let progress ← progress.settled
    .ok { progress with pending := .terms [argument] }

/-- Reads an argument behind its two hyphens. -/
def long (progress : Progress) (argument : List Char) : Except Refusal Progress :=
  let name := argument.takeWhile (· != '=')
  let value := argument.dropWhile (· != '=')
  match Flag.all.find? fun flag => flag.name.toList == name with
  | none => .error (.wrong (.unknownLong name progress.settle.1.used))
  | some flag =>
    match value with
    | [] => progress.raise flag
    | _ :: value =>
      if flag = .config then progress.raiseWith value
      else .error (.wrong (.unexpectedValue flag value progress.used))

/-- Reads short flags behind their hyphen. -/
def short (progress : Progress) : List Char → Except Refusal Progress
  | [] => .ok progress
  | 'd' :: letters => do
    let progress ← progress.raise .debug
    progress.short letters
  | 'h' :: _ => progress.raise .help
  | 'V' :: _ => progress.raise .version
  | ['c'] => progress.raise .config
  | ['c', '='] => progress.raiseWith []
  | 'c' :: '=' :: value => progress.raiseWith value
  | 'c' :: value => progress.raiseWith value
  | letter :: _ => .error (.wrong (.unknownShort letter))

/-- Reads one argument. -/
def step (progress : Progress) (argument : String) : Except Refusal Progress :=
  if progress.onlyTerms then progress.plain argument
  else
    match argument.toList with
    | ['-', '-'] => .ok { progress with onlyTerms := true }
    | '-' :: '-' :: rest => progress.long rest
    | ['-'] => progress.plain argument
    | '-' :: letters => progress.short letters
    | _ => progress.plain argument

/-- The options when everything is read. -/
def options (progress : Progress) : Options :=
  { debug := progress.debug
    config := progress.config.getD ({} : Options).config
    dumpConfig := progress.dumpConfig
    terms := progress.terms }

end Progress

/-- Reads a command line without the name of the program. -/
def parse (arguments : List String) : Except Refusal Options := do
  let progress ← arguments.foldlM Progress.step {}
  let progress ← progress.settled
  .ok progress.options

end DiceLauncher.CommandLine
