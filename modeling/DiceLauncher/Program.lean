import DiceLauncher.CommandLine.Message
import DiceLauncher.CommandLine.Parse
import DiceLauncher.Dialogue.Run
import DiceLauncher.Disk.Basic

/-!
# The program

A run of the program from its command line to its exit status. It may print the help or the
version, refuse the command line, print its settings, roll the terms of the command line,
or hold a dialogue.

Results:
* `Program.run` gives the exit status, the output and the disk after a run.
-/

namespace DiceLauncher.Program

variable {m : Type → Type} [Monad m]

/-- What a run reads lines from. -/
inductive Input
  /-- Bytes that are given in advance. -/
  | piped (bytes : List UInt8)
  /-- What is typed on a terminal. -/
  | typed (characters : List Char)
  deriving DecidableEq, Repr

/-- What a run comes to. -/
structure Result where
  /-- The exit status. -/
  status : Nat
  /-- What was put out. -/
  outputs : List Output
  /-- The disk afterwards. -/
  disk : Disk
  deriving DecidableEq, Repr

/-- All that can be read from an input, and the input when it is read. What is typed on a
terminal waits for a prompt. -/
def Input.drain : Input → Except FileFault String × Input
  | piped bytes => (textOfBytes ⟨bytes.toArray⟩, piped [])
  | typed characters => (.ok "", typed characters)

/-- The text of the file that a path leads to, and the input when it is read: a path may lead to
the input. -/
def readFile (disk : Disk) (input : Input) (path : String) :
    Except FileFault String × Input :=
  if disk.resolve path = .fixture .input then input.drain else (disk.read path, input)

/-! ## Parts of a run -/

/-- The exit status and the output of a run whose command line gives no options. -/
def refuse (colors : Bool) : CommandLine.Refusal → Nat × List Output
  | .help => (0, [.printed (CommandLine.helpText colors)])
  | .version => (0, [.printed CommandLine.versionText])
  | .wrong error => (2, [.remarked (error.message.render colors)])

/-- What is put out when the settings are printed. -/
def settingsOutput (settings : Settings) : Output := .printed (settings.render ++ "\n")

/-- Rolls the terms of the command line; the roll is triggered at once. -/
def rollTerms (source : Source m) (colors : Bool) (terms : List String) :
    m (List Output) := do
  let session : Session := { autoTrigger := true }
  let (_, events) ← session.handle source (String.intercalate " " terms)
  pure (events.flatMap (Screen.outputs colors))

/-- The last words of a run whose history cannot be kept. -/
def lastWords (fault : FileFault) : Output := .remarked ("Error: " ++ fault.details ++ "\n")

/-- The exit status of a run whose line editor broke down. -/
def brokenStatus : Nat := 101

/-- The disk when a history file has become what it has to. -/
def updated (disk : Disk) (path : String) : HistoryFile.Update → Except FileFault Disk
  | .keep => .ok disk
  | .create text => disk.create path text
  | .rewrite text => disk.rewrite path text
  | .refuse fault => .error fault

/-- Keeps the history of a dialogue. -/
def keepHistory (dialogue : Dialogue) (disk : Disk) : Result :=
  let path := dialogue.settings.historyFile
  let (update, records) := dialogue.fileUpdate (disk.read path)
  match updated disk path update with
  | .ok disk => ⟨0, records.map .logged, disk⟩
  | .error fault => ⟨1, records.map .logged ++ [lastWords fault], disk⟩

/-- Ends a run when its dialogue has ended. -/
def conclude (course : Dialogue.Course) (disk : Disk) : Result :=
  let outputs := course.outputs ++ Dialogue.farewell course.last.colors course.ending
  if course.ending = .broken then ⟨brokenStatus, outputs, disk⟩
  else
    let result := keepHistory course.last disk
    { result with outputs := outputs ++ result.outputs }

/-- Holds a dialogue. -/
def converse (source : Source m) (colors : Bool) (settings : Settings) (disk : Disk)
    (input : Input) : m Result := do
  let (file, input) := readFile disk input settings.historyFile
  let (dialogue, outputs) := Dialogue.start colors settings file
  let course ← match input with
    | .piped bytes => dialogue.runLines source (Text.byteLines bytes)
    | .typed characters => dialogue.runKeys source "" (Editor.Key.decode characters)
  pure (conclude (course.after outputs) disk)

/-! ## Runs -/

/-- Does what options ask for, with given settings. -/
def perform (source : Source m) (colors : Bool) (settings : Settings) (disk : Disk)
    (input : Input) (options : CommandLine.Options) : m Result :=
  if options.dumpConfig then pure ⟨0, [settingsOutput settings], disk⟩
  else if options.terms.isEmpty then converse source colors settings disk input
  else do
    let outputs ← rollTerms source colors options.terms
    pure ⟨0, outputs, disk⟩

/-- A run of the program. -/
def run (source : Source m) (colors : Style.Colors) (disk : Disk) (input : Input)
    (arguments : List String) : m Result :=
  match CommandLine.parse arguments with
  | .error refusal =>
    let (status, outputs) := refuse colors.messages refusal
    pure ⟨status, outputs, disk⟩
  | .ok options => do
    let (file, input) := readFile disk input options.config
    let (settings, records) := Settings.load options.config file
    let result ← perform source colors.session settings disk input options
    let outputs := records.map Output.logged ++ result.outputs
    pure { result with outputs := outputs.filter (Output.isWanted options.debug) }

end DiceLauncher.Program
