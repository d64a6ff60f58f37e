import DiceLauncher.Dice.Fair
import DiceLauncher.Program
import Std.Time.DateTime.PlainDateTime
import Std.Time.DateTime.Timestamp

/-!
# The command line

Runs the program in the real world: it reads and writes files, takes lines from standard
input, draws random words, and writes to the two output streams. What to read, write and
print is decided elsewhere.
-/

namespace DiceLauncher.Main

/-! ## Output -/

/-- The stamp of the present moment. -/
def now : IO String := do
  let moment ← Std.Time.Timestamp.now
  let clock := Std.Time.PlainDateTime.ofWallTime (Std.Time.WallTime.ofDuration moment.val)
  return Log.stamp clock.year.toInt.toNat clock.month.toInt.toNat clock.day.toInt.toNat
    clock.hour.toInt.toNat clock.minute.toInt.toNat clock.second.toInt.toNat
    (clock.nanosecond.toInt.toNat / 1000)

/-- Writes a piece of output. -/
def put (piece : Output) : IO Unit := do
  let stdout ← IO.getStdout
  stdout.putStr piece.onOutput
  stdout.flush
  (← IO.getStderr).putStr (piece.onError (← now))

/-- Writes the pieces of output that are wanted. -/
def putAll (debug : Bool) (pieces : List Output) : IO Unit :=
  (pieces.filter (Output.isWanted debug)).forM put

/-- Whether colours are on in a session. -/
def colors : IO Bool := do
  return Style.colorsOn (← IO.getEnv "CLICOLOR_FORCE") (← IO.getEnv "NO_COLOR")
    (← IO.getEnv "CLICOLOR") (← (← IO.getStdout).isTty)

/-- Whether colours are on in a message about the command line that goes to a stream. -/
def messageColors (stream : IO.FS.Stream) : IO Bool := do
  return Style.messageColorsOn (← IO.getEnv "CLICOLOR_FORCE") (← IO.getEnv "NO_COLOR")
    (← IO.getEnv "CLICOLOR") (← IO.getEnv "TERM") (← IO.getEnv "CI").isSome (← stream.isTty)

/-- The stream to which the answer to a refused command line goes. -/
def streamOf : CommandLine.Refusal → IO IO.FS.Stream
  | .wrong _ => IO.getStderr
  | _ => IO.getStdout

/-! ## Files -/

/-- What is wrong with a file, by the error that the system reports. -/
def faultOf (error : IO.Error) : FileFault :=
  match error with
  | .noFileOrDirectory .. => .notFound
  | .inappropriateType _ code words => .ofCode code.toNat words
  | .invalidArgument _ code words => .ofCode code.toNat words
  | .noSuchThing _ code words => .ofCode code.toNat words
  | _ => .other (toString error)

/-- The text of a file. -/
def readText (path : String) : IO (Except FileFault String) := do
  if path.contains '\x00' then return .error .nulInPath
  try
    return textOfBytes (← IO.FS.readBinFile path)
  catch error =>
    return .error (faultOf error)

/-- Makes a file anew. -/
def createText (path text : String) : IO (Except FileFault Unit) := do
  if path.contains '\x00' then return .error .nulInPath
  try
    IO.FS.writeFile path text
    return .ok ()
  catch error =>
    return .error (faultOf error)

/-- Gives a file that is there another text. -/
def rewriteText (path text : String) : IO (Except FileFault Unit) := do
  try
    let file ← IO.FS.Handle.mk path .readWrite
    file.truncate
    file.putStr text
    file.flush
    return .ok ()
  catch error =>
    return .error (faultOf error)

/-- Brings a history file up to date. -/
def updateText (path : String) : HistoryFile.Update → IO (Except FileFault Unit)
  | .keep => return .ok ()
  | .create text => createText path text
  | .rewrite text => rewriteText path text
  | .refuse fault => return .error fault

/-! ## Dice and lines -/

/-- A random word. -/
def word : IO UInt64 := do
  let bytes ← IO.getRandomBytes 8
  return bytes.toList.foldl (fun w byte => w <<< 8 ||| byte.toUInt64) 0

/-- Throws a fair die. -/
partial def dice : Source IO := fun sides => do
  match Dice.face? sides (← word) with
  | some face => return face
  | none => dice sides

/-- Reads the bytes of a line, up to and including its line feed. -/
partial def readBytes (stdin : IO.FS.Stream) (bytes : ByteArray) : IO ByteArray := do
  let next ← stdin.read 1
  if next.isEmpty then return bytes
  else if next.toList.contains 0x0a then return bytes ++ next
  else readBytes stdin (bytes ++ next)

/-- Holds a dialogue to its end. -/
partial def converse (debug : Bool) (dialogue : Dialogue) : IO (Dialogue × Ending) := do
  put (.printed dialogue.prompt)
  match Text.byteLines (← readBytes (← IO.getStdin) ByteArray.empty).toList with
  | [] => return (dialogue, .ended)
  | bytes :: _ =>
    match Editor.lineOfBytes bytes with
    | .error fault => return (dialogue, .unreadable fault)
    | .ok none => return (dialogue, .broken)
    | .ok (some line) =>
      let (next, outputs) ← dialogue.accept dice line
      putAll debug outputs
      converse debug next

/-! ## Runs -/

/-- Keeps the history of a dialogue, and gives the exit status. -/
def keepHistory (debug : Bool) (dialogue : Dialogue) : IO UInt32 := do
  let path := dialogue.settings.historyFile
  let (update, records) := dialogue.fileUpdate (← readText path)
  putAll debug (records.map .logged)
  match ← updateText path update with
  | .ok () => return 0
  | .error fault =>
    put (Program.lastWords fault)
    return 1

/-- Does what options ask for, with given settings. -/
def perform (settings : Settings) (options : CommandLine.Options) : IO UInt32 := do
  if options.dumpConfig then
    put (Program.settingsOutput settings)
    return 0
  else if options.terms.isEmpty then
    let (dialogue, outputs) :=
      Dialogue.start (← colors) settings (← readText settings.historyFile)
    putAll options.debug outputs
    let (dialogue, ending) ← converse options.debug dialogue
    putAll options.debug (Dialogue.farewell dialogue.colors ending)
    if ending = .broken then return UInt32.ofNat Program.brokenStatus
    else keepHistory options.debug dialogue
  else
    putAll options.debug (← Program.rollTerms dice (← colors) options.terms)
    return 0

/-- A run of the program. -/
def run (arguments : List String) : IO UInt32 := do
  match CommandLine.parse arguments with
  | .error refusal =>
    let (status, outputs) := Program.refuse (← messageColors (← streamOf refusal)) refusal
    putAll false outputs
    return UInt32.ofNat status
  | .ok options =>
    let (settings, records) := Settings.load options.config (← readText options.config)
    putAll options.debug (records.map .logged)
    perform settings options

end DiceLauncher.Main

/-- Runs the program. -/
def main (arguments : List String) : IO UInt32 := DiceLauncher.Main.run arguments
