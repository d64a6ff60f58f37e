import DiceLauncher.History.File
import DiceLauncher.Session.Basic
import DiceLauncher.Settings.Load
import DiceLauncher.Terminal.Screen

/-!
# Dialogues

An interactive session with its prompt and its history. Every line that is entered goes into
the history and then to the session. At the end the history file is brought up to date.

Results:
* `Dialogue.start` opens a dialogue with what the history file holds.
* `Dialogue.accept` does what a line asks for.
* `Dialogue.fileUpdate` gives the text of the history file at the end, if it has to
  change.
-/

namespace DiceLauncher

/-- An interactive session between two lines. -/
structure Dialogue where
  /-- Whether colours are on. -/
  colors : Bool
  /-- The settings. -/
  settings : Settings
  /-- The session. -/
  session : Session
  /-- The lines entered in this and in earlier dialogues. -/
  history : History := {}
  /-- How many entries the history file held, if others can be appended to it. -/
  stored : Option Nat := none
  /-- How many lines were entered. -/
  entered : Nat := 0
  deriving DecidableEq, Repr

/-- Why a dialogue ends. -/
inductive Ending
  /-- It was interrupted. -/
  | interrupted
  /-- The input has ended. -/
  | ended
  /-- A line cannot be read. -/
  | unreadable (fault : FileFault)
  /-- The line editor broke down. -/
  | broken
  deriving DecidableEq, Repr

namespace Dialogue

variable {m : Type → Type} [Monad m]

/-- The remark that there is no history file. -/
def noHistory : String := "dicer: warn: no previous history"

/-- The record that a dialogue is opened. -/
def greeting : Log.Record :=
  Log.info (Catalog.name ++ " (" ++ Catalog.pluginId ++ ")")

/-- A remark on a line of its own. -/
def remark (style : Style) (colors : Bool) (text : String) : Output :=
  .remarked (style.paint colors text ++ "\n")

/-- A dialogue in which nothing was entered. -/
def fresh (colors : Bool) (settings : Settings) : Dialogue :=
  { colors := colors, settings := settings, session := { autoTrigger := settings.autoTrigger } }

/-- Opens a dialogue. The text of the history file, or what keeps it from being read, is
given. -/
def start (colors : Bool) (settings : Settings) (file : Except FileFault String) :
    Dialogue × List Output :=
  match file with
  | .error _ =>
    (fresh colors settings, [remark .boldYellow colors noHistory, .logged greeting])
  | .ok text =>
    let reading := HistoryFile.read text
    ({ fresh colors settings with
        history := reading.history
        stored := if reading.complete then some reading.history.entries.length else none },
      reading.log.map .logged ++ [.logged greeting])

/-- What stands in front of the next line. -/
def prompt (dialogue : Dialogue) : String :=
  dialogue.settings.prompt ++ ": " ++ Decimal.render (dialogue.entered + 1) ++ "> "

/-- Takes a line. -/
def accept (source : Source m) (dialogue : Dialogue) (line : String) :
    m (Dialogue × List Output) := do
  let (session, events) ← dialogue.session.handle source line
  pure
    ({ dialogue with
        session := session
        history := dialogue.history.add line
        entered := dialogue.entered + 1 },
      events.flatMap (Screen.outputs dialogue.colors))

/-- What is said at the end. -/
def farewell (colors : Bool) : Ending → List Output
  | .interrupted => [remark .boldYellow colors "dicer: signal: CTRL-C"]
  | .ended => [remark .boldYellow colors "dicer: signal: CTRL-D"]
  | .unreadable fault => [remark .boldRed colors ("dicer: error: `" ++ fault.details ++ "`")]
  | .broken => []

/-- What becomes of the history file at the end, and the records that this leaves. The text that
the file has now, or what keeps it from being read, is given. -/
def fileUpdate (dialogue : Dialogue) (present : Except FileFault String) :
    HistoryFile.Update × List Log.Record :=
  HistoryFile.update dialogue.stored dialogue.history present

end Dialogue

end DiceLauncher
