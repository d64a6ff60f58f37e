import DiceLauncher.Text.Escape

/-!
# Settings

What can be set in the settings file, and how settings are written there: as a record
in RON, one field to a line.
-/

namespace DiceLauncher

/-- The settings of an interactive session. -/
structure Settings where
  /-- The file that keeps the lines entered earlier. -/
  historyFile : String := "history"
  /-- What stands in front of the line number in the prompt. -/
  prompt : String := "dicer"
  /-- Whether the best entry is rolled as soon as a query is entered. -/
  autoTrigger : Bool := true
  deriving DecidableEq, Repr, Inhabited

namespace Settings

/-- The written form of a truth value. -/
def renderBool (b : Bool) : String := if b then "true" else "false"

/-- The settings as they are written to a file. -/
def render (settings : Settings) : String :=
  "(\n    history_file: " ++ Text.quoted settings.historyFile ++
  ",\n    prompt: " ++ Text.quoted settings.prompt ++
  ",\n    auto_trigger: " ++ renderBool settings.autoTrigger ++ ",\n)"

end Settings

end DiceLauncher
