import DiceLauncher.Launcher.Entry
import DiceLauncher.Style
import DiceLauncher.Terminal.Markup
import DiceLauncher.Terminal.Output
import DiceLauncher.Text.Lines

/-!
# The screen

How a terminal shows what the launcher does. A listing has a row for each entry, which
shows whether the entry can be rolled, its number, its title, the first line of its subtitle and
its score; further lines of the subtitle follow below. A notification is marked up, its title
as bold text and each line of its body as code, and then the marked-up text is painted.

Listings and the help are coloured only if colours are on. Notifications always are.
-/

namespace DiceLauncher.Screen

/-! ## Listings -/

/-- A text aligned to the right in two columns. -/
def alignRight (text : String) : String :=
  String.ofList (List.replicate (2 - text.length) ' ') ++ text

/-- The mark of an entry: whether there is something to roll. -/
def marker (entry : Entry) : String := if entry.action.isSome then "!" else " "

/-- The row of the entry with a number, and the lines below it. -/
def row (colors : Bool) (index : Nat) (entry : Entry) : String :=
  let subtitle := Text.lines entry.subtitle
  Style.dimmed.paint colors (marker entry) ++ alignRight (Decimal.render index) ++ " " ++
    Style.bold.paint colors (entry.title.getD "") ++ " " ++
    Style.dimmed.paint colors (subtitle.head?.getD "") ++ " " ++
    Style.cyan.paint colors ("[" ++ Decimal.renderInt entry.score.toInt ++ "]") ++ "\n" ++
    String.join (subtitle.tail.map fun line =>
      "     " ++ Style.dimmed.paint colors line ++ "\n")

/-- The rows of a listing, whose first entry has a number. -/
def rowsFrom (colors : Bool) (index : Nat) : List Entry → List String
  | [] => []
  | entry :: entries => row colors index entry :: rowsFrom colors (index + 1) entries

/-- A listing, whose entries are numbered from zero. -/
def listing (colors : Bool) (entries : List Entry) : String :=
  String.join (rowsFrom colors 0 entries)

/-- The help. -/
def help (colors : Bool) : String :=
  Style.bold.paint colors Catalog.description ++ "\n" ++ Catalog.help ++ "\n"

/-! ## Notifications -/

/-- A line of a body marked up as code, between backticks; nothing stands in an empty line. -/
def markedLine (line : String) : String := if line.isEmpty then "" else "`" ++ line ++ "`"

/-- The text of a notification, marked up: its title, and below it the lines of its body. -/
def markedUp (shown : Notification) : String :=
  "**" ++ shown.title ++ "**" ++ "\n" ++
    String.intercalate "\n" ((Text.lines shown.body).map markedLine)

/-- The greatest number of characters in a row of a notification. A terminal has a width of its
own; this is the one that is used where the output is not a terminal. -/
def lineWidth : Nat := 50

/-- The pieces of a text that is too long for a row: all but the last fill a row. -/
def wrap (text : List Char) : List (List Char) :=
  if lineWidth < text.length then text.take lineWidth :: wrap (text.drop lineWidth) else [text]
termination_by text.length
decreasing_by simp [lineWidth] at *; omega

/-- A piece of a part of a line, as it is set: bold text is yellow, and code has colours of its
own. -/
def paintPiece (face : Markup.Face) (piece : List Char) : String :=
  match face with
  | .plain => String.ofList piece
  | .bold => "\x1b[38;5;11m\x1b[1m" ++ String.ofList piece ++ "\x1b[0m"
  | .code => "\x1b[48;5;235m\x1b[38;5;13m" ++ String.ofList piece ++ "\x1b[49m\x1b[39m"

/-- A part of a line; what is too long for a row goes on in the next one. -/
def paintPart (part : Markup.Part) : String :=
  String.intercalate "\n" ((wrap part.text).map (paintPiece part.face))

/-- A line of marked-up text. -/
def paintLine (line : List Markup.Part) : String := String.join (line.map paintPart) ++ "\n"

/-- The lines of a notification, in their parts. -/
def notificationLines (shown : Notification) : List (List Markup.Part) :=
  (Text.lines (markedUp shown)).map fun line => Markup.parts line.toList

/-- A notification. -/
def notification (shown : Notification) : String :=
  String.join ((notificationLines shown).map paintLine) ++ "\n"

/-! ## Events -/

/-- The record that a notification comes with a picture. -/
def iconRecord (icon : Icon) : Log.Record := Log.debug ("Notification icon `" ++ icon.path ++ "`")

/-- What is put out for an event. -/
def outputs (colors : Bool) : Event → List Output
  | .helped => [.printed (help colors)]
  | .listed entries => [.printed (listing colors entries)]
  | .shown shown => [.logged (iconRecord shown.icon), .printed (notification shown)]
  | .logged record => [.logged record]

end DiceLauncher.Screen
