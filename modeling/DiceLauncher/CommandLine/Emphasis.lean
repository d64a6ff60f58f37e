import DiceLauncher.Text.Visible

/-!
# Emphasis

Messages are made of spans, some of which are set off: a word that is wrong, one that can be
typed, a heading. A span is set off by control sequences. Where colours are off, whatever
controls a terminal is taken out of the message again, with all that a sequence takes in which
a span leaves open.
-/

namespace DiceLauncher.CommandLine

/-- Why a span is set off. -/
inductive Emphasis
  /-- It announces an error. -/
  | error
  /-- It is wrong. -/
  | invalid
  /-- It is right, or may be. -/
  | valid
  /-- It is typed as it is. -/
  | literal
  /-- It is a heading. -/
  | heading
  deriving DecidableEq, Repr

/-- The control sequences that set a span off. -/
def Emphasis.opening : Emphasis → String
  | error => "\x1b[1m\x1b[31m"
  | invalid => "\x1b[33m"
  | valid => "\x1b[32m"
  | literal => "\x1b[1m"
  | heading => "\x1b[1m\x1b[4m"

/-- A piece of a message. -/
structure Span where
  /-- Its text. -/
  text : String
  /-- Why it is set off, if it is. -/
  emphasis : Option Emphasis := none
  deriving DecidableEq, Repr

/-- A span that is not set off. -/
def plain (text : String) : Span := { text := text }

/-- A span that is set off. -/
def Emphasis.on (emphasis : Emphasis) (text : String) : Span :=
  { text := text, emphasis := some emphasis }

/-- A span with its control sequences. -/
def Span.painted (span : Span) : String :=
  match span.emphasis with
  | some emphasis => emphasis.opening ++ span.text ++ "\x1b[0m"
  | none => span.text

/-- The text of spans. -/
def renderSpans (colors : Bool) (spans : List Span) : String :=
  let painted := String.join (spans.map Span.painted)
  if colors then painted else String.ofList (Text.visible painted.toList)

end DiceLauncher.CommandLine
