import DiceLauncher.RollSpec.Term
import DiceLauncher.Style
import DiceLauncher.Text.Blank
import DiceLauncher.Text.Bytes

/-!
# Highlighting

While a line is typed, its words that are no dice terms are shown in red. Lines that
begin with `!` and the line `?` are commands and are left alone.
-/

namespace DiceLauncher.Editor

/-- A word of a line and the position of its first byte. -/
structure Span where
  /-- Where the word starts. -/
  start : Nat
  /-- The word. -/
  word : List Char
  deriving DecidableEq, Repr

/-- Where a span ends: the position behind its last byte. -/
def Span.stop (span : Span) : Nat := span.start + Text.byteLength span.word

/-- The spans of the words of a text that follows the position `position`, when `current` is
the part of a word that has been read so far, the latest character first. -/
def spansFrom (position : Nat) (current : List Char) : List Char → List Span
  | [] => close position current
  | c :: text =>
    if Text.isBlank c then close position current ++ spansFrom (position + c.utf8Size) [] text
    else spansFrom (position + c.utf8Size) (c :: current) text
where
  /-- The span of a word that ends at a position; none without a word. -/
  close (position : Nat) (current : List Char) : List Span :=
    if current.isEmpty then []
    else [⟨position - Text.byteLength current.reverse, current.reverse⟩]

/-- The spans of the words of a line, in order. -/
def spans (line : List Char) : List Span := spansFrom 0 [] line

/-- Whether a word can be read as a roll. -/
def isTerm (word : List Char) : Bool := (RollSpec.parse (String.ofList word)).isOk

/-- Whether a line is a command as far as highlighting goes. -/
def isCommand (line : List Char) : Bool :=
  (Text.trimStart line).head? == some '!' || Text.trim line == ['?']

/-- The spans of the words of a line that are no dice terms; none for a command. -/
def invalidSpans (line : List Char) : List Span :=
  if isCommand line then [] else (spans line).filter fun span => !isTerm span.word

/-- The positions where the words of a line that are no dice terms start and end. -/
def invalidTerms (line : String) : List (Nat × Nat) :=
  (invalidSpans line.toList).map fun span => (span.start, span.stop)

/-! ## Painting -/

/-- A word as it is shown. -/
def paintWord (colors : Bool) (word : List Char) : List Char :=
  if word.isEmpty || isTerm word then word else Style.red.paintChars colors word

/-- A text with its words painted, when `current` is the part of a word that has been read so
far, the latest character first. -/
def paintWords (colors : Bool) (current : List Char) : List Char → List Char
  | [] => paintWord colors current.reverse
  | c :: text =>
    if Text.isBlank c then paintWord colors current.reverse ++ c :: paintWords colors [] text
    else paintWords colors (c :: current) text

/-- A line as it is shown while it is typed. -/
def highlight (colors : Bool) (line : String) : String :=
  if isCommand line.toList then line else String.ofList (paintWords colors [] line.toList)

/-- A hint as it is shown behind the line. -/
def highlightHint (colors : Bool) (hint : String) : String := Style.dimmed.paint colors hint

/-- The prompt as it is shown: the coloured one in place of the default one, and any other
prompt as it is. -/
def highlightPrompt (colored prompt : String) (isDefault : Bool) : String :=
  if isDefault then colored else prompt

/-- Whether a line is drawn anew after every character: it is, since a character can change
what the word around it means. -/
def redrawsOnCharacter : Bool := true

/-- Whether a line is checked while it is typed: every line is accepted, so none is. -/
def validatesWhileTyping : Bool := false

end DiceLauncher.Editor
