/-!
# Coloured text

Text is coloured by terminal control sequences: one that turns a style on, the text,
and one that turns everything off. Where the text itself turns everything off, the
style is turned on again right behind. Without colours all text stays as it is.
-/

namespace DiceLauncher

/-- How a piece of text is set off. -/
inductive Style
  /-- Bold. -/
  | bold
  /-- Faint. -/
  | dimmed
  /-- Red. -/
  | red
  /-- Cyan. -/
  | cyan
  /-- Bold and yellow. -/
  | boldYellow
  /-- Bold and red. -/
  | boldRed
  deriving DecidableEq, Repr

namespace Style

/-- The parameters of the sequence that turns a style on. -/
def code : Style → String
  | bold => "1"
  | dimmed => "2"
  | red => "31"
  | cyan => "36"
  | boldYellow => "1;33"
  | boldRed => "1;31"

/-- The sequence that turns a style on. -/
def opening (style : Style) : List Char := "\x1b[".toList ++ style.code.toList ++ ['m']

/-- The sequence that turns every style off. -/
def closing : List Char := ['\x1b', '[', '0', 'm']

/-- A text with a style turned on again wherever the text turns everything off. -/
def reopen (style : Style) : List Char → List Char
  | '\x1b' :: '[' :: '0' :: 'm' :: text => closing ++ style.opening ++ reopen style text
  | c :: text => c :: reopen style text
  | [] => []

/-- A text in a style, if colours are on. -/
def paintChars (style : Style) (colors : Bool) (text : List Char) : List Char :=
  if colors then style.opening ++ style.reopen text ++ closing else text

/-- A text in a style, if colours are on. -/
def paint (style : Style) (colors : Bool) (text : String) : String :=
  String.ofList (style.paintChars colors text.toList)

/-! ## Whether colours are on -/

/-- Whether a variable of the environment is set, to something else than zero. -/
def isSet (setting : Option String) : Bool :=
  match setting with
  | some value => value != "0"
  | none => false

/-- Where colours are on. -/
structure Colors where
  /-- In what a session prints and remarks. -/
  session : Bool
  /-- In messages about the command line. -/
  messages : Bool
  deriving DecidableEq, Repr

/-- Whether colours are on in a session: they can be forced; else they can be banned by any value;
else they are on if the output is a terminal, unless they are turned off with a zero. -/
def colorsOn (forced banned wanted : Option String) (terminal : Bool) : Bool :=
  isSet forced || (banned.isNone && wanted != some "0" && terminal)

/-- Whether colours are on in messages about the command line: they can be banned by any text; else
they can be forced, or turned off with a zero; else they are on if the output is a terminal that
shows them: its kind is known and not dumb, colours are wanted, or a service runs the program. -/
def messageColorsOn (forced banned wanted kind : Option String) (isService : Bool)
    (terminal : Bool) : Bool :=
  if (banned.getD "").isEmpty then
    isSet forced || (wanted != some "0" && terminal &&
      (isService || isSet wanted || (kind.isSome && kind != some "dumb")))
  else false

end Style

end DiceLauncher
