/-!
# Lines

A line feed ends a line, and a carriage return right before the line feed does not
belong to the line. What stands behind the last line feed is a line too, unless it is
empty; there every carriage return is kept.

The rule is the same for characters and for bytes, so it is stated for symbols of any
kind, two of which are the line feed and the carriage return.
-/

namespace DiceLauncher.Text

/-- The lines of a sequence of symbols. -/
def splitLines {α : Type} [BEq α] (feed ret : α) : List α → List (List α)
  | [] => []
  | c :: text =>
    if c == feed then [] :: splitLines feed ret text
    else if c == ret && text.head? == some feed then splitLines feed ret text
    else
      match splitLines feed ret text with
      | [] => [[c]]
      | line :: lines => (c :: line) :: lines

/-- The lines of a text. -/
def lines (text : String) : List String :=
  (splitLines '\n' '\r' text.toList).map String.ofList

/-- The lines of bytes. -/
def byteLines (bytes : List UInt8) : List (List UInt8) := splitLines 0x0a 0x0d bytes

end DiceLauncher.Text
