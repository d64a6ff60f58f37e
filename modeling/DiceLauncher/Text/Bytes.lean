/-!
# Positions in bytes

Positions in a text count the bytes of its UTF-8 form. A position is a *boundary* if
it lies between two characters or at an end of the text; only there a text can be
cut.
-/

namespace DiceLauncher.Text

/-- The number of bytes of a text. -/
def byteLength (text : List Char) : Nat := text.foldr (fun c size => c.utf8Size + size) 0

/-- Cuts a text at a position; nothing unless the position is a boundary of the text. -/
def splitAt? : Nat → List Char → Option (List Char × List Char)
  | 0, text => some ([], text)
  | _ + 1, [] => none
  | position, c :: text =>
    if c.utf8Size ≤ position then
      match splitAt? (position - c.utf8Size) text with
      | some (before, after) => some (c :: before, after)
      | none => none
    else none

/-- The part of a text before a position, if that is a boundary. -/
def before? (position : Nat) (text : List Char) : Option (List Char) :=
  (splitAt? position text).map Prod.fst

/-- The part of a text from a position on, if that is a boundary. -/
def from? (position : Nat) (text : List Char) : Option (List Char) :=
  (splitAt? position text).map Prod.snd

/-- The part of a text between two positions, if both are boundaries in their order. -/
def slice? (start stop : Nat) (text : List Char) : Option (List Char) :=
  (before? stop text).bind (from? start)

end DiceLauncher.Text
