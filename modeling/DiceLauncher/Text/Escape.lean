import DiceLauncher.Text.Printable

/-!
# Escaped characters

How a character is written inside quotes: quotes and the backslash behind a
backslash, a few control characters by their letters, any other character that has no
shape of its own by its code point in braces, and everything else as it is.
-/

namespace DiceLauncher.Text

/-- The written form of a code point: lowercase hexadecimal digits in braces. -/
def codePoint (n : Nat) : List Char :=
  ['\\', 'u', '\x7b'] ++ Nat.toDigits 16 n ++ ['\x7d']

/-- A character as it is written inside quotes. -/
def escapeChar (c : Char) : List Char :=
  if c = '\x00' then ['\\', '0']
  else if c = '\t' then ['\\', 't']
  else if c = '\r' then ['\\', 'r']
  else if c = '\n' then ['\\', 'n']
  else if c = '\'' ∨ c = '"' ∨ c = '\\' then ['\\', c]
  else if isPrintable c then [c]
  else codePoint c.toNat

/-- A character as it is written inside quotes where another kind of quote stands free. -/
def escapeCharBut (free : Char) (c : Char) : List Char := if c = free then [c] else escapeChar c

/-- A text as it is written inside quotes. -/
def escape (text : List Char) : List Char := text.flatMap escapeChar

/-- A text in double quotes. -/
def quoted (text : String) : String :=
  String.ofList ('"' :: escape text.toList ++ ['"'])

/-- A path in double quotes: single quotes stand free in it. -/
def quotedPath (path : String) : String :=
  String.ofList ('"' :: path.toList.flatMap (escapeCharBut '\'') ++ ['"'])

end DiceLauncher.Text
