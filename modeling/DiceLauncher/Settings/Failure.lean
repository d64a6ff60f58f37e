import DiceLauncher.Decimal
import DiceLauncher.Text.Bytes
import DiceLauncher.Text.Escape

/-!
# Why a settings file cannot be read

A reader that fails stops somewhere in the file. A `Stop` says why and where: it keeps
the text that was left. The position of a stop, a line and a column in bytes, follows
from the text before it, and from the columns that were counted twice on its line.
-/

namespace DiceLauncher.Settings

/-- What is wrong about an escape in a string. -/
inductive EscapeFault
  /-- The character behind the backslash stands for nothing. -/
  | unknown
  /-- A hexadecimal digit is missing. -/
  | noHexDigit
  /-- The brace that opens a code point is missing. -/
  | noOpeningBrace
  /-- There are no digits between the braces. -/
  | noDigits
  /-- The brace that closes a code point is missing. -/
  | noClosingBrace
  /-- The code point is not that of a character. -/
  | noChar
  deriving DecidableEq, Repr

/-- Why reading stopped. -/
inductive Cause
  /-- The file ends too early. -/
  | unexpectedEnd
  /-- A byte that cannot stand there, as the character with its number. -/
  | unexpectedByte (byte : Char)
  /-- A block comment is not closed. -/
  | unclosedComment
  /-- A `#` does not begin an attribute. -/
  | expectedAttribute
  /-- An attribute is not closed. -/
  | expectedAttributeEnd
  /-- An attribute names an unknown extension. -/
  | noSuchExtension (name : List Char)
  /-- The record has another name. -/
  | otherStruct (name : List Char)
  /-- There is no record. -/
  | expectedOpening
  /-- Two items are not separated. -/
  | expectedComma
  /-- A name is missing. -/
  | expectedIdentifier
  /-- A name has characters that only a raw name may have. -/
  | invalidIdentifier (name : List Char)
  /-- A field is given twice. -/
  | duplicateField (name : List Char)
  /-- A field or key is not followed by a colon. -/
  | expectedColon
  /-- A truth value is missing. -/
  | expectedBoolean
  /-- A string is missing. -/
  | expectedString
  /-- A string is not closed. -/
  | expectedStringEnd
  /-- An escape is malformed. -/
  | invalidEscape (fault : EscapeFault)
  /-- A character in single quotes is missing or malformed. -/
  | expectedChar
  /-- A number is malformed. -/
  | expectedFloat
  /-- A number with a fraction or an exponent holds an underscore. -/
  | underscoreInFloat
  /-- `Some` is not followed by its value. -/
  | expectedOption
  /-- `Some` has more than one value, or is not closed. -/
  | expectedOptionEnd
  /-- Values are nested too deeply. -/
  | tooDeep
  /-- Something follows the record. -/
  | trailing
  deriving DecidableEq, Repr

/-- Where and why reading stopped. -/
structure Stop where
  /-- Why. -/
  cause : Cause
  /-- The text that was left. -/
  rest : List Char
  /-- Whether the first byte of that text was read all the same. -/
  partway : Bool := false
  /-- By how many columns the count is ahead of that text. -/
  ahead : Nat := 0
  deriving DecidableEq, Repr

/-- The characters of which bytes are left at a stop; one of several bytes is among them even if
its first byte was read. -/
def Stop.left (stop : Stop) : List Char :=
  match stop.rest with
  | [] => []
  | c :: rest => if stop.partway && c.utf8Size == 1 then rest else c :: rest

/-! ## Positions -/

/-- A line and a column, both counted from one; a column is a byte. -/
structure Position where
  /-- The line. -/
  line : Nat := 1
  /-- The column. -/
  column : Nat := 1
  deriving DecidableEq, Repr

namespace Position

/-- The position behind some bytes that belong to a character. -/
def skip (position : Position) (c : Char) (bytes : Nat) : Position :=
  if c = '\n' then ⟨position.line + 1, 1⟩ else ⟨position.line, position.column + bytes⟩

/-- The position behind a text that starts at the beginning. -/
def behind (text : List Char) : Position :=
  text.foldl (fun position c => position.skip c c.utf8Size) {}

end Position

/-- The position in a file at which reading stopped. -/
def Stop.position (stop : Stop) (content : List Char) : Position :=
  let reached := Position.behind (content.take (content.length - stop.rest.length))
  let position := match stop.partway, stop.rest with
    | true, c :: _ => reached.skip c 1
    | _, _ => reached
  { position with column := position.column + stop.ahead }

/-! ## Wording -/

/-- Whether a character can start a plain name. -/
def isNameStart (c : Char) : Bool := c.isAlpha || c == '_'

/-- Whether a character can be part of a plain name. -/
def isNameChar (c : Char) : Bool := isNameStart c || c.isDigit

/-- Whether a character can be part of a raw name. -/
def isRawNameChar (c : Char) : Bool := isNameChar c || c == '.' || c == '+' || c == '-'

/-- A name as messages show it: a name that is not plain carries the mark of a raw name. -/
def showName (name : List Char) : String :=
  let plain := (name.head?.map isNameStart).getD false && name.all isNameChar
  "`" ++ (if plain then "" else "r#") ++ String.ofList name ++ "`"

/-- A character in single quotes. -/
def showChar (c : Char) : String :=
  "'" ++ String.ofList (Text.escapeCharBut '"' c) ++ "'"

/-- The wording of a malformed escape. -/
def EscapeFault.message : EscapeFault → String
  | unknown => "Unknown escape character"
  | noHexDigit => "Non-hex digit found"
  | noOpeningBrace => "Missing \x7b in Unicode escape"
  | noDigits => "Expected 1-6 digits, got 0 digits in Unicode escape"
  | noClosingBrace => "No \x7d at the end of Unicode escape"
  | noChar => "Not a valid char"

/-- The wording of a cause. -/
def Cause.message : Cause → String
  | unexpectedEnd => "Unexpected end of RON"
  | unexpectedByte byte => "Unexpected byte " ++ showChar byte
  | unclosedComment => "Unclosed block comment"
  | expectedAttribute => "Expected an `#![enable(...)]` attribute"
  | expectedAttributeEnd => "Expected closing `)]` after the enable attribute"
  | noSuchExtension name => "No RON extension named " ++ showName name
  | otherStruct name => "Expected struct `Settings` but found " ++ showName name
  | expectedOpening => "Expected opening `(` for struct `Settings`"
  | expectedComma => "Expected comma"
  | expectedIdentifier => "Expected identifier"
  | invalidIdentifier name =>
    "Found invalid std identifier `" ++ String.ofList name ++
      "`, try the raw identifier `r#" ++ String.ofList name ++ "` instead"
  | duplicateField name => "Unexpected duplicate field " ++ showName name ++ " in `Settings`"
  | expectedColon => "Expected colon"
  | expectedBoolean => "Expected boolean"
  | expectedString => "Expected string"
  | expectedStringEnd => "Expected end of string"
  | invalidEscape fault => fault.message
  | expectedChar => "Expected char"
  | expectedFloat => "Expected float"
  | underscoreInFloat => "Unexpected underscore in float"
  | expectedOption => "Expected option"
  | expectedOptionEnd => "Expected closing `)`"
  | tooDeep => "Exceeded recursion limit, try increasing the limit and using " ++
      "`serde_stacker` to protect against a stack overflow"
  | trailing => "Non-whitespace trailing characters"

/-- The message of a stop in a file: its position and the wording of its cause. -/
def Stop.message (stop : Stop) (content : String) : String :=
  let position := stop.position content.toList
  Decimal.render position.line ++ ":" ++ Decimal.render position.column ++ ": " ++
    stop.cause.message

end DiceLauncher.Settings
