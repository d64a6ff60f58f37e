import DiceLauncher.Settings.Cursor
import DiceLauncher.Settings.Number

/-!
# Values of unknown fields

The value of a field that the settings do not have is skipped. It can be any RON value:
a truth value, a number, a character, a string, an option, a list, a map, or a record
with or without a name.

Values may be nested. `skipValue` and `skipItems` are given how many levels are left;
every list, map, record and option takes a level, and so does every item of them. The
empty pair of brackets takes none.
-/

namespace DiceLauncher.Settings

/-- What items between brackets are made of. -/
inductive Shape
  /-- Values in square brackets. -/
  | list
  /-- Values in round brackets. -/
  | tuple
  /-- Named values in round brackets. -/
  | record
  /-- Keys with values in braces. -/
  | map
  deriving DecidableEq, Repr

/-- The bracket that closes items. -/
def Shape.closing : Shape → Char
  | list => ']'
  | tuple => ')'
  | record => ')'
  | map => '\x7d'

/-- The text behind a colon with blanks around it. -/
def skipColon (text : List Char) : Except Stop (List Char) := do
  let text ← skipBlank text
  match text with
  | ':' :: rest => skipBlank rest
  | _ => stopAt .expectedColon text

/-- The text behind a comma and the blanks around it, and whether there is a comma. -/
def skipComma (text : List Char) : Except Stop (Bool × List Char) := do
  let text ← skipBlank text
  match text with
  | ',' :: rest => do
    let rest ← skipBlank rest
    .ok (true, rest)
  | _ => .ok (false, text)

/-- Whether round brackets hold named values: their first item is a name with a colon. The text
behind the opening bracket is given. -/
def holdsNames (inner : List Char) : Except Stop Bool :=
  match identifier inner with
  | .error _ => .ok false
  | .ok (_, rest) => do
    let rest ← skipBlank rest
    match rest with
    | [] => stopAt .unexpectedEnd []
    | c :: _ => .ok (c == ':')

/-- The shape of what is between round brackets. The cursor is in front of the opening bracket,
and where the shape cannot be told, reading stops there. -/
def Cursor.roundShape (cursor : Cursor) : Except Stop Shape :=
  match (skipBlank (cursor.text.drop 1)).bind holdsNames with
  | .ok named => .ok (if named then .record else .tuple)
  | .error stop => cursor.stop stop.cause

/-- The cursor behind a number. -/
def Cursor.skipNumber (cursor : Cursor) : Except Stop Cursor := do
  let (twice, next) ← cursor.read number
  .ok { next with ahead := next.ahead + twice }

/-- The words that are values by themselves. -/
def valueWords : List (List Char) :=
  ["true".toList, "false".toList, "None".toList, "inf".toList, "-inf".toList, "NaN".toList]

/-- The text behind a value that is nothing but a word or an empty pair of brackets. -/
def skipWord? (text : List Char) : Option (List Char) :=
  match literal? ['(', ')'] text with
  | some rest => some rest
  | none => valueWords.findSome? (keyword? · text)

mutual

/-- The cursor behind a value that may be nested `levels` deep. If `bare`, the value of `Some`
needs no brackets. -/
def skipValue (bare : Bool) (levels : Nat) (cursor : Cursor) : Except Stop Cursor :=
  match skipWord? cursor.text with
  | some rest => .ok (cursor.moveTo rest)
  | none =>
    match keyword? ['S', 'o', 'm', 'e'] cursor.text with
    | some rest => do
      let next ← (cursor.moveTo rest).skip skipBlank
      match next.text with
      | '(' :: rest => do
        let next ← (next.moveTo rest).skip skipBlank
        match levels with
        | 0 => next.stop .tooDeep
        | levels + 1 => do
          let next ← skipValue bare levels next
          let (_, next) ← next.read skipComma
          match next.text with
          | ')' :: rest => .ok (next.moveTo rest)
          | _ => next.stop .expectedOptionEnd
      | _ =>
        if bare then
          match levels with
          | 0 => next.stop .tooDeep
          | levels + 1 => skipValue bare levels next
        else next.stop .expectedOption
    | none =>
      match cursor.read identifier with
      | .ok (_, next) => do
        let next ← next.skip skipBlank
        match next.text with
        | '(' :: inner => do
          let shape ← next.roundShape
          match levels with
          | 0 => (next.moveTo inner).stop .tooDeep
          | levels + 1 => skipItems bare levels shape (next.moveTo inner)
        | _ => .ok next
      | .error _ =>
        match cursor.text with
        | [] => cursor.stop .unexpectedEnd
        | '(' :: inner => do
          let shape ← cursor.roundShape
          match levels with
          | 0 => (cursor.moveTo inner).stop .tooDeep
          | levels + 1 => skipItems bare levels shape (cursor.moveTo inner)
        | '[' :: inner =>
          match levels with
          | 0 => (cursor.moveTo inner).stop .tooDeep
          | levels + 1 => skipItems bare levels .list (cursor.moveTo inner)
        | '\x7b' :: inner =>
          match levels with
          | 0 => (cursor.moveTo inner).stop .tooDeep
          | levels + 1 => skipItems bare levels .map (cursor.moveTo inner)
        | '\'' :: rest => (cursor.moveTo rest).skip skipChar
        | c :: _ =>
          if c == '"' || c == 'r' then do
            let (_, next) ← cursor.read string
            .ok next
          else if c.isDigit || c == '+' || c == '-' || c == '.' then cursor.skipNumber
          else cursor.stop (.unexpectedByte (firstByte c))
termination_by (levels, cursor.text.length)

/-- The cursor behind items and the bracket that closes them. -/
def skipItems (bare : Bool) (levels : Nat) (shape : Shape) (cursor : Cursor) :
    Except Stop Cursor := do
  let start ← cursor.skip skipBlank
  match start.text with
  | [] => start.stop .unexpectedEnd
  | c :: rest =>
    if c = shape.closing then .ok (start.moveTo rest)
    else
      match levels with
      | 0 => start.stop .tooDeep
      | levels + 1 => do
        let start ← match shape with
          | .record => do
            let (_, next) ← start.read identifier
            next.skip skipColon
          | .map => do
            let next ← skipValue bare levels start
            next.skip skipColon
          | _ => .ok start
        let next ← skipValue bare levels start
        let next ← next.skip skipBlank
        match next.text with
        | [] => next.stop .unexpectedEnd
        | c :: more =>
          if c = shape.closing then .ok (next.moveTo more)
          else if c = ',' ∧ more.length < cursor.text.length then
            skipItems bare (levels + 1) shape (next.moveTo more)
          else next.stop .expectedComma
termination_by (levels, cursor.text.length)

end

end DiceLauncher.Settings
