import DiceLauncher.Settings.Lexeme

/-!
# Numbers in a settings file

A number is a whole number in one of four bases, or a decimal one with a fraction or an
exponent. Settings have no numbers, so a number is only passed; what counts is where it
ends, where a malformed one stops, and how it moves the column that is counted.
-/

namespace DiceLauncher.Settings

/-- Whether a character can be part of a number with a fraction or an exponent. -/
def isFloatChar (c : Char) : Bool :=
  c.isDigit || c == 'e' || c == 'E' || c == '.' || c == '+' || c == '-' || c == '_'

/-- Whether a character can be part of a whole number in some base. -/
def isIntChar (c : Char) : Bool := (hexValue? c).isSome || c == '_'

/-- Whether a text is empty or an exponent. -/
def isExponent : List Char → Bool
  | [] => true
  | e :: text =>
    let digits := match text with
      | sign :: digits => if sign == '+' || sign == '-' then digits else text
      | [] => []
    (e == 'e' || e == 'E') && !digits.isEmpty && digits.all Char.isDigit

/-- Whether a text is a decimal number: a sign, digits, a point, digits and an exponent, where
all but some digits may be missing. -/
def isFloat (text : List Char) : Bool :=
  let unsigned := match text with
    | sign :: digits => if sign == '+' || sign == '-' then digits else text
    | [] => []
  let whole := unsigned.takeWhile Char.isDigit
  match unsigned.dropWhile Char.isDigit with
  | '.' :: text =>
    let fraction := text.takeWhile Char.isDigit
    !(whole.isEmpty && fraction.isEmpty) && isExponent (text.dropWhile Char.isDigit)
  | rest => !whole.isEmpty && isExponent rest

/-- The text behind a number with a fraction or an exponent. -/
def skipFloat (text : List Char) : Except Stop (List Char) :=
  match ([['+', 'i', 'n', 'f'], ['-', 'i', 'n', 'f'], ['+', 'N', 'a', 'N'],
      ['-', 'N', 'a', 'N']] : List (List Char)).findSome? (keyword? · text) with
  | some rest => .ok rest
  | none =>
    let run := text.takeWhile isFloatChar
    let plain := run.takeWhile (· != '_')
    if plain.length < run.length then stopAt .underscoreInFloat (text.drop plain.length)
    else if isFloat run then .ok (text.drop run.length)
    else stopAt .expectedFloat (text.drop run.length)

/-- The base of a whole number and the text behind the mark of the base. -/
def base : List Char → Nat × List Char
  | '0' :: 'x' :: text => (16, text)
  | '0' :: 'b' :: text => (2, text)
  | '0' :: 'o' :: text => (8, text)
  | text => (10, text)

/-- A number without its sign. -/
def unsigned : List Char → List Char
  | '+' :: text => text
  | '-' :: text => text
  | text => text

/-- The text behind a whole number that fits a 64-bit word, signed if a sign stands before
it. -/
def skipInteger? (text : List Char) : Option (List Char) :=
  let bound := match text with
    | '-' :: _ => UInt64.size / 2
    | '+' :: _ => UInt64.size / 2 - 1
    | _ => UInt64.size - 1
  let (base, text) := base (unsigned text)
  let run := text.takeWhile isIntChar
  let digits := (run.filter (· != '_')).map fun c => (hexValue? c).getD 0
  if run.isEmpty || run.head? == some '_' || digits.any (base ≤ ·) ||
      bound < digits.foldl (fun value digit => value * base + digit) 0 then none
  else some (text.drop run.length)

/-- How many columns a first attempt at a whole number passes: the sign, the mark of the base
and the digits, but no digits that begin with an underscore. -/
def attempted (text : List Char) : Nat :=
  let (_, digits) := base (unsigned text)
  let run := digits.takeWhile isIntChar
  text.length - digits.length + if run.head? == some '_' then 0 else run.length

/-- Passes a number and gives how many columns it counts twice: a number that is no whole number
is read once more as a decimal one, and the columns of the first attempt stay counted. -/
def number (text : List Char) : Reading Nat :=
  let counted (twice : Nat) : Reading Nat :=
    match skipFloat text with
    | .ok rest => .ok (twice, rest)
    | .error stop => .error { stop with ahead := twice }
  if ((unsigned text).takeWhile isIntChar).length <
      ((unsigned text).takeWhile isFloatChar).length then
    counted 0
  else
    match skipInteger? text with
    | some rest => .ok (0, rest)
    | none => counted (attempted text)

end DiceLauncher.Settings
