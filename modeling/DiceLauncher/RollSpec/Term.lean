import DiceLauncher.RollSpec.Basic

/-!
# Dice terms

The written form of one roll is a *dice term*: a run of digits, a `d` in either
case, a run of digits, and possibly a sign with a further run of digits.

`DiceTerm` keeps the digit runs as they were typed. `DiceTerm.scan` takes a text
apart, or says how far it got and what it missed there; `DiceTerm.spec` turns the
runs into the numbers of a `RollSpec`, from left to right, and fails at the first
one that is out of range. `RollSpec.parse` does both, and `TermError.message`
words the outcome when it fails.
-/

namespace DiceLauncher

/-- A modifier as it was typed: its sign and its digits. -/
structure Adjustment where
  /-- Whether the sign is `-`; otherwise it is `+`. -/
  negative : Bool
  /-- The digits behind the sign. -/
  digits : List Char
  deriving DecidableEq, Repr

/-- The parts of a typed roll, with digit runs of any length. -/
structure DiceTerm where
  /-- The digits in front of the separator. -/
  count : List Char
  /-- The separator, `d` or `D`. -/
  separator : Char
  /-- The digits behind the separator. -/
  sides : List Char
  /-- The modifier, if one was typed. -/
  adjustment : Option Adjustment
  deriving DecidableEq, Repr

/-! ## Errors -/

/-- What a term should have gone on with. -/
inductive Expected
  /-- The digits at the start of a term. -/
  | count
  /-- A whole roll: digits that no separator follows do not begin one. -/
  | roll
  /-- The digits behind the separator. -/
  | sides
  /-- The end of the term or a modifier. -/
  | endOrModifier
  /-- The end of the term. -/
  | endOfTerm
  deriving DecidableEq, Repr

/-- Where a text stops being a dice term. -/
structure Malformed where
  /-- How many characters of the term stand before the fault. -/
  matched : Nat
  /-- What should have followed them. -/
  expected : Expected
  deriving DecidableEq, Repr

/-- Which end of its range a number lies beyond. -/
inductive Overflow
  /-- The number is above the greatest one of its range. -/
  | tooLarge
  /-- The number is below the least one of its range. -/
  | tooSmall
  deriving DecidableEq, Repr

/-- Why a term is not a usable roll. -/
inductive TermError
  /-- The term is not written as a roll. -/
  | malformed (term : String) (fault : Malformed)
  /-- The term is written as a roll, and one of its numbers is out of range. -/
  | outOfRange (overflow : Overflow)
  deriving DecidableEq, Repr

/-! ## Taking a text apart -/

namespace DiceTerm

/-- Whether a character separates the count from the sides. -/
def isSeparator (c : Char) : Bool := c == 'd' || c == 'D'

/-- Whether a character is a sign. -/
def isSign (c : Char) : Bool := c == '+' || c == '-'

/-- Reads what follows the sides of a term whose first `matched` characters are read:
nothing, or a sign with digits up to the end. -/
def scanAdjustment (matched : Nat) : List Char → Except Malformed (Option Adjustment)
  | [] => .ok none
  | sign :: rest =>
    let digits := rest.takeWhile Char.isDigit
    if isSign sign && !digits.isEmpty then
      if rest.length = digits.length then .ok (some ⟨sign == '-', digits⟩)
      else .error ⟨matched + 1 + digits.length, .endOfTerm⟩
    else .error ⟨matched, .endOrModifier⟩

/-- Takes a text apart into the parts of a dice term. -/
def scan (text : List Char) : Except Malformed DiceTerm :=
  let count := text.takeWhile Char.isDigit
  if count.isEmpty then .error ⟨0, .count⟩
  else
    match text.dropWhile Char.isDigit with
    | [] => .error ⟨0, .roll⟩
    | separator :: rest =>
      if isSeparator separator then
        let sides := rest.takeWhile Char.isDigit
        if sides.isEmpty then .error ⟨count.length + 1, .sides⟩
        else do
          let matched := count.length + 1 + sides.length
          let adjustment ← scanAdjustment matched (rest.dropWhile Char.isDigit)
          .ok ⟨count, separator, sides, adjustment⟩
      else .error ⟨0, .roll⟩

end DiceTerm

/-! ## Numbers -/

namespace Adjustment

/-- The number that a typed modifier stands for. -/
def value (adjustment : Adjustment) : Int :=
  if adjustment.negative then -(Decimal.value adjustment.digits : Int)
  else (Decimal.value adjustment.digits : Int)

/-- The modifier as a signed 64-bit number, or the end of that range that it lies beyond. -/
def toModifier (adjustment : Adjustment) : Except Overflow Int64 :=
  if Int64.maxValue.toInt < adjustment.value then .error .tooLarge
  else if adjustment.value < Int64.minValue.toInt then .error .tooSmall
  else .ok (Int64.ofInt adjustment.value)

end Adjustment

namespace DiceTerm

/-- A run of digits as a 64-bit word; it can only be too large. -/
def toWord (run : List Char) : Except Overflow UInt64 :=
  match Decimal.word? run with
  | some word => .ok word
  | none => .error .tooLarge

/-- The roll that a term stands for; of several numbers out of range the first one counts. -/
def spec (term : DiceTerm) : Except Overflow RollSpec := do
  let count ← toWord term.count
  let sides ← toWord term.sides
  match term.adjustment with
  | none => .ok ⟨count, sides, none⟩
  | some adjustment => do
    let modifier ← adjustment.toModifier
    .ok ⟨count, sides, some modifier⟩

end DiceTerm

/-- Reads a whole term as a roll. -/
def RollSpec.parse (term : String) : Except TermError RollSpec :=
  match DiceTerm.scan term.toList with
  | .error fault => .error (.malformed term fault)
  | .ok parts =>
    match parts.spec with
    | .error overflow => .error (.outOfRange overflow)
    | .ok spec => .ok spec

/-! ## Wording -/

/-- The name of what was expected. -/
def Expected.name : Expected → String
  | .count => "count"
  | .roll => "notation"
  | .sides => "sides"
  | .endOrModifier => "EOI or modifier"
  | .endOfTerm => "EOI"

/-- The wording of a number out of range. -/
def Overflow.message : Overflow → String
  | .tooLarge => "number too large to fit in target type"
  | .tooSmall => "number too small to fit in target type"

namespace Malformed

/-- Whether a character ends or returns a line. -/
def isBreak (c : Char) : Bool := c == '\n' || c == '\r'

/-- The first line of a text, with the line feed that ends it. -/
def firstLine (text : List Char) : List Char :=
  text.takeWhile (· != '\n') ++ (text.dropWhile (· != '\n')).take 1

/-- The picture of a line break: the symbols for carriage return and line feed. -/
def picture (c : Char) : Char :=
  if c == '\r' then '\u240d' else if c == '\n' then '\u240a' else c

/-- The line that the error shows. Line breaks are left out, and drawn as pictures when the
fault is at one of them. -/
def shownLine (text : List Char) (matched : Nat) : List Char :=
  match text[matched]? with
  | some c =>
    if isBreak c then (firstLine text).map picture
    else (firstLine text).filter (fun c => !isBreak c)
  | none => (firstLine text).filter (fun c => !isBreak c)

/-- Draws the fault: the line, a caret under the column where the term went wrong, and what
was expected there. -/
def render (text : List Char) (fault : Malformed) : String :=
  String.intercalate "\n" [
    " --> 1:" ++ Decimal.render (fault.matched + 1),
    "  |",
    "1 | " ++ String.ofList (shownLine text fault.matched),
    "  | " ++ String.ofList (List.replicate fault.matched ' ') ++ "^---",
    "  |",
    "  = expected " ++ fault.expected.name]

end Malformed

namespace TermError

/-- The wording of the cause on its own. -/
def cause : TermError → String
  | .malformed term fault => fault.render term.toList
  | .outOfRange overflow => overflow.message

/-- The wording of the error. -/
def message (error : TermError) : String :=
  match error with
  | .malformed .. => error.cause
  | .outOfRange _ => "number out of range: " ++ error.cause

end TermError

end DiceLauncher
