import DiceLauncher.Dice.Source

/-!
# Fair dice from random words

A random 64-bit word `v` shows a face of a die with `s` sides through the widening
product `v * s`: its upper half, counted from one, is the face. To give every face
the same number of words, a word is accepted only if the lower half of the product
is below `s * 2^z`, where `z` is the number of leading zero bits of `s`; a rejected
word is dropped and the next one is tried.

Words come from a finite tape. `draw` takes words off the tape up to and including
the first accepted one, and leaves the others on it.
-/

namespace DiceLauncher.Dice

/-- How many leading bits of a 64-bit word are zero; 64 for zero itself. -/
def leadingZeros (w : UInt64) : Nat :=
  if w = 0 then 64 else 63 - w.toNat.log2

/-- How many words each face of a die gets: words whose product with the sides has its lower
half below the sides shifted up to the top bit are accepted. -/
def acceptanceBound (sides : UInt64) : Nat := sides.toNat <<< leadingZeros sides

/-- The face that a word shows on a die, if the word is accepted. -/
def face? (sides word : UInt64) : Option UInt64 :=
  let product := word.toNat * sides.toNat
  if product % UInt64.size < acceptanceBound sides then some (UInt64.ofNat (1 + product / UInt64.size))
  else none

/-- Why a die could not be drawn from a tape. -/
inductive DrawFault
  /-- The die has no faces. -/
  | noFaces
  /-- Every word that was left on the tape was rejected. -/
  | outOfWords
  deriving DecidableEq, Repr

/-- The face of the first accepted word of a tape, and the words behind it. -/
def firstFace (sides : UInt64) : List UInt64 → Option (UInt64 × List UInt64)
  | [] => none
  | word :: words =>
    match face? sides word with
    | some face => some (face, words)
    | none => firstFace sides words

/-- Draws one die from a tape of words. -/
def draw (sides : UInt64) (words : List UInt64) : Except DrawFault (UInt64 × List UInt64) :=
  if sides = 0 then .error .noFaces
  else
    match firstFace sides words with
    | some drawn => .ok drawn
    | none => .error .outOfWords

/-- A computation that takes random words off a tape. -/
abbrev TapeM := StateT (List UInt64) (Except DrawFault)

/-- The source of fair dice that takes its words off a tape. -/
def fair : Source TapeM := draw

end DiceLauncher.Dice
