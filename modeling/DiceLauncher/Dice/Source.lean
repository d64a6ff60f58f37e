/-!
# Sources of dice

A source of dice answers a number of sides with the face that a die shows. Where
the answer comes from is the business of the monad: a random generator, a tape of
words, a list of values set down in advance.

`throwDice` throws the dice of one roll. More than `diceLimit` dice are refused
without a throw, and a die without faces is never thrown, so no source is asked
for one.
-/

namespace DiceLauncher

/-- A source of dice: given how many sides a die has, the face that it shows. -/
abbrev Source (m : Type → Type) := UInt64 → m UInt64

namespace Dice

/-- The greatest number of dice that is thrown for one roll. -/
def diceLimit : UInt64 := 5000

variable {m : Type → Type} [Monad m]

/-- Throws dice with the same number of sides one after the other. -/
def throwMany (source : Source m) (sides : UInt64) : Nat → m (List UInt64)
  | 0 => pure []
  | dice + 1 => do
    let face ← source sides
    let faces ← throwMany source sides dice
    pure (face :: faces)

/-- Throws `count` dice with `sides` faces each; none past the limit of dice. -/
def throwDice (source : Source m) (count sides : UInt64) : m (Option (List UInt64)) :=
  if diceLimit < count then pure none
  else if sides = 0 then pure (some [])
  else do
    let faces ← throwMany source sides count.toNat
    pure (some faces)

end Dice

end DiceLauncher
