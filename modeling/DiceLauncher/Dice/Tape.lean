import DiceLauncher.Dice.Fair

/-!
# Repeatable random words

A reproducible supply of 64-bit words: some words given in advance, then the
splitmix generator from a seed. The generator adds a fixed odd number to its state
and scrambles the state with shifts and products, all modulo `2^64`.
-/

namespace DiceLauncher.Dice

/-- Words given in advance, and the seed of the generator that follows them. -/
structure Tape where
  /-- The words that come first. -/
  words : List UInt64
  /-- The state of the generator behind them. -/
  seed : UInt64

namespace Tape

/-- The next state of the generator. -/
def advance (state : UInt64) : UInt64 := state + 0x9E3779B97F4A7C15

/-- The word that the generator gives in a state. -/
def scramble (state : UInt64) : UInt64 :=
  let z := (state ^^^ (state >>> 30)) * 0xBF58476D1CE4E5B9
  let z := (z ^^^ (z >>> 27)) * 0x94D049BB133111EB
  z ^^^ (z >>> 31)

/-- The first `n` words of the generator from a state. -/
def generate (state : UInt64) : Nat → List UInt64
  | 0 => []
  | n + 1 => scramble (advance state) :: generate (advance state) n

/-- The words given in advance and `n` generated ones. -/
def take (tape : Tape) (n : Nat) : List UInt64 := tape.words ++ generate tape.seed n

/-- Runs a computation on the tape with `n` generated words, and says how many words it took. -/
def run {α : Type} (tape : Tape) (n : Nat) (rolling : TapeM α) : Except DrawFault (α × Nat) := do
  let words := tape.take n
  let (result, rest) ← rolling.run words
  .ok (result, words.length - rest.length)

end Tape

end DiceLauncher.Dice
