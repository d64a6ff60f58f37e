/-!
# Decimal text

Numbers are read from runs of the ASCII digits `0` to `9` and written without
leading zeros. A signed number carries `-` if it is negative; the *signed form*
always carries a sign, and zero takes `+`.
-/

namespace DiceLauncher.Decimal

/-- The number that a run of decimal digits stands for; the empty run stands for zero. -/
def value (run : List Char) : Nat := Nat.ofDigitChars 10 run 0

/-- The decimal digits of `n`, without leading zeros; zero is the single digit `0`. -/
def digits (n : Nat) : List Char := Nat.toDigits 10 n

/-- The decimal text of a natural number. -/
def render (n : Nat) : String := String.ofList (digits n)

/-- The decimal text of an integer, with `-` in front of a negative one. -/
def renderInt (z : Int) : String :=
  if z < 0 then "-" ++ render z.natAbs else render z.natAbs

/-- The decimal text of an integer that always carries its sign; zero is `+0`. -/
def renderSigned (z : Int) : String :=
  (if z < 0 then "-" else "+") ++ render z.natAbs

/-- Reads a whole text as a natural number: one or more digits, leading zeros allowed. -/
def read? (text : List Char) : Option Nat :=
  if text ≠ [] ∧ text.all Char.isDigit then some (value text) else none

/-! ## Bounded words -/

/-- The 64-bit word that a run of digits stands for, if it is below `2^64`. -/
def word? (run : List Char) : Option UInt64 :=
  if value run < UInt64.size then some (UInt64.ofNat (value run)) else none

/-- The decimal text of a 64-bit word. -/
def renderWord (w : UInt64) : String := render w.toNat

end DiceLauncher.Decimal
