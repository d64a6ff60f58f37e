/-!
# Saturating sums

Sums of 64-bit signed numbers that stay at the end of the range instead of leaving
it. `clamp` brings an exact integer into the range; `add` is the exact sum of two
numbers, clamped.

Results:
* `toInt_clamp`: the clamped number is the nearest one of the range.
* `toInt_add`: what saturating addition gives, as an integer.
-/

namespace DiceLauncher.Saturation

/-- The least signed 64-bit number. -/
def least : Int := -0x8000000000000000

/-- The greatest signed 64-bit number. -/
def greatest : Int := 0x7fffffffffffffff

/-- The number of the range that is nearest to `z`. -/
def clamp (z : Int) : Int64 := Int64.ofInt (max least (min z greatest))

/-- Addition that stays at the end of the range. -/
def add (a b : Int64) : Int64 := clamp (a.toInt + b.toInt)

/-- A 64-bit word as a signed number: words above the range count as its greatest number. -/
def ofWord (w : UInt64) : Int64 := clamp w.toNat

theorem toInt_clamp (z : Int) : (clamp z).toInt = max least (min z greatest) := by
  rw [clamp, Int64.toInt_ofInt]
  apply Int.bmod_eq_of_le <;> simp only [least, greatest, Int64.size] <;> omega

theorem toInt_add (a b : Int64) :
    (add a b).toInt = max least (min (a.toInt + b.toInt) greatest) :=
  toInt_clamp _

end DiceLauncher.Saturation
