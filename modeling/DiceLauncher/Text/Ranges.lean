/-!
# Ranges of code points

Unicode gives the classes of characters as ranges of code points. Here they are lists in
ascending order, so that a search can end at the first range that begins too late.
-/

namespace DiceLauncher.Text

/-- Ranges of code points in ascending order, each with its first and its last. -/
abbrev Ranges := List (Nat × Nat)

/-- Whether a code point lies in one of the ranges. -/
def Ranges.has : Ranges → Nat → Bool
  | [], _ => false
  | (first, last) :: ranges, n => first ≤ n && (n ≤ last || Ranges.has ranges n)

end DiceLauncher.Text
