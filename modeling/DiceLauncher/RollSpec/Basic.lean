import DiceLauncher.Decimal

/-!
# Roll specs

A roll spec says: throw `count` dice with `sides` faces each and add `modifier`.
It is written `NdM`, with the modifier behind it, which always carries its sign
when it is present: `2d6`, `2d20-3`, `1d6+0`.
-/

namespace DiceLauncher

/-- One roll: `count` dice with `sides` faces each, and an optional number to add. -/
structure RollSpec where
  /-- How many dice are thrown. -/
  count : UInt64
  /-- How many faces each die has. -/
  sides : UInt64
  /-- What is added to the dice. -/
  modifier : Option Int64 := none
  deriving DecidableEq, Repr, Inhabited

namespace RollSpec

/-- A single die without modifier. -/
def die (sides : UInt64) : RollSpec := ⟨1, sides, none⟩

/-- The number that the modifier adds; nothing is added when it is absent. -/
def offset (spec : RollSpec) : Int64 := spec.modifier.getD 0

/-- The dice of the spec, `NdM`. -/
def renderDice (spec : RollSpec) : String :=
  Decimal.renderWord spec.count ++ "d" ++ Decimal.renderWord spec.sides

/-- The written form of the spec, `NdM` followed by the signed modifier if there is one. -/
def render (spec : RollSpec) : String :=
  spec.renderDice ++
    match spec.modifier with
    | some modifier => Decimal.renderSigned modifier.toInt
    | none => ""

end RollSpec

/-- Roll specs in the order in which their terms were typed. -/
abbrev Batch := List RollSpec

/-- The written forms of a batch, separated by spaces: `1d6 2d20-3`. -/
def Batch.title (batch : Batch) : String :=
  String.intercalate " " (batch.map RollSpec.render)

end DiceLauncher
