import DiceLauncher.Dice.Source
import DiceLauncher.RollSpec.Basic
import DiceLauncher.Saturation

/-!
# Outcomes

The outcome of a roll spec is the faces that its dice showed, or that its dice were
refused because there were too many. What it adds up to follows from that: the
modifier and the faces, added with saturation. It is written
`2d20: 4, 17 (-3) = 18`.
-/

namespace DiceLauncher

/-- The dice thrown for one spec. -/
structure Outcome where
  /-- What was to be thrown. -/
  spec : RollSpec
  /-- The faces in the order thrown; nothing if the dice were refused. -/
  thrown : Option (List UInt64)
  deriving DecidableEq, Repr

namespace Outcome

/-- The outcome of dice that are thrown already. -/
def ofRolls (spec : RollSpec) (rolls : List UInt64) : Outcome := ⟨spec, some rolls⟩

/-- Throws the dice of a spec. -/
def throw {m : Type → Type} [Monad m] (source : Source m) (spec : RollSpec) : m Outcome := do
  let thrown ← Dice.throwDice source spec.count spec.sides
  pure ⟨spec, thrown⟩

/-- The faces that were thrown; none if the dice were refused. -/
def rolls (outcome : Outcome) : List UInt64 := outcome.thrown.getD []

/-- Whether the dice were refused for their number. -/
def overLimit (outcome : Outcome) : Bool := outcome.thrown.isNone

/-- The modifier and the faces, added up from left to right with saturation. -/
def subtotal (outcome : Outcome) : Int64 :=
  outcome.rolls.foldl (fun sum face => Saturation.add sum (Saturation.ofWord face))
    outcome.spec.offset

/-- Whether the written outcome ends in its subtotal: a lone unmodified die already reads as
its own total. -/
def showsSubtotal (outcome : Outcome) : Bool :=
  1 < outcome.rolls.length || outcome.spec.modifier.isSome

/-- The faces as they are written behind the colon. -/
def renderRolls (outcome : Outcome) : String :=
  match outcome.thrown with
  | none => " not rolled, over " ++ Decimal.renderWord Dice.diceLimit ++ " dice"
  | some [] => ""
  | some rolls => " " ++ String.intercalate ", " (rolls.map Decimal.renderWord)

/-- The modifier as it is written behind the faces. -/
def renderModifier (outcome : Outcome) : String :=
  match outcome.spec.modifier with
  | some modifier => " (" ++ Decimal.renderSigned modifier.toInt ++ ")"
  | none => ""

/-- The written outcome. -/
def render (outcome : Outcome) : String :=
  outcome.spec.renderDice ++ ":" ++ outcome.renderRolls ++ outcome.renderModifier ++
    if outcome.showsSubtotal then " = " ++ Decimal.renderInt outcome.subtotal.toInt else ""

end Outcome

end DiceLauncher
