import DiceLauncher.Dice.Source

/-!
# Scripted dice

A source of dice that shows faces set down in advance, over and over, whatever the
sides, and keeps a record of the sides that it was asked for. A script without
faces shows zero.
-/

namespace DiceLauncher.Dice

/-- How far a script has been played. -/
structure Script where
  /-- The faces to show, in order, over and over. -/
  faces : List UInt64
  /-- The faces left of the current round. -/
  pending : List UInt64 := []
  /-- The sides asked for so far, the latest first. -/
  asked : List UInt64 := []

namespace Script

/-- The face that a script shows next, and the faces left of the round. -/
def next (script : Script) : UInt64 × List UInt64 :=
  match script.pending with
  | face :: pending => (face, pending)
  | [] =>
    match script.faces with
    | face :: pending => (face, pending)
    | [] => (0, [])

/-- Shows the next face and records the sides asked for. -/
def play (sides : UInt64) (script : Script) : UInt64 × Script :=
  (script.next.1, { script with pending := script.next.2, asked := sides :: script.asked })

/-- The sides asked for so far, in order. -/
def requests (script : Script) : List UInt64 := script.asked.reverse

end Script

/-- The source that plays a script. -/
def scripted : Source (StateM Script) := fun sides => modifyGet (Script.play sides)

end DiceLauncher.Dice
