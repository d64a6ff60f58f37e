import DiceLauncher.RollSpec.Basic

/-!
# What the launcher says

The fixed texts and scores of the launcher, and the dice that it always offers.
-/

namespace DiceLauncher.Catalog

/-- The identifier under which a host knows the launcher. -/
def pluginId : String := "A6C12BABD1F4488882031CD16CCAE1BF"

/-- The name of the launcher. -/
def name : String := "Dice Roller"

/-- What the launcher is for. -/
def description : String := "Roll Dice using common dice notation (1d6 for example)"

/-- Where a host finds the picture of the dice. -/
def iconPath : String := "Images\\light-dice_1.png"

/-- The title of the notification of a roll. -/
def rolling : String := "Rolling..."

/-- The subtitle of an entry that can be rolled. -/
def pressToRoll : String := "Press To Roll"

/-- The subtitle of the entry for the typed roll. -/
def addMoreRolls : String := " (Add more rolls with Space)"

/-- How rolls are written, in three lines. -/
def help : String :=
  "Write a common dice notation to create a roll. (1d6, 2d20, 5d8, etc..)\n" ++
  "Multi rolls can be added with Space.\n" ++
  "Add a modifier to the roll with +/-# (1d6+2, 2d20-5, etc...)"

/-- The score of the entry for the typed roll. -/
def customScore : Int64 := 1000

/-- The score of the help entry. -/
def helpScore : Int64 := 1000

/-- The sizes of the single dice that are always offered, with the scores of their entries. -/
def quickRolls : List (UInt64 × Int64) :=
  [(4, 60), (6, 50), (8, 40), (10, 30), (12, 20), (20, 10), (100, 0)]

end DiceLauncher.Catalog
