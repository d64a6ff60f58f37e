import DiceLauncher.Editor.Completion
import DiceLauncher.Editor.Key
import DiceLauncher.History.Basic
import DiceLauncher.Text.Cluster

/-!
# Typing a line

What each key does to the line that is being typed. The cursor is always at the end of
the line.

The key for completion replaces the word before the cursor by what all its candidates
have in common, if that says more than the word does or there is a single candidate. The
key to the right accepts the hint that the history gives.
-/

namespace DiceLauncher.Editor

/-- What a line has become after a key. -/
inductive Typing
  /-- It is still being typed. -/
  | pending (line : String)
  /-- It is entered. -/
  | entered (line : String)
  /-- It is dropped, and the session is interrupted. -/
  | interrupted
  /-- The input has ended. -/
  | ended
  /-- The word to complete starts at no boundary of the line. -/
  | broken
  deriving DecidableEq, Repr

/-- What two texts have in common at their start. -/
def commonStart : List Char → List Char → List Char
  | a :: as, b :: bs => if a = b then a :: commonStart as bs else []
  | _, _ => []

/-- What all texts have in common at their start; nothing if there are no texts. -/
def sharedStart : List (List Char) → List Char
  | [] => []
  | text :: texts => texts.foldl commonStart text

/-- The line after the word that starts at a position was completed. -/
def completeWith (line : List Char) (completion : Completion) : List Char :=
  let shared := sharedStart (completion.candidates.map fun candidate =>
    candidate.replacement.toList)
  let typed := Text.byteLength line - completion.start
  if typed < Text.byteLength shared || completion.candidates.length = 1 then
    (Text.before? completion.start line).getD [] ++ shared
  else line

/-- What the key for completion makes of a line. -/
def completeLine (line : String) : Typing :=
  match complete line (Text.byteLength line.toList) with
  | none => .broken
  | some completion => .pending (String.ofList (completeWith line.toList completion))

/-- The line with the hint of the history behind it. -/
def acceptHint (history : History) (line : String) : String :=
  match history.hint line (Text.byteLength line.toList) with
  | .ok (some hint) => line ++ hint
  | _ => line

/-- The line without its last cluster. -/
def eraseCluster (line : String) : String :=
  String.ofList (Text.clusters line.toList).dropLast.flatten

/-- What a key makes of a line. -/
def press (history : History) (line : String) : Key → Typing
  | .character c => .pending (line.push c)
  | .enter => .entered line
  | .complete => completeLine line
  | .right => .pending (acceptHint history line)
  | .erase => .pending (eraseCluster line)
  | .interrupt => .interrupted
  | .endOfInput => if line.isEmpty then .ended else .pending line
  | .idle => .pending line

end DiceLauncher.Editor
