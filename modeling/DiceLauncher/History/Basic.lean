import DiceLauncher.Text.Blank
import DiceLauncher.Text.Bytes

/-!
# History

The lines entered so far, the oldest first. Lines that are empty, start with a blank,
or repeat the latest entry are not kept; when there are more than a hundred entries
the oldest one is dropped.

A line that is being typed is met with a *hint*: the rest of the latest entry that
starts with it.
-/

namespace DiceLauncher

/-- The greatest number of entries. -/
def historyLimit : Nat := 100

/-- Lines entered earlier. -/
structure History where
  /-- The entries, the oldest first. -/
  entries : List String := []
  /-- How many of the entries, counted from the latest one, are new in this run. -/
  fresh : Nat := 0
  deriving DecidableEq, Repr

namespace History

/-- Whether a line is kept. -/
def keeps (history : History) (line : String) : Bool :=
  match line.toList with
  | [] => false
  | c :: _ => !Text.isBlank c && history.entries.getLast? != some line

/-- The entries with one more at the end, without the oldest one if there are too many. -/
def push (entries : List String) (line : String) : List String :=
  (if entries.length < historyLimit then entries else entries.drop 1) ++ [line]

/-- Adds a line, if it is kept. -/
def add (history : History) (line : String) : History :=
  if history.keeps line then
    let entries := push history.entries line
    ⟨entries, min (history.fresh + 1) entries.length⟩
  else history

/-- Adds lines one after the other, and says which of them were kept. -/
def addAll (history : History) : List String → History × List Bool
  | [] => (history, [])
  | line :: lines =>
    let (result, kept) := (history.add line).addAll lines
    (result, history.keeps line :: kept)

/-- The latest entry that starts with a text. -/
def latestWith (history : History) (start : String) : Option String :=
  history.entries.reverse.find? fun entry => start.toList.isPrefixOf entry.toList

/-- Why there is no answer to a request for a hint. -/
inductive HintFault
  /-- The cursor is no boundary of the entry that the hint is taken from. -/
  | offBoundary
  deriving DecidableEq, Repr

/-- The hint for a line, with the cursor at its end or behind it. -/
def hint (history : History) (line : String) (cursor : Nat) :
    Except HintFault (Option String) :=
  if line.isEmpty || cursor < Text.byteLength line.toList then .ok none
  else
    match history.latestWith line with
    | none => .ok none
    | some entry =>
      if entry = line then .ok none
      else
        match Text.from? cursor entry.toList with
        | some rest => .ok (some (String.ofList rest))
        | none => .error .offBoundary

end History

end DiceLauncher
