import DiceLauncher.Launcher.Catalog
import DiceLauncher.Log
import DiceLauncher.Report

/-!
# Entries

An entry is one line of a launcher's listing. It may carry a batch as its action:
nothing is thrown until the entry is triggered, and then the dice are thrown, the
roll is logged, and the host is given a notification of it.
-/

namespace DiceLauncher

/-- A picture that a host knows how to load. -/
inductive Icon
  /-- The picture of the dice. -/
  | dice
  deriving DecidableEq, Repr

/-- Where a host finds a picture. -/
def Icon.path : Icon → String
  | .dice => Catalog.iconPath

/-- A message for the host to show. -/
structure Notification where
  /-- The headline. -/
  title : String
  /-- The text, possibly of several lines. -/
  body : String
  /-- The picture beside it. -/
  icon : Icon
  deriving DecidableEq, Repr

/-- The notification of a roll. -/
def Notification.rolling (body : String) : Notification := ⟨Catalog.rolling, body, .dice⟩

@[simp] theorem Notification.title_rolling (body : String) :
    (rolling body).title = Catalog.rolling := rfl

@[simp] theorem Notification.body_rolling (body : String) : (rolling body).body = body := rfl

/-- One line of a listing. -/
structure Entry where
  /-- The headline, if there is one. -/
  title : Option String := none
  /-- The text below the headline. -/
  subtitle : String := ""
  /-- How far up the entry belongs. -/
  score : Int64 := 0
  /-- The picture, if there is one. -/
  icon : Option Icon := none
  /-- What the host puts back into its search box when the entry is selected. -/
  queryText : Option String := none
  /-- The batch that is rolled when the entry is triggered. -/
  action : Option Batch := none
  deriving DecidableEq, Repr, Inhabited

/-- What a launcher does that can be seen from outside. -/
inductive Event
  /-- The help is shown. -/
  | helped
  /-- A listing is shown. -/
  | listed (entries : List Entry)
  /-- A notification is shown. -/
  | shown (notification : Notification)
  /-- A record is logged. -/
  | logged (record : Log.Record)
  deriving DecidableEq, Repr

/-! ## Triggering -/

/-- A body of several lines on one line. -/
def oneLine (body : String) : String :=
  String.ofList (body.toList.flatMap fun c => if c == '\n' then [' ', '|', ' '] else [c])

/-- The record that a batch was rolled. -/
def Batch.rolledRecord (batch : Batch) (body : String) : Log.Record :=
  Log.debug ("Rolled `" ++ batch.title ++ "` into `" ++ oneLine body ++ "`")

variable {m : Type → Type} [Monad m]

/-- Throws a batch, logs the roll and shows its notification. -/
def Batch.trigger (source : Source m) (batch : Batch) : m (List Event) := do
  let report ← batch.roll source
  pure [.logged (batch.rolledRecord report.body), .shown (.rolling report.body)]

namespace Entry

/-- An entry that has only a headline. -/
def titled (title : String) : Entry := { title := some title }

/-- The entry for a batch: its title is written now and its roll is deferred. A batch without
specs gives the neutral entry, which has neither title nor action. -/
def ofBatch (batch : Batch) : Entry :=
  if batch.isEmpty then {}
  else
    { title := some batch.title
      subtitle := Catalog.pressToRoll
      icon := some .dice
      action := some batch }

/-- Rolls the batch of an entry; nothing happens if it has none. -/
def trigger (source : Source m) (entry : Entry) : m (Option (List Event)) :=
  match entry.action with
  | some batch => do
    let events ← batch.trigger source
    pure (some events)
  | none => pure none

end Entry

end DiceLauncher
