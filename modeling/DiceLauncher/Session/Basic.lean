import DiceLauncher.Session.Command

/-!
# Sessions

A session takes input lines one by one. It keeps the listing of the last query, so
that later lines can trigger its entries. With `autoTrigger` the first entry of a new
listing is triggered at once, which is the typed roll, if there is anything to roll.
-/

namespace DiceLauncher

/-- A session between two lines. -/
structure Session where
  /-- Whether the first entry of a new listing is triggered at once. -/
  autoTrigger : Bool
  /-- The listing of the last query; empty before the first one. -/
  listing : List Entry := []
  deriving DecidableEq, Repr

namespace Session

variable {m : Type → Type} [Monad m]

/-- Triggers the first entry of a listing, if it has something to roll. -/
def triggerFirst (source : Source m) (listing : List Entry) : m (List Event) :=
  match listing.head?.bind Entry.action with
  | some batch => batch.trigger source
  | none => pure []

/-- Triggers the entry with a number, or says why nothing is rolled. -/
def triggerAt (source : Source m) (listing : List Entry) (index : Nat) : m (List Event) :=
  match listing[index]? with
  | some entry => do
    let triggered ← entry.trigger source
    pure (triggered.getD
      [.logged (Log.info ("Entry " ++ Decimal.render index ++ " has nothing to roll"))])
  | none =>
    pure [.logged (Log.warn ("No entry " ++ Decimal.render index ++ " in the last listing"))]

/-- Does what a command asks for. -/
def perform (source : Source m) (session : Session) : Command → m (Session × List Event)
  | .help => pure (session, [.helped])
  | .query query => do
    let listing := query.results
    let triggered ← if session.autoTrigger then triggerFirst source listing else pure []
    pure ({ session with listing := listing },
      query.log.map .logged ++ .listed listing :: triggered)
  | .trigger index => do
    let events ← triggerAt source session.listing index
    pure (session, events)

/-- Does what an input line asks for. -/
def handle (source : Source m) (session : Session) (line : String) :
    m (Session × List Event) :=
  session.perform source (Command.parse line)

/-- Handles lines one after the other, with the events of each. -/
def run (source : Source m) (session : Session) :
    List String → m (Session × List (List Event))
  | [] => pure (session, [])
  | line :: lines => do
    let (session, events) ← session.handle source line
    let (session, rest) ← session.run source lines
    pure (session, events :: rest)

end Session

end DiceLauncher
