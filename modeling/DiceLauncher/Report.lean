import DiceLauncher.Outcome

/-!
# Reports

A report is everything that one triggered batch produced, one outcome for each of
its specs and in their order. Its body has a line for each outcome; a report of
several outcomes ends in an empty line and the grand total.
-/

namespace DiceLauncher

/-- The outcomes of a batch, in its order. -/
structure Report where
  /-- The outcomes. -/
  outcomes : List Outcome
  deriving DecidableEq, Repr

/-- Throws every spec of a batch in order. -/
def Batch.roll {m : Type → Type} [Monad m] (source : Source m) (batch : Batch) : m Report := do
  let outcomes ← batch.mapM (Outcome.throw source)
  pure ⟨outcomes⟩

namespace Report

/-- The subtotals added up with saturation; only a report of several outcomes has one. -/
def grandTotal (report : Report) : Option Int64 :=
  if 1 < report.outcomes.length then
    some (report.outcomes.foldl (fun sum outcome => Saturation.add sum outcome.subtotal) 0)
  else none

/-- The text that a host shows. -/
def body (report : Report) : String :=
  String.intercalate "\n" (report.outcomes.map Outcome.render) ++
    match report.grandTotal with
    | some total => "\n\nTotal: " ++ Decimal.renderInt total.toInt
    | none => ""

end Report

end DiceLauncher
