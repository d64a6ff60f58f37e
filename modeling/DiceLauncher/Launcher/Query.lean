import DiceLauncher.Launcher.Entry
import DiceLauncher.RollSpec.Term
import DiceLauncher.Text.Blank

/-!
# Queries

A query is a search text with its terms, which are the words of the text. The terms
that can be read make up the batch; the others are skipped, each with a record that
says why. The listing of a query starts with the entry for its batch, or with the
help entry if nothing could be read, and goes on with the quick rolls.
-/

namespace DiceLauncher

/-- A search text and its terms. -/
structure Query where
  /-- The text as it was typed. -/
  search : String
  /-- The terms, in order. -/
  terms : List String
  deriving DecidableEq, Repr

/-- The entries of the dice that are always offered. -/
def quickRollEntries : List Entry :=
  Catalog.quickRolls.map fun (sides, score) =>
    { Entry.ofBatch [RollSpec.die sides] with score := score }

namespace Query

/-- The query of a search text. -/
def ofSearch (search : String) : Query :=
  ⟨search, (Text.words search.toList).map String.ofList⟩

/-- The query of given terms, whose search text has them separated by spaces. -/
def ofTerms (terms : List String) : Query := ⟨String.intercalate " " terms, terms⟩

/-- The rolls of the terms that can be read, in order. -/
def batch (query : Query) : Batch :=
  query.terms.filterMap fun term => (RollSpec.parse term).toOption

/-- The terms that cannot be read, in order, with what is wrong about them. -/
def skipped (query : Query) : List (String × TermError) :=
  query.terms.filterMap fun term =>
    match RollSpec.parse term with
    | .error error => some (term, error)
    | .ok _ => none

/-- The record that a term was skipped. -/
def skippedRecord (term : String) (error : TermError) : Log.Record :=
  Log.debug ("Skipped term `" ++ term ++ "`: " ++ error.message)

/-- The records that reading the terms leaves. -/
def log (query : Query) : List Log.Record :=
  query.skipped.map fun (term, error) => skippedRecord term error

/-- The entry that tells how to write a roll; selecting it gives the search text back. -/
def helpEntry (query : Query) : Entry :=
  { title := some Catalog.name
    subtitle := Catalog.help
    score := Catalog.helpScore
    queryText := some query.search }

/-- The entry for the typed rolls. -/
def customEntry (query : Query) : Entry :=
  { Entry.ofBatch query.batch with
    subtitle := Catalog.addMoreRolls
    score := Catalog.customScore }

/-- The listing of a query. -/
def results (query : Query) : List Entry :=
  (if query.batch.isEmpty then query.helpEntry else query.customEntry) :: quickRollEntries

end Query

end DiceLauncher
