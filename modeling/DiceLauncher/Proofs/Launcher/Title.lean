import DiceLauncher.Launcher.Query
import DiceLauncher.Proofs.RollSpec.RoundTrip

/-!
# Titles that are typed back

The title of a batch is a search text itself. Its terms are the written forms of the
rolls, so typing it back gives the same batch, and with it the same listing.

Results:
* `Query.terms_ofSearch_title`: the terms of a title.
* `Query.batch_ofSearch_title`, `Query.skipped_ofSearch_title`: all of them are read.
* `Query.ofSearch_title_round_trip`: the batch of a title, and the listing of the
  title of a listing.
-/

namespace DiceLauncher.Query

theorem toList_title (batch : Batch) :
    batch.title.toList = [' '].intercalate (batch.map fun spec => spec.render.toList) := by
  simp [Batch.title, String.toList_intercalate, Function.comp_def]

/-- The terms of a title are the written forms of its rolls. -/
theorem terms_ofSearch_title (batch : Batch) :
    (ofSearch batch.title).terms = batch.map RollSpec.render := by
  have hwords : ∀ w ∈ batch.map fun spec => spec.render.toList, Text.IsWord w := by
    intro w hw
    obtain ⟨spec, -, rfl⟩ := List.mem_map.mp hw
    exact spec.isWord_render
  simp only [ofSearch, toList_title, Text.words_intercalate hwords, List.map_map]
  simp [Function.comp_def]

theorem batch_ofSearch_title (batch : Batch) : (ofSearch batch.title).batch = batch := by
  rw [Query.batch, terms_ofSearch_title, List.filterMap_map]
  simp [Function.comp_def, RollSpec.parse_render, Except.toOption]

theorem skipped_ofSearch_title (batch : Batch) : (ofSearch batch.title).skipped = [] := by
  rw [skipped, terms_ofSearch_title, List.filterMap_map]
  simp [RollSpec.parse_render]

/-- The listing of a query with a batch depends on the batch only. -/
theorem results_congr {a b : Query} (h : a.batch = b.batch) (hne : a.batch ≠ []) :
    a.results = b.results := by
  simp only [results, customEntry, ← h, List.isEmpty_iff, hne, if_false]

/-- The first entry of the listing of a query with a batch has the title of the batch. -/
theorem title_head_results {query : Query} (hne : query.batch ≠ []) :
    query.results.head?.bind Entry.title = some query.batch.title := by
  simp [results, customEntry, Entry.ofBatch, hne]

theorem batch_ne_nil_iff {query : Query} :
    query.batch ≠ [] ↔ ∃ term ∈ query.terms, ∃ spec, RollSpec.parse term = .ok spec := by
  rw [ne_eq, Query.batch, List.filterMap_eq_nil_iff]
  simp only [not_forall]
  refine exists_congr fun term => ?_
  rw [exists_prop]
  refine and_congr_right fun _ => ?_
  cases RollSpec.parse term <;> simp [Except.toOption]

/-- A title typed back is the same batch, with nothing skipped; so the title of the first entry
of a listing, typed back, gives the same listing. -/
theorem ofSearch_title_round_trip :
    (∀ batch : Batch,
      (ofSearch batch.title).terms.length = batch.length ∧
      (∀ term ∈ (ofSearch batch.title).terms, ∃ spec, RollSpec.parse term = .ok spec) ∧
      (ofSearch batch.title).skipped = [] ∧ (ofSearch batch.title).log = [] ∧
      (ofSearch batch.title).batch = batch) ∧
    ∀ query : Query, (∃ term ∈ query.terms, ∃ spec, RollSpec.parse term = .ok spec) →
      ∃ title, query.results.head?.bind Entry.title = some title ∧
        (ofSearch title).results = query.results := by
  refine ⟨fun batch => ⟨?_, ?_, skipped_ofSearch_title batch, ?_, batch_ofSearch_title batch⟩, ?_⟩
  · rw [terms_ofSearch_title, List.length_map]
  · intro term hterm
    rw [terms_ofSearch_title] at hterm
    obtain ⟨spec, -, rfl⟩ := List.mem_map.mp hterm
    exact ⟨spec, spec.parse_render⟩
  · rw [log, skipped_ofSearch_title, List.map_nil]
  · intro query hterm
    have hne : query.batch ≠ [] := batch_ne_nil_iff.mpr hterm
    have hbatch : (ofSearch query.batch.title).batch = query.batch := batch_ofSearch_title _
    exact ⟨query.batch.title, title_head_results hne, results_congr hbatch (by rwa [hbatch])⟩

theorem ofSearch_title_round_trip_mixed :
    let query := ofSearch "5001D0-0 nope\u3000007d6"
    (∃ term ∈ query.terms, ∃ spec, RollSpec.parse term = .ok spec) ∧
    ∃ title, query.results.head?.bind Entry.title = some title ∧
      (ofSearch title).results = query.results := by
  have hterm : ∃ term ∈ (ofSearch "5001D0-0 nope\u3000007d6").terms, ∃ spec,
      RollSpec.parse term = .ok spec :=
    ⟨"5001D0-0", by decide +kernel, ⟨5001, 0, some 0⟩, by cbv⟩
  exact ⟨hterm, ofSearch_title_round_trip.2 _ hterm⟩

end DiceLauncher.Query
