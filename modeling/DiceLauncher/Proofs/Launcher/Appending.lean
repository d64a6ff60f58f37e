import DiceLauncher.Launcher.Query
import DiceLauncher.Proofs.Text.Words

/-!
# Searches that are put together

Text that is typed behind a blank adds its own terms and changes none of those before it.
So a search that is put together from given terms has the terms of each of them. If these
are single words it means the same rolls as the given terms: only an empty term is lost,
and nothing can be read from that.

Results:
* `terms_ofSearch_append`: the terms of texts with blanks between them.
* `terms_ofSearch_search`: the terms of a search that is put together from terms.
* `batch_ofSearch_search`: its batch, if the terms have no blanks.
* `ofSearch_appending`: the terms, rolls, records and listings of searches put together.
-/

namespace DiceLauncher.Query

/-! ## Terms behind other terms -/

section

variable {query first second : Query}

/-- Each term is read by itself, so the rolls are in the order of the terms. -/
theorem batch_of_terms_append (h : query.terms = first.terms ++ second.terms) :
    query.batch = first.batch ++ second.batch := by
  rw [batch, h, List.filterMap_append, batch, batch]

theorem skipped_of_terms_append (h : query.terms = first.terms ++ second.terms) :
    query.skipped = first.skipped ++ second.skipped := by
  rw [skipped, h, List.filterMap_append, skipped, skipped]

theorem log_of_terms_append (h : query.terms = first.terms ++ second.terms) :
    query.log = first.log ++ second.log := by
  rw [log, skipped_of_terms_append h, List.map_append, log, log]

/-- The listing of a query depends on its text and its batch only. -/
theorem results_of_search_of_batch (hsearch : first.search = second.search)
    (hbatch : first.batch = second.batch) : first.results = second.results := by
  rw [results, results, helpEntry, helpEntry, customEntry, customEntry, hsearch, hbatch]

end

theorem terms_ofSearch_append (before after : String) {blanks : String}
    (hblank : ∀ c ∈ blanks.toList, Text.isBlank c) (hne : blanks ≠ "") :
    (ofSearch (before ++ blanks ++ after)).terms =
      (ofSearch before).terms ++ (ofSearch after).terms := by
  have hne : blanks.toList ≠ [] := by simpa using hne
  simp only [ofSearch, String.toList_append]
  rw [Text.words_append_blanks_append _ _ hblank hne, List.map_append]

theorem terms_ofSearch_append_of_getLast? {before : String}
    (h : ∀ c ∈ before.toList.getLast?, Text.isBlank c) (after : String) :
    (ofSearch (before ++ after)).terms = (ofSearch before).terms ++ (ofSearch after).terms := by
  simp only [ofSearch, String.toList_append]
  rw [Text.words_append_of_getLast? h, List.map_append]

/-! ## Terms that are joined -/

/-- A search that is put together from terms has the terms of each of them. -/
theorem terms_ofSearch_search (terms : List String) :
    (ofSearch (ofTerms terms).search).terms = terms.flatMap fun term => (ofSearch term).terms := by
  have hspace : " ".toList = [' '] := rfl
  simp only [ofSearch, ofTerms, String.toList_intercalate, hspace]
  rw [Text.words_intercalate_eq_flatMap, List.flatMap_map, List.map_flatMap]

/-- A text without blanks is its own only term, unless it is empty. -/
theorem terms_ofSearch_of_not_blank {term : String}
    (h : ∀ c ∈ term.toList, Text.isBlank c = false) :
    (ofSearch term).terms = if term = "" then [] else [term] := by
  split_ifs with hempty
  · rw [hempty]
    rfl
  · have hword : Text.IsWord term.toList := ⟨by simpa using hempty, h⟩
    rw [ofSearch, hword.words_eq, List.map_singleton, String.ofList_toList]

/-- A text without blanks stands for the roll that it is read as, if it is read. -/
theorem batch_ofSearch_of_not_blank {term : String}
    (h : ∀ c ∈ term.toList, Text.isBlank c = false) :
    (ofSearch term).batch = (RollSpec.parse term).toOption.toList := by
  rw [batch, terms_ofSearch_of_not_blank h]
  split_ifs with hempty
  · -- the empty term is no term of the search, and it is not read either
    rw [hempty]
    rfl
  · cases hterm : RollSpec.parse term <;> simp [hterm, Except.toOption]

theorem batch_ofTerms (terms : List String) :
    (ofTerms terms).batch = terms.flatMap fun term => (RollSpec.parse term).toOption.toList := by
  rw [batch, ofTerms, List.filterMap_eq_flatMap_toList]

/-- Terms without blanks stand for the same rolls when they are put together. -/
theorem batch_ofSearch_search {terms : List String}
    (h : ∀ term ∈ terms, ∀ c ∈ term.toList, Text.isBlank c = false) :
    (ofSearch (ofTerms terms).search).batch = (ofTerms terms).batch := by
  calc (ofSearch (ofTerms terms).search).batch
    _ = terms.flatMap fun term => (ofSearch term).batch := by
      rw [batch, terms_ofSearch_search, List.filterMap_flatMap]
      rfl
    _ = terms.flatMap fun term => (RollSpec.parse term).toOption.toList :=
      List.flatMap_congr fun term hterm => batch_ofSearch_of_not_blank (h term hterm)
    _ = (ofTerms terms).batch := (batch_ofTerms terms).symm

/-- Text behind blanks adds its own terms, rolls and records to those of the text before them.
So a search that is put together from given terms has the terms of each of them; and if these
have no blanks, it has the text, the batch and the listing of the query of the given terms. -/
theorem ofSearch_appending :
    (∀ before blanks after : String, (∀ c ∈ blanks.toList, Text.isBlank c) → blanks ≠ "" →
      let query := ofSearch (before ++ blanks ++ after)
      query.terms = (ofSearch before).terms ++ (ofSearch after).terms ∧
      query.batch = (ofSearch before).batch ++ (ofSearch after).batch ∧
      query.skipped = (ofSearch before).skipped ++ (ofSearch after).skipped ∧
      query.log = (ofSearch before).log ++ (ofSearch after).log) ∧
    ∀ terms : List String,
      let query := ofSearch (ofTerms terms).search
      query.terms = (terms.flatMap fun term => (ofSearch term).terms) ∧
      ((∀ term ∈ terms, ∀ c ∈ term.toList, Text.isBlank c = false) →
        query.search = (ofTerms terms).search ∧ query.batch = (ofTerms terms).batch ∧
        query.results = (ofTerms terms).results) := by
  refine ⟨fun before blanks after hblank hne => ?_, fun terms => ⟨?_, fun hterms => ?_⟩⟩
  · have hquery := terms_ofSearch_append before after hblank hne
    exact ⟨hquery, batch_of_terms_append hquery, skipped_of_terms_append hquery,
      log_of_terms_append hquery⟩
  · exact terms_ofSearch_search terms
  · have hbatch := batch_ofSearch_search hterms
    exact ⟨rfl, hbatch, results_of_search_of_batch rfl hbatch⟩

/-- The blanks between the texts are an ideographic space and a tab, and one of the joined terms
is empty. The rolls of both texts are rolled, and both terms that cannot be read are recorded. -/
theorem ofSearch_appending_mixed :
    let query := ofSearch (" 2d6 x" ++ "\u3000\t" ++ "y 1d4")
    let joined := ofSearch (ofTerms ["", "1D8-2", "x"]).search
    (∀ c ∈ "\u3000\t".toList, Text.isBlank c) ∧ "\u3000\t" ≠ "" ∧
    query.terms = (ofSearch " 2d6 x").terms ++ (ofSearch "y 1d4").terms ∧
    query.terms = ["2d6", "x", "y", "1d4"] ∧
    query.batch = [⟨2, 6, none⟩, ⟨1, 4, none⟩] ∧
    query.log =
      [Log.debug "Skipped term `x`:  --> 1:1\n  |\n1 | x\n  | ^---\n  |\n  = expected count",
        Log.debug "Skipped term `y`:  --> 1:1\n  |\n1 | y\n  | ^---\n  |\n  = expected count"] ∧
    (∀ term ∈ ["", "1D8-2", "x"], ∀ c ∈ term.toList, Text.isBlank c = false) ∧
    joined.search = " 1D8-2 x" ∧ joined.batch = [⟨1, 8, some (-2)⟩] ∧
    joined.results = (ofTerms ["", "1D8-2", "x"]).results ∧
    joined.results.map Entry.title =
      [some "1d8-2", some "1d4", some "1d6", some "1d8", some "1d10", some "1d12", some "1d20",
        some "1d100"] := by
  intro query joined
  have hblank : ∀ c ∈ "\u3000\t".toList, Text.isBlank c := by simp [Text.isBlank]
  have hne : "\u3000\t" ≠ "" := by decide
  have hterms : ∀ term ∈ ["", "1D8-2", "x"], ∀ c ∈ term.toList, Text.isBlank c = false := by
    simp [Text.isBlank]
  obtain ⟨happend, hjoin⟩ := ofSearch_appending
  obtain ⟨hquery, hbatch, -, hlog⟩ := happend " 2d6 x" "\u3000\t" "y 1d4" hblank hne
  obtain ⟨hsearch, hrolls, hresults⟩ := (hjoin _).2 hterms
  exact ⟨hblank, hne, hquery, hquery.trans (by decide +kernel), hbatch.trans (by decide +kernel),
    hlog.trans (by decide +kernel), hterms,
    hsearch.trans (by decide +kernel), hrolls.trans (by decide +kernel), hresults,
    (congrArg (List.map Entry.title) hresults).trans (by decide +kernel)⟩

end DiceLauncher.Query
