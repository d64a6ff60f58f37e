import DiceLauncher.Proofs.Editor.Spans
import DiceLauncher.Proofs.Session.Command

/-!
# Highlighting and the session

The terms of a query that are not read are meant to be the marked ones, and a command is
not meant to have marks. This is so for every line but those that begin with the trigger
sign and are queries all the same, because no number follows: their first word is skipped,
and highlighting takes them for commands.

Results:
* `Query.map_fst_skipped`, `Query.map_ok_batch`: the terms of a query fall into the skipped
  ones and the batch.
* `Editor.agree_iff`: the lines on which highlighting and the session agree.
-/

namespace DiceLauncher

/-! ## Skipped terms -/

namespace Query

/-- The skipped terms are those that cannot be read. -/
theorem map_fst_skipped (query : Query) :
    query.skipped.map Prod.fst = query.terms.filter fun term => !(RollSpec.parse term).isOk := by
  rw [skipped, List.map_filterMap, ← List.filterMap_eq_filter]
  refine List.filterMap_congr fun term _ => ?_
  cases hterm : RollSpec.parse term <;> simp [Option.guard, hterm, Except.isOk, Except.toBool]

/-- The batch has what the terms that can be read stand for. -/
theorem map_ok_batch (query : Query) :
    query.batch.map Except.ok =
      (query.terms.filter fun term => (RollSpec.parse term).isOk).map RollSpec.parse := by
  rw [batch, List.map_filterMap, ← List.filterMap_eq_map, List.filterMap_filter]
  refine List.filterMap_congr fun term _ => ?_
  cases hterm : RollSpec.parse term <;> simp [Except.isOk, Except.toBool, Except.toOption, hterm]

theorem mem_map_fst_skipped {query : Query} {term : String} (h : term ∈ query.terms) :
    term ∈ query.skipped.map Prod.fst ↔ (RollSpec.parse term).isOk = false := by
  simp [map_fst_skipped, h]

end Query

namespace Editor

/-! ## Specification -/

/-- Highlighting and the session take a line in the same way: the marked slices of a query are
its skipped terms, and its other terms make up its batch; a command has no marks. -/
def Agree (line : String) : Prop :=
  match Command.parse line with
  | .query query =>
    (invalidTerms line).map (fun (start, stop) => Text.slice? start stop line.toList) =
        (query.skipped.map Prod.fst).map (fun term => some term.toList) ∧
      query.batch.map Except.ok =
        (query.terms.filter fun term => term ∉ query.skipped.map Prod.fst).map RollSpec.parse
  | .help | .trigger _ => invalidTerms line = []

/-! ## Which lines are taken for commands -/

theorem isCommand_iff {line : List Char} :
    isCommand line ↔ (Text.trim line).head? = some '!' ∨ Text.trim line = ['?'] := by
  rw [isCommand, Text.head?_trim]
  simp

/-- A word that does not begin with a digit is no dice term. -/
theorem isTerm_cons {c : Char} (h : c.isDigit = false) (word : List Char) :
    isTerm (c :: word) = false := by
  have hscan : DiceTerm.scan (c :: word) = .error ⟨0, .count⟩ := by simp [DiceTerm.scan, h]
  rw [isTerm, RollSpec.parse, String.toList_ofList, hscan]
  rfl

/-- The first word of a query that begins with the trigger sign is skipped. -/
theorem skipped_ne_nil {line : String} {query : Query} (hparse : Command.parse line = .query query)
    (hsign : (Text.trim line.toList).head? = some '!') : query.skipped ≠ [] := by
  obtain ⟨rest, htrim⟩ : ∃ rest, Text.trim line.toList = '!' :: rest := by
    simpa [List.head?_eq_some_iff] using hsign
  obtain ⟨word, words, hwords⟩ := Text.exists_words_cons (c := '!') (by decide) rest
  have hterms : query.terms = String.ofList ('!' :: word) :: words.map String.ofList := by
    rw [Command.terms_of_parse hparse, ← Text.words_trim, htrim, hwords, List.map_cons]
  have hmem : String.ofList ('!' :: word) ∈ query.skipped.map Prod.fst := by
    rw [Query.mem_map_fst_skipped (by simp [hterms])]
    exact isTerm_cons (by decide) word
  intro hnil
  simp [hnil] at hmem

theorem batch_eq_others (query : Query) :
    query.batch.map Except.ok =
      (query.terms.filter fun term => term ∉ query.skipped.map Prod.fst).map RollSpec.parse := by
  rw [Query.map_ok_batch]
  congr 1
  refine List.filter_congr fun term hterm => ?_
  rw [Bool.eq_iff_iff, decide_eq_true_iff, Query.mem_map_fst_skipped hterm, Bool.not_eq_false]

/-- The marked slices of a query that highlighting does not take for a command. -/
theorem slices_eq_skipped {line : String} {query : Query}
    (hparse : Command.parse line = .query query) (hcommand : isCommand line.toList = false) :
    (invalidTerms line).map (fun (start, stop) => Text.slice? start stop line.toList) =
      (query.skipped.map Prod.fst).map (fun term => some term.toList) := by
  rw [slices_invalidTerms hcommand, Query.map_fst_skipped, Command.terms_of_parse hparse,
    List.filter_map, List.map_map]
  refine List.map_congr_left fun word _ => ?_
  rw [Function.comp_apply, String.toList_ofList]

/-- Highlighting and the session agree on a line unless it is a query that begins with the
trigger sign. -/
theorem agree_iff (line : String) :
    Agree line ↔ ¬ ((∃ query, Command.parse line = .query query) ∧
      (Text.trim line.toList).head? = some '!') := by
  obtain ⟨htrim, hparse⟩ | ⟨rest, index, htrim, -, hparse⟩ | ⟨hhelp, -, hparse⟩ :=
    Command.parse_cases line
  · have hcommand : isCommand line.toList := isCommand_iff.mpr (.inr htrim)
    simp [Agree, hparse, invalidTerms_of_isCommand hcommand]
  · have hcommand : isCommand line.toList := isCommand_iff.mpr (.inl (by simp [htrim]))
    simp [Agree, hparse, invalidTerms_of_isCommand hcommand]
  · generalize Query.ofSearch (String.ofList (Text.trim line.toList)) = query at hparse
    by_cases hsign : (Text.trim line.toList).head? = some '!'
    · have hcommand : isCommand line.toList := isCommand_iff.mpr (.inl hsign)
      have hskipped : query.skipped ≠ [] := skipped_ne_nil hparse hsign
      refine iff_of_false (fun hagree => hskipped ?_) fun h => h ⟨⟨query, hparse⟩, hsign⟩
      simp only [Agree, hparse, invalidTerms_of_isCommand hcommand, List.map_nil] at hagree
      simpa using hagree.1.symm
    · have hcommand : isCommand line.toList = false := by
        rw [← Bool.not_eq_true, isCommand_iff]
        simp [hsign, hhelp]
      have hagree : Agree line := by
        simp only [Agree, hparse]
        exact ⟨slices_eq_skipped hparse hcommand, batch_eq_others query⟩
      exact iff_of_true hagree fun h => hsign h.2

/-- A sign without a number is a query whose only term is skipped, and nothing is marked. -/
theorem not_agree_sign_without_number : ¬ Agree "!x" := by
  have hparse : Command.parse "!x" = .query ⟨"!x", ["!x"]⟩ := by cbv
  have hmarks : invalidTerms "!x" = [] := by cbv
  have hskipped : (Query.mk "!x" ["!x"]).skipped.map Prod.fst = ["!x"] := by cbv
  simp [Agree, hparse, hmarks, hskipped]

end Editor

end DiceLauncher
