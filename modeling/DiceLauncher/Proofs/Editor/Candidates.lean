import DiceLauncher.Proofs.Editor.WordStart
import DiceLauncher.Proofs.Launcher.Appending
import DiceLauncher.Proofs.RollSpec.RoundTrip

/-!
# The candidates of a word

A word is completed if it is the beginning of a dice term that reaches the separator. Then
every size of a quick roll that begins with the digits typed behind the separator is offered.
What takes the place of the word is a dice term, and the only way in which it can fail to be
read is a count that is too large.

Results:
* `Begins.candidates_eq`, `candidates_eq_nil`: the candidates of a word.
* `Begins.parse_offer`, `Begins.parse_offer_iff`: how a candidate is read.
* `complete_offers`: what completion offers, and which roll an accepted candidate adds.
-/

namespace DiceLauncher.Editor

open Text (byteLength isBlank)

/-! ## Specification -/

/-- A word is the beginning of a dice term: a count, the separator, and the digits of the
sides as far as they are typed. -/
structure Begins (word count : List Char) (separator : Char) (typed : List Char) : Prop where
  word : word = count ++ separator :: typed
  count : Decimal.IsRun count
  separator : separator = 'd' ∨ separator = 'D'
  typed : ∀ c ∈ typed, c.isDigit

/-- The sizes of the quick rolls, in their order, whose decimal text begins with given digits. -/
def sizesFrom (typed : List Char) : List UInt64 :=
  (Catalog.quickRolls.map Prod.fst).filter fun size =>
    typed.isPrefixOf (Decimal.renderWord size).toList

/-- A size that is offered behind a count. It is listed with a small `d`, and the typed
separator is kept in what takes the place of the word. -/
def offer (count : List Char) (separator : Char) (size : UInt64) : Candidate :=
  ⟨String.ofList count ++ "d" ++ Decimal.renderWord size,
    String.ofList (count ++ [separator]) ++ Decimal.renderWord size⟩

/-! ## Which candidates a word has -/

section

variable {word count typed : List Char} {separator : Char}

theorem not_isSeparator_of_isDigit {c : Char} (h : c.isDigit) : DiceTerm.isSeparator c = false := by
  by_contra hc
  have hsep := (DiceTerm.isSeparator_iff c).mp (by simpa using hc)
  simp [DiceTerm.isDigit_separator hsep] at h

/-- The first separator of the beginning of a term is the one behind its count. -/
theorem Begins.span (h : Begins word count separator typed) :
    word.takeWhile (fun c => !DiceTerm.isSeparator c) = count ∧
      word.dropWhile (fun c => !DiceTerm.isSeparator c) = separator :: typed := by
  have hcount : ∀ c ∈ count, (!DiceTerm.isSeparator c) = true := fun c hc => by
    simp [not_isSeparator_of_isDigit (h.count.isDigit c hc)]
  have hsep : DiceTerm.isSeparator separator = true := (DiceTerm.isSeparator_iff _).mpr h.separator
  rw [h.word, List.takeWhile_append_of_pos hcount, List.dropWhile_append_of_pos hcount]
  simp [hsep]

theorem sizeCandidates_eq (count typed : List Char) (separator : Char) :
    sizeCandidates count separator typed = (sizesFrom typed).map (offer count separator) := by
  simp only [sizeCandidates, sizesFrom, List.filter_map, List.map_map]
  refine List.map_congr_left fun size _ => ?_
  simp [offer, Decimal.renderWord, Decimal.render, ← String.toList_inj]

/-- The candidates of the beginning of a term. -/
theorem Begins.candidates_eq (h : Begins word count separator typed) :
    candidates word = (sizesFrom typed).map (offer count separator) := by
  obtain ⟨htake, hdrop⟩ := h.span
  have hcount : count.all Char.isDigit = true := List.all_eq_true.mpr h.count.isDigit
  have htyped : typed.all Char.isDigit = true := List.all_eq_true.mpr h.typed
  simp only [candidates, htake, hdrop, hcount, htyped, sizeCandidates_eq]
  simp [h.count.ne_nil]

/-- Other words have no candidates. -/
theorem candidates_eq_nil (h : ¬ ∃ count separator typed, Begins word count separator typed) :
    candidates word = [] := by
  rw [candidates]
  split
  · rfl
  · next separator typed hdrop =>
    -- a word whose parts pass the tests is the beginning of a term after all
    rw [if_neg]
    intro hparts
    simp only [Bool.and_eq_true, Bool.not_eq_true', List.isEmpty_eq_false_iff,
      List.all_eq_true] at hparts
    obtain ⟨⟨hne, hcount⟩, htyped⟩ := hparts
    have hsep : DiceTerm.isSeparator separator = true := by
      have hhead := List.head?_dropWhile_not (fun c => !DiceTerm.isSeparator c) word
      simpa [hdrop] using hhead
    refine h ⟨_, separator, typed, ?_, ⟨hne, hcount⟩, (DiceTerm.isSeparator_iff _).mp hsep, htyped⟩
    rw [← hdrop, List.takeWhile_append_dropWhile]

/-! ## Candidates as dice terms -/

theorem toList_replacement_offer (count : List Char) (separator : Char) (size : UInt64) :
    (offer count separator size).replacement.toList =
      count ++ separator :: Decimal.digits size.toNat := by
  simp [offer, Decimal.renderWord, Decimal.render]

/-- The word is kept when a candidate takes its place. -/
theorem Begins.prefix_offer (h : Begins word count separator typed) {size : UInt64}
    (hsize : size ∈ sizesFrom typed) : word <+: (offer count separator size).replacement.toList := by
  have hprefix : typed <+: Decimal.digits size.toNat := by
    simpa [Decimal.renderWord, Decimal.render] using List.of_mem_filter hsize
  rw [toList_replacement_offer, h.word]
  exact (List.prefix_append_right_inj count).mpr (List.cons_prefix_cons.mpr ⟨rfl, hprefix⟩)

/-- A candidate is written as a dice term without a modifier. -/
theorem Begins.spells_offer (h : Begins word count separator typed) (size : UInt64) :
    (DiceTerm.mk count separator (Decimal.digits size.toNat) none).Spells
      (offer count separator size).replacement := by
  refine ⟨⟨h.count, h.separator, Decimal.isRun_digits _, by simp⟩, ?_⟩
  simp [toList_replacement_offer, DiceTerm.written, DiceTerm.writtenTail]

/-- A candidate whose count fits is read as its count of dice of its size. -/
theorem Begins.parse_offer (h : Begins word count separator typed) (size : UInt64)
    (hcount : Decimal.value count < 2 ^ 64) :
    RollSpec.parse (offer count separator size).replacement =
      .ok ⟨UInt64.ofNat (Decimal.value count), size, none⟩ :=
  RollSpec.parse_eq_ok_iff.mpr ⟨_, h.spells_offer size, Decimal.toNat_word hcount,
    (Decimal.value_digits _).symm, rfl⟩

/-- A candidate is read exactly if its count fits. -/
theorem Begins.parse_offer_iff (h : Begins word count separator typed) (size : UInt64) :
    (∃ spec, RollSpec.parse (offer count separator size).replacement = .ok spec) ↔
      Decimal.value count < 2 ^ 64 := by
  refine ⟨?_, fun hcount => ⟨_, h.parse_offer size hcount⟩⟩
  rintro ⟨spec, hparse⟩
  obtain ⟨term, hterm, hdenotes⟩ := RollSpec.parse_eq_ok_iff.mp hparse
  obtain rfl := hterm.unique (h.spells_offer size)
  exact hdenotes.diceFit.1

/-- An accepted candidate adds its roll to those of the text before it. -/
theorem Begins.batch_offer (h : Begins word count separator typed) (size : UInt64)
    {earlier : List Char} (hearlier : ∀ c ∈ earlier.getLast?, isBlank c)
    (hcount : Decimal.value count < 2 ^ 64) :
    (Query.ofSearch (String.ofList earlier ++ (offer count separator size).replacement)).batch =
      (Query.ofSearch (String.ofList earlier)).batch ++
        [⟨UInt64.ofNat (Decimal.value count), size, none⟩] := by
  have hword : Text.IsWord (offer count separator size).replacement.toList :=
    (h.spells_offer size).2 ▸ (h.spells_offer size).1.isWord
  have hbatch : (Query.ofSearch (offer count separator size).replacement).batch =
      [⟨UInt64.ofNat (Decimal.value count), size, none⟩] := by
    rw [Query.batch_ofSearch_of_not_blank hword.not_blank, h.parse_offer size hcount]
    rfl
  rw [Query.batch_of_terms_append (Query.terms_ofSearch_append_of_getLast? (by simpa) _), hbatch]

end

/-! ## Completion -/

/-- A completion is about the word between its start and the cursor. If that is the beginning of
a dice term, the sizes of the quick rolls that go on with it are offered, in their order; a
candidate is read exactly if its count fits, and then it adds its roll behind the rolls of the
text before the word. Nothing is offered for other words. -/
theorem complete_offers {line : String} {cursor : Nat} {completion : Completion}
    (h : complete line cursor = some completion) :
    ∃ earlier word, Text.before? completion.start line.toList = some earlier ∧
      Text.slice? completion.start cursor line.toList = some word ∧
      (∀ count separator typed, Begins word count separator typed →
        completion.candidates = (sizesFrom typed).map (offer count separator) ∧
        ∀ size ∈ sizesFrom typed,
          word <+: (offer count separator size).replacement.toList ∧
          ((∃ spec, RollSpec.parse (offer count separator size).replacement = .ok spec) ↔
            Decimal.value count < 2 ^ 64) ∧
          (Decimal.value count < 2 ^ 64 →
            (Query.ofSearch
                (String.ofList earlier ++ (offer count separator size).replacement)).batch =
              (Query.ofSearch (String.ofList earlier)).batch ++
                [⟨UInt64.ofNat (Decimal.value count), size, none⟩])) ∧
      ((¬ ∃ count separator typed, Begins word count separator typed) →
        completion.candidates = []) := by
  obtain ⟨earlier, word, hword, rfl⟩ := exists_wordBefore_of_complete h
  refine ⟨earlier, word, hword.before?_eq, hword.slice?_eq, fun count separator typed hbegins => ?_,
    candidates_eq_nil⟩
  refine ⟨hbegins.candidates_eq, fun size hsize => ⟨hbegins.prefix_offer hsize,
    hbegins.parse_offer_iff size, hbegins.batch_offer size hword.earlier⟩⟩

/-- The cursor is at the end of the second of three words, and zeros lead its count. -/
theorem complete_offers_leading_zeros :
    let completion : Completion :=
      ⟨4, [⟨"007d10", "007D10"⟩, ⟨"007d12", "007D12"⟩, ⟨"007d100", "007D100"⟩]⟩
    complete "1d4\t007D1 x" 9 = some completion ∧
    (Query.ofSearch ("1d4\t" ++ "007D10")).batch =
      (Query.ofSearch "1d4\t").batch ++ [⟨7, 10, none⟩] := by
  have hcomplete : complete "1d4\t007D1 x" 9 = some
      ⟨4, [⟨"007d10", "007D10"⟩, ⟨"007d12", "007D12"⟩, ⟨"007d100", "007D100"⟩]⟩ := by
    decide +kernel
  obtain ⟨earlier, word, hearlier, hword, hoffers, -⟩ := complete_offers hcomplete
  obtain rfl : "1d4\t".toList = earlier := by
    rw [← Option.some_inj, ← hearlier]
    decide
  obtain rfl : "007D1".toList = word := by
    rw [← Option.some_inj, ← hword]
    decide
  have hbegins : Begins "007D1".toList "007".toList 'D' ['1'] :=
    ⟨by decide, ⟨by decide, by simp⟩, by decide, by simp⟩
  obtain ⟨-, hsizes⟩ := hoffers _ _ _ hbegins
  obtain ⟨-, -, hbatch⟩ := hsizes 10 (by decide +kernel)
  exact ⟨hcomplete, hbatch (by decide)⟩

end DiceLauncher.Editor
