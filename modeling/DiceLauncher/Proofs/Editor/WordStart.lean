import DiceLauncher.Editor.Completion
import DiceLauncher.Proofs.Text.Bytes

/-!
# The word before the cursor

The word before the cursor is what stands between the last blank before the cursor and the
cursor. Completion takes it to start one byte behind the first byte of that blank. This is
right if the blank takes one byte. Behind a longer blank, such as the ideographic space, the
position lies inside the blank, and there is no completion at all.

Results:
* `exists_wordBefore`: there is a word, possibly an empty one, before every boundary.
* `WordBefore.complete_eq`: what completion makes of it.
* `findsWord_iff`: completion finds the word exactly if no longer blank stands before it.
-/

namespace DiceLauncher.Editor

open Text (byteLength isBlank IsBoundary)

/-! ## Specification -/

/-- A line has a word right before the cursor: no character of the word is blank, and what
stands earlier in the line is nothing or ends in a blank. -/
structure WordBefore (line : List Char) (cursor : Nat) (earlier word : List Char) : Prop where
  line : ∃ after, line = earlier ++ word ++ after
  cursor : cursor = byteLength (earlier ++ word)
  earlier : ∀ c ∈ earlier.getLast?, isBlank c
  word : ∀ c ∈ word, isBlank c = false

/-- Completion ends, and takes the word before the cursor to start where it does. -/
def FindsWord (line : String) (cursor : Nat) : Prop :=
  ∃ completion earlier word, complete line cursor = some completion ∧
    WordBefore line.toList cursor earlier word ∧ completion.start = byteLength earlier

section

variable {line : List Char} {cursor : Nat} {earlier word : List Char}

theorem WordBefore.before?_eq (h : WordBefore line cursor earlier word) :
    Text.before? (byteLength earlier) line = some earlier := by
  obtain ⟨after, hline⟩ := h.line
  exact Text.before?_eq_some_iff.mpr ⟨word ++ after, by rw [hline, List.append_assoc], rfl⟩

theorem WordBefore.slice?_eq (h : WordBefore line cursor earlier word) :
    Text.slice? (byteLength earlier) cursor line = some word := by
  obtain ⟨after, hline⟩ := h.line
  rw [h.cursor, Text.byteLength_append, hline, List.append_assoc, Text.slice?_append]

end

/-! ## The last blank -/

/-- Before every boundary of a line there is a word. -/
theorem exists_wordBefore {line : List Char} {cursor : Nat} (h : IsBoundary line cursor) :
    ∃ earlier word, WordBefore line cursor earlier word := by
  obtain ⟨before, after, hline, hcursor⟩ := h
  have hcut : before.rdropWhile (fun c => !isBlank c) ++ before.rtakeWhile (fun c => !isBlank c) =
      before := List.rdropWhile_append_rtakeWhile
  refine ⟨before.rdropWhile fun c => !isBlank c, before.rtakeWhile fun c => !isBlank c,
    ⟨after, by rw [hcut, hline]⟩, by rw [hcut, hcursor], fun c hc => ?_, fun c hc => ?_⟩
  · obtain ⟨hne, rfl⟩ := List.mem_getLast?_eq_getLast hc
    simpa using List.rdropWhile_last_not _ before hne
  · simpa using List.mem_rtakeWhile_imp hc

section

variable {word : List Char}

theorem wordStart_of_not_blank (hword : ∀ c ∈ word, isBlank c = false) : wordStart word = 0 := by
  have hdrop : word.reverse.dropWhile (fun c => !isBlank c) = [] :=
    List.dropWhile_eq_nil_iff.mpr fun c hc => by simp [hword c (List.mem_reverse.mp hc)]
  rw [wordStart, hdrop]

theorem wordStart_append (earlier : List Char) {blank : Char} (hblank : isBlank blank)
    (hword : ∀ c ∈ word, isBlank c = false) :
    wordStart (earlier ++ [blank] ++ word) = byteLength earlier + 1 := by
  have hdrop : (earlier ++ [blank] ++ word).reverse.dropWhile (fun c => !isBlank c) =
      blank :: earlier.reverse := by
    rw [List.reverse_append, List.reverse_append, List.dropWhile_append_of_pos]
    · simp [hblank]
    · intro c hc
      simp [hword c (List.mem_reverse.mp hc)]
  rw [wordStart, hdrop]
  exact congrArg (· + 1) (Text.byteLength_reverse earlier)

end

/-! ## Completion -/

/-- Completion gives the candidates of the word before the cursor, unless the blank that the
word stands behind takes several bytes. -/
theorem WordBefore.complete_eq {line : String} {cursor : Nat} {earlier word : List Char}
    (h : WordBefore line.toList cursor earlier word) :
    complete line cursor =
      if ∀ blank ∈ earlier.getLast?, blank.utf8Size = 1 then
        some ⟨byteLength earlier, candidates word⟩
      else none := by
  obtain ⟨⟨after, hline⟩, hcursor, hearlier, hword⟩ := h
  have hbefore : Text.before? cursor line.toList = some (earlier ++ word) :=
    Text.before?_eq_some_iff.mpr ⟨after, hline, hcursor⟩
  simp only [complete, hbefore, Option.bind_eq_bind, Option.bind_some]
  rcases List.eq_nil_or_concat earlier with rfl | ⟨start, blank, rfl⟩
  · rw [List.nil_append, wordStart_of_not_blank hword, Text.from?, Text.splitAt?]
    simp
  · simp only [List.concat_eq_append] at hearlier ⊢
    have hblank : isBlank blank := hearlier blank List.getLast?_concat
    rw [wordStart_append start hblank hword, Text.from?]
    by_cases hsize : blank.utf8Size = 1
    · have hstart : byteLength start + 1 = byteLength (start ++ [blank]) := by simp [hsize]
      rw [hstart, Text.splitAt?_append]
      simp [hsize]
    · -- the start lies one byte behind that of the blank, so still inside the blank
      have hlt : 1 < blank.utf8Size := by
        have := blank.utf8Size_pos
        omega
      rw [List.append_assoc, List.singleton_append,
        Text.splitAt?_inside start word Nat.one_ne_zero hlt]
      simp [hsize]

/-- A completion is about the word before the cursor. -/
theorem exists_wordBefore_of_complete {line : String} {cursor : Nat} {completion : Completion}
    (h : complete line cursor = some completion) :
    ∃ earlier word, WordBefore line.toList cursor earlier word ∧
      completion = ⟨byteLength earlier, candidates word⟩ := by
  have hboundary : IsBoundary line.toList cursor := by
    cases hbefore : Text.before? cursor line.toList with
    | none => simp [complete, hbefore] at h
    | some before =>
      obtain ⟨after, hline, hcursor⟩ := Text.before?_eq_some_iff.mp hbefore
      exact ⟨before, after, hline, hcursor⟩
  obtain ⟨earlier, word, hword⟩ := exists_wordBefore hboundary
  rw [hword.complete_eq] at h
  split_ifs at h
  exact ⟨earlier, word, hword, (Option.some.inj h).symm⟩

/-- Completion finds the word before the cursor exactly if it does not stand behind a blank of
several bytes, and there it does not end. -/
theorem findsWord_iff {line : String} {cursor : Nat} (h : IsBoundary line.toList cursor) :
    (FindsWord line cursor ↔
      ∀ earlier word, WordBefore line.toList cursor earlier word →
        ∀ blank ∈ earlier.getLast?, blank.utf8Size = 1) ∧
    (¬ FindsWord line cursor → complete line cursor = none) := by
  obtain ⟨earlier, word, hword⟩ := exists_wordBefore h
  by_cases hsize : ∀ blank ∈ earlier.getLast?, blank.utf8Size = 1
  · have hcomplete : complete line cursor = some ⟨byteLength earlier, candidates word⟩ := by
      rw [hword.complete_eq, if_pos hsize]
    have hfinds : FindsWord line cursor := ⟨_, earlier, word, hcomplete, hword, rfl⟩
    refine ⟨iff_of_true hfinds fun other rest hother => ?_, fun hnot => absurd hfinds hnot⟩
    by_contra hwide
    rw [hother.complete_eq, if_neg hwide] at hcomplete
    exact Option.some_ne_none _ hcomplete.symm
  · have hcomplete : complete line cursor = none := by rw [hword.complete_eq, if_neg hsize]
    have hfinds : ¬ FindsWord line cursor := by
      rintro ⟨completion, -, -, hsome, -⟩
      simp [hcomplete] at hsome
    exact ⟨iff_of_false hfinds fun hall => hsize (hall earlier word hword), fun _ => hcomplete⟩

/-- A tab stands before the word, and an ideographic space earlier in the line. -/
theorem findsWord_iff_behind_tab :
    IsBoundary "\u3000é\t3D10".toList 9 ∧ FindsWord "\u3000é\t3D10" 9 ∧
    ∀ earlier word, WordBefore "\u3000é\t3D10".toList 9 earlier word →
      ∀ blank ∈ earlier.getLast?, blank.utf8Size = 1 := by
  have hboundary : IsBoundary "\u3000é\t3D10".toList 9 :=
    ⟨"\u3000é\t3D1".toList, ['0'], by decide, by decide⟩
  obtain ⟨hiff, hnone⟩ := findsWord_iff hboundary
  have hcomplete : complete "\u3000é\t3D10" 9 ≠ none := by decide +kernel
  have hfinds : FindsWord "\u3000é\t3D10" 9 := by
    by_contra hnot
    exact hcomplete (hnone hnot)
  exact ⟨hboundary, hfinds, hiff.mp hfinds⟩

/-- There is no completion at the end of a word behind an ideographic space. -/
theorem not_findsWord_behind_ideographic_space :
    IsBoundary "\u30002d".toList 5 ∧ complete "\u30002d" 5 = none ∧ ¬ FindsWord "\u30002d" 5 := by
  have hboundary : IsBoundary "\u30002d".toList 5 := ⟨"\u30002d".toList, [], by decide, by decide⟩
  have hcomplete : complete "\u30002d" 5 = none := by decide +kernel
  refine ⟨hboundary, hcomplete, ?_⟩
  rintro ⟨completion, -, -, hsome, -⟩
  simp [hcomplete] at hsome

end DiceLauncher.Editor
