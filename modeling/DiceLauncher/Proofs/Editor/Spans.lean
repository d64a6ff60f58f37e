import DiceLauncher.Editor.Highlight
import DiceLauncher.Proofs.Text.Bytes
import DiceLauncher.Proofs.Text.Words

/-!
# The spans of a line

The spans are found in one pass over a line, character by character. They are the words of
the line, each with the position where it stands.

Results:
* `map_word_spans`: the words of the spans are the words of the line.
* `mem_spans_iff`: the spans are the longest runs of characters that are not blank.
* `pairwise_spans`: they stand one behind the other, and never side by side.
* `slices_invalidTerms`: the slices that highlighting marks.
-/

namespace DiceLauncher.Editor

open Text (byteLength isBlank words)

/-! ## Specification -/

/-- A span fills the room between two blanks or ends of a line: its word stands right behind as
many bytes as its start tells, and cannot be made longer. -/
structure Span.Fills (line : List Char) (span : Span) : Prop where
  word : Text.IsWord span.word
  room : ∃ before after, line = before ++ (span.word ++ after) ∧ span.start = byteLength before ∧
    (∀ c ∈ before.getLast?, isBlank c) ∧ ∀ c ∈ after.head?, isBlank c

theorem Span.Fills.slice? {line : List Char} {span : Span} (h : span.Fills line) :
    Text.slice? span.start span.stop line = some span.word := by
  obtain ⟨before, after, rfl, hstart, -⟩ := h.room
  rw [Span.stop, hstart, Text.slice?_append]

/-- The ranges of the spans whose words are no dice terms. -/
def marks (spans : List Span) : List (Nat × Nat) :=
  (spans.filter fun span => !isTerm span.word).map fun span => (span.start, span.stop)

/-! ## One pass over a line -/

section Pass

variable {current : List Char}

theorem map_word_close (position : Nat) (hcurrent : ∀ c ∈ current, isBlank c = false) :
    (spansFrom.close position current).map Span.word = words current.reverse := by
  rw [spansFrom.close]
  split_ifs with hnil
  · rw [List.isEmpty_iff.mp hnil]
    rfl
  · have hword : Text.IsWord current.reverse :=
      ⟨by simpa using hnil, fun c hc => hcurrent c (List.mem_reverse.mp hc)⟩
    rw [hword.words_eq]
    rfl

/-- The words that a pass finds are those of the text with the part of a word read before it. -/
theorem map_word_spansFrom (position : Nat) (text : List Char)
    (hcurrent : ∀ c ∈ current, isBlank c = false) :
    (spansFrom position current text).map Span.word = words (current.reverse ++ text) := by
  induction text generalizing position current with
  | nil => rw [spansFrom, map_word_close position hcurrent, List.append_nil]
  | cons c text ih =>
    rw [spansFrom]
    split_ifs with hc
    · rw [List.map_append, map_word_close position hcurrent, ih _ (by simp),
        Text.words_append_blank _ _ hc]
      rfl
    · have hcons : ∀ d ∈ c :: current, isBlank d = false := by simpa [hc] using hcurrent
      rw [ih _ hcons, List.reverse_cons, List.append_assoc, List.singleton_append]

/-- A word between a blank and a blank fills the room between them. -/
theorem fills_of_mem_close {line before after : List Char} {span : Span}
    (hline : line = before ++ (current.reverse ++ after))
    (hbefore : ∀ c ∈ before.getLast?, isBlank c) (hafter : ∀ c ∈ after.head?, isBlank c)
    (hcurrent : ∀ c ∈ current, isBlank c = false)
    (h : span ∈ spansFrom.close (byteLength (before ++ current.reverse)) current) :
    span.Fills line := by
  rw [spansFrom.close] at h
  split_ifs at h with hnil
  · simp at h
  · obtain rfl := List.mem_singleton.mp h
    refine ⟨⟨by simpa using hnil, fun c hc => hcurrent c (List.mem_reverse.mp hc)⟩,
      before, after, hline, ?_, hbefore, hafter⟩
    rw [Text.byteLength_append]
    exact Nat.add_sub_cancel _ _

/-- The invariant of the pass: the line is what lies before the word that is being read, the
part of it read so far, and the rest; and the position is at the end of the second part. -/
theorem fills_of_mem_spansFrom {line : List Char} {span : Span} (before current text : List Char)
    (hline : line = before ++ (current.reverse ++ text))
    (hbefore : ∀ c ∈ before.getLast?, isBlank c) (hcurrent : ∀ c ∈ current, isBlank c = false)
    (h : span ∈ spansFrom (byteLength (before ++ current.reverse)) current text) :
    span.Fills line := by
  induction text generalizing before current with
  | nil => exact fills_of_mem_close hline hbefore (by simp) hcurrent h
  | cons c text ih =>
    have hposition : byteLength (before ++ current.reverse) + c.utf8Size =
        byteLength (before ++ current.reverse ++ [c]) := by
      rw [Text.byteLength_append _ [c], Text.byteLength_cons, Text.byteLength_nil, Nat.add_zero]
    rw [spansFrom, hposition] at h
    split_ifs at h with hc
    · obtain hclose | hrest := List.mem_append.mp h
      · exact fills_of_mem_close hline hbefore (by simpa using hc) hcurrent hclose
      · refine ih (before ++ current.reverse ++ [c]) [] ?_ ?_ ?_ ?_
        · simpa using hline
        · simpa using hc
        · simp
        · simpa using hrest
    · refine ih before (c :: current) ?_ hbefore ?_ ?_
      · simpa using hline
      · simpa [hc] using hcurrent
      · simpa using h

/-- A pass begins anew behind a blank. -/
theorem spansFrom_append_blank (position : Nat) (current before after : List Char) {blank : Char}
    (h : isBlank blank) :
    spansFrom position current (before ++ blank :: after) =
      spansFrom position current (before ++ [blank]) ++
        spansFrom (position + byteLength (before ++ [blank])) [] after := by
  induction before generalizing position current with
  | nil => simp [spansFrom, spansFrom.close, h]
  | cons c before ih =>
    rw [List.cons_append, List.cons_append, spansFrom, spansFrom, ih, ih, Text.byteLength_cons,
      ← Nat.add_assoc]
    split_ifs
    · rw [List.append_assoc]
    · rfl

/-- A pass over characters that are not blank only collects them. -/
theorem spansFrom_append_of_not_blank (position : Nat) (current : List Char) {word : List Char}
    (h : ∀ c ∈ word, isBlank c = false) (after : List Char) :
    spansFrom position current (word ++ after) =
      spansFrom (position + byteLength word) (word.reverse ++ current) after := by
  induction word generalizing position current with
  | nil => rfl
  | cons c word ih =>
    rw [List.forall_mem_cons] at h
    rw [List.cons_append, spansFrom, if_neg (by simp [h.1]), ih _ _ h.2, Text.byteLength_cons,
      Nat.add_assoc, List.reverse_cons, List.append_assoc, List.singleton_append]

theorem mem_spansFrom_of_head? {position : Nat} {text : List Char} {span : Span}
    (htext : ∀ c ∈ text.head?, isBlank c) (h : span ∈ spansFrom.close position current) :
    span ∈ spansFrom position current text := by
  cases text with
  | nil => exact h
  | cons c text =>
    have hc : isBlank c := htext c rfl
    rw [spansFrom, if_pos hc]
    exact List.mem_append_left _ h

/-- A word that ends at a position ends there, and starts as many bytes before as it has. -/
theorem stop_of_mem_close {position : Nat} {span : Span} (hle : byteLength current ≤ position)
    (h : span ∈ spansFrom.close position current) :
    span.stop = position ∧ span.start + byteLength current = position := by
  rw [spansFrom.close] at h
  split_ifs at h
  · simp at h
  · obtain rfl := List.mem_singleton.mp h
    have hstart : position - byteLength current + byteLength current = position :=
      Nat.sub_add_cancel hle
    rw [Span.stop, Text.byteLength_reverse]
    exact ⟨hstart, hstart⟩

/-- The spans of a pass start no earlier than the word that is being read. -/
theorem le_start_of_mem_spansFrom {position : Nat} {text : List Char} {span : Span}
    (hle : byteLength current ≤ position) (h : span ∈ spansFrom position current text) :
    position ≤ span.start + byteLength current := by
  induction text generalizing position current with
  | nil => exact (stop_of_mem_close hle h).2.ge
  | cons c text ih =>
    rw [spansFrom] at h
    split_ifs at h
    · obtain hclose | hrest := List.mem_append.mp h
      · exact (stop_of_mem_close hle hclose).2.ge
      · have hlater : position + c.utf8Size ≤ span.start + byteLength [] := ih (by simp) hrest
        rw [Text.byteLength_nil] at hlater
        omega
    · have hlater : position + c.utf8Size ≤ span.start + byteLength (c :: current) := by
        apply ih _ h
        rw [Text.byteLength_cons]
        omega
      rw [Text.byteLength_cons] at hlater
      omega

theorem pairwise_close (position : Nat) :
    (spansFrom.close position current).Pairwise fun span later => span.stop < later.start := by
  rw [spansFrom.close]
  split_ifs
  · exact List.Pairwise.nil
  · exact List.pairwise_singleton _ _

/-- A span ends before the next one starts, since there is a blank between them. -/
theorem pairwise_spansFrom {position : Nat} {text : List Char}
    (hle : byteLength current ≤ position) :
    (spansFrom position current text).Pairwise fun span later => span.stop < later.start := by
  induction text generalizing position current with
  | nil => exact pairwise_close position
  | cons c text ih =>
    rw [spansFrom]
    split_ifs
    · refine List.pairwise_append.mpr ⟨pairwise_close position, ih (Nat.zero_le _), ?_⟩
      intro span hspan later hlater
      have hstop : span.stop = position := (stop_of_mem_close hle hspan).1
      have hstart : position + c.utf8Size ≤ later.start :=
        le_start_of_mem_spansFrom (Nat.zero_le _) hlater
      have hsize : 0 < c.utf8Size := c.utf8Size_pos
      omega
    · apply ih
      rw [Text.byteLength_cons]
      omega

end Pass

/-! ## Words and marks -/

/-- The words of the spans of a line are the words of the line. -/
theorem map_word_spans (line : List Char) : (spans line).map Span.word = words line := by
  rw [spans, map_word_spansFrom 0 line (by simp), List.reverse_nil, List.nil_append]

/-- The spans of a line are what fills the room between its blanks. -/
theorem mem_spans_iff {line : List Char} {span : Span} :
    span ∈ spans line ↔ span.Fills line := by
  constructor
  · intro h
    exact fills_of_mem_spansFrom [] [] line rfl (by simp) (by simp) h
  · intro h
    obtain ⟨before, after, hline, hstart, hbefore, hafter⟩ := h.room
    have hclose : span ∈ spansFrom.close (span.start + byteLength span.word) span.word.reverse := by
      rw [spansFrom.close, if_neg (by simpa using h.word.ne_nil), List.reverse_reverse,
        Nat.add_sub_cancel]
      exact List.mem_singleton_self span
    have hpass : span ∈ spansFrom span.start [] (span.word ++ after) := by
      rw [spansFrom_append_of_not_blank _ _ h.word.not_blank, List.append_nil]
      exact mem_spansFrom_of_head? hafter hclose
    rw [spans, hline]
    rcases List.eq_nil_or_concat before with rfl | ⟨earlier, blank, rfl⟩
    · rwa [hstart] at hpass
    · rw [List.concat_eq_append] at hstart hbefore ⊢
      have hblank : isBlank blank := hbefore blank List.getLast?_concat
      rw [List.append_assoc, List.singleton_append, spansFrom_append_blank _ _ _ _ hblank,
        Nat.zero_add, ← hstart]
      exact List.mem_append_right _ hpass

/-- The spans of a line stand one behind the other, with a blank between any two. -/
theorem pairwise_spans (line : List Char) :
    (spans line).Pairwise fun span later => span.stop < later.start :=
  pairwise_spansFrom (Nat.le_refl 0)

theorem invalidTerms_of_isCommand {line : String} (h : isCommand line.toList) :
    invalidTerms line = [] := by
  rw [invalidTerms, invalidSpans, if_pos h, List.map_nil]

theorem invalidTerms_of_not_isCommand {line : String} (h : isCommand line.toList = false) :
    invalidTerms line = marks (spans line.toList) := by
  rw [invalidTerms, invalidSpans, if_neg (by simp [h]), marks]

/-- In a line that is no command, the marked slices are the words that are no dice terms. -/
theorem slices_invalidTerms {line : String} (h : isCommand line.toList = false) :
    (invalidTerms line).map (fun (start, stop) => Text.slice? start stop line.toList) =
      ((words line.toList).filter fun word => !isTerm word).map some := by
  have hmarked : (invalidTerms line).map
      (fun (start, stop) => Text.slice? start stop line.toList) =
      ((spans line.toList).filter fun span => !isTerm span.word).map (some ∘ Span.word) := by
    rw [invalidTerms_of_not_isCommand h, marks, List.map_map]
    refine List.map_congr_left fun span hspan => ?_
    exact (mem_spans_iff.mp (List.mem_of_mem_filter hspan)).slice?
  rw [hmarked, ← map_word_spans, List.filter_map, List.map_map]
  rfl

end DiceLauncher.Editor
