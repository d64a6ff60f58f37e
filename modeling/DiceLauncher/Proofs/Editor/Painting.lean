import DiceLauncher.Proofs.Editor.Spans
import DiceLauncher.Proofs.Style

/-!
# Highlighting keeps the text

Highlighting goes through a line once and paints its words one by one. The same line comes out
when the marked slices are cut from it, painted red, and put back between the gaps. Neither
alters the text: without the colours, the line is what it was.

Results:
* `splice?_invalidTerms`: the marked slices can be cut, and painting them highlights the line.
* `mem_invalidTerms_iff`: the marked slices are the longest runs of characters that are not
  blank and that cannot be read as a roll.
* `highlight_keeps_text`: what highlighting does to a line, and what it leaves as it is.
-/

namespace DiceLauncher.Editor

open Text (byteLength isBlank words)

/-! ## Specification -/

/-- A line from the position `done` on, with the slices in the given ranges painted red: what is
between two of them is copied. Nothing, if a slice does not lie between characters, or not
behind the one before it. -/
def splice? (colors : Bool) (line : List Char) (done : Nat) : List (Nat × Nat) → Option (List Char)
  | [] => Text.from? done line
  | (start, stop) :: ranges => do
    let gap ← Text.slice? done start line
    let word ← Text.slice? start stop line
    let shown ← splice? colors line stop ranges
    some (gap ++ (Style.red.paintChars colors word ++ shown))

/-- The range of a word that cannot be read as a roll: of a longest run of characters that are
not blank, where it stands in the line. -/
def IsUnreadable (line : List Char) (range : Nat × Nat) : Prop :=
  ∃ span : Span, span.Fills line ∧ range = (span.start, span.stop) ∧
    ∃ error, RollSpec.parse (String.ofList span.word) = .error error

/-! ## The marked slices -/

theorem isTerm_eq_false_iff {word : List Char} :
    isTerm word = false ↔ ∃ error, RollSpec.parse (String.ofList word) = .error error := by
  unfold isTerm
  cases RollSpec.parse (String.ofList word) <;> simp [Except.isOk, Except.toBool]

theorem mem_marks_spans_iff {line : List Char} {range : Nat × Nat} :
    range ∈ marks (spans line) ↔ IsUnreadable line range := by
  simp only [marks, List.mem_map, List.mem_filter, mem_spans_iff, Bool.not_eq_true',
    isTerm_eq_false_iff, IsUnreadable, and_assoc]
  constructor
  · rintro ⟨span, hfills, herror, rfl⟩
    exact ⟨span, hfills, rfl, herror⟩
  · rintro ⟨span, hfills, rfl, herror⟩
    exact ⟨span, hfills, herror, rfl⟩

/-- The marked slices are the words that cannot be read, unless the line is a command. -/
theorem mem_invalidTerms_iff {line : String} {range : Nat × Nat} :
    range ∈ invalidTerms line ↔
      isCommand line.toList = false ∧ IsUnreadable line.toList range := by
  cases hcommand : isCommand line.toList with
  | true => simp [invalidTerms_of_isCommand hcommand]
  | false => simp [invalidTerms_of_not_isCommand hcommand, mem_marks_spans_iff]

/-- A word that cannot be read has a length, and lies between characters of the line. -/
theorem IsUnreadable.within {line : List Char} {range : Nat × Nat} (h : IsUnreadable line range) :
    range.1 < range.2 ∧ range.2 ≤ byteLength line ∧ Text.IsBoundary line range.1 ∧
      Text.IsBoundary line range.2 := by
  obtain ⟨span, hfills, rfl, -⟩ := h
  obtain ⟨before, after, hline, hstart, -⟩ := hfills.room
  have hlength : 0 < byteLength span.word := Text.byteLength_pos hfills.word.ne_nil
  have hstop : span.stop = byteLength (before ++ span.word) := by
    rw [Span.stop, hstart, Text.byteLength_append]
  refine ⟨?_, ?_, ⟨before, span.word ++ after, hline, hstart⟩,
    ⟨before ++ span.word, after, by rw [hline, List.append_assoc], hstop⟩⟩
  · show span.start < span.stop
    rw [Span.stop]
    omega
  · show span.stop ≤ byteLength line
    rw [hstop, hline, ← List.append_assoc, Text.byteLength_append _ after]
    exact Nat.le_add_right _ _

/-- The marked slices follow one another, and never touch. -/
theorem pairwise_invalidTerms (line : String) :
    (invalidTerms line).Pairwise fun range later => range.2 < later.1 := by
  cases hcommand : isCommand line.toList with
  | true => simp [invalidTerms_of_isCommand hcommand]
  | false =>
    rw [invalidTerms_of_not_isCommand hcommand, marks, List.pairwise_map]
    exact (pairwise_spans line.toList).filter _

/-! ## Painting the marked slices -/

section Splice

variable {colors : Bool} {line : List Char} {ranges : List (Nat × Nat)}
  {current text shown : List Char} {position : Nat}

/-- The invariant of painting slices: the text `text` at the end of a line becomes `shown`, and
what lies between it and the slice painted last is copied. -/
def Completes (colors : Bool) (line : List Char) (ranges : List (Nat × Nat))
    (text shown : List Char) : Prop :=
  ∀ copied gap, line = copied ++ (gap ++ text) →
    splice? colors line (byteLength copied) ranges = some (gap ++ shown)

theorem completes_nil : Completes colors line [] [] [] := by
  intro copied gap hline
  rw [splice?, Text.from?, hline, Text.splitAt?_append]
  rfl

/-- A character before the first slice is copied. -/
theorem Completes.cons (h : Completes colors line ranges text shown) (c : Char) :
    Completes colors line ranges (c :: text) (c :: shown) := by
  intro copied gap hline
  have hcopy := h copied (gap ++ [c])
  simp only [List.append_assoc, List.singleton_append] at hcopy
  exact hcopy hline

/-- A text before the first slice is copied. -/
theorem Completes.append (h : Completes colors line ranges text shown) (before : List Char) :
    Completes colors line ranges (before ++ text) (before ++ shown) := by
  induction before with
  | nil => exact h
  | cons c before ih => exact ih.cons c

/-- A slice at the start of the text is painted. -/
theorem Completes.slice (h : Completes colors line ranges text shown)
    {word : List Char} {start stop : Nat}
    (hstart : start + byteLength (word ++ text) = byteLength line)
    (hstop : stop + byteLength text = byteLength line) :
    Completes colors line ((start, stop) :: ranges) (word ++ text)
      (Style.red.paintChars colors word ++ shown) := by
  intro copied gap hline
  have hlength := congrArg byteLength hline
  simp only [Text.byteLength_append] at hlength hstart
  have hgap : Text.slice? (byteLength copied) start line = some gap := by
    rw [hline, show start = byteLength copied + byteLength gap by omega]
    exact Text.slice?_append copied gap (word ++ text)
  have hword : Text.slice? start stop line = some word := by
    have hcut := Text.slice?_append (copied ++ gap) word text
    rwa [List.append_assoc, ← hline, Text.byteLength_append,
      show byteLength copied + byteLength gap = start by omega,
      show start + byteLength word = stop by omega] at hcut
  have hrest : splice? colors line stop ranges = some shown := by
    have hcopy := h (copied ++ (gap ++ word)) [] (by simpa using hline)
    rwa [show byteLength (copied ++ (gap ++ word)) = stop by
      simp only [Text.byteLength_append]; omega, List.nil_append] at hcopy
  rw [splice?, hgap, hword, hrest]
  rfl

/-- A word that ends at a position is shown as it is painted. -/
theorem Completes.close (h : Completes colors line ranges text shown)
    (hposition : position + byteLength text = byteLength line)
    (hle : byteLength current ≤ position) :
    Completes colors line (marks (spansFrom.close position current) ++ ranges)
      (current.reverse ++ text) (paintWord colors current.reverse ++ shown) := by
  rw [spansFrom.close, paintWord]
  by_cases hnil : current = []
  · simpa [hnil, marks] using h
  by_cases hterm : isTerm current.reverse
  · simpa [hnil, hterm, marks] using h.append current.reverse
  · have hslice : Completes colors line
        ((position - byteLength current.reverse, position) :: ranges) (current.reverse ++ text)
        (Style.red.paintChars colors current.reverse ++ shown) := by
      apply h.slice _ hposition
      rw [Text.byteLength_append, Text.byteLength_reverse]
      omega
    have hstop : position - byteLength current + byteLength current = position :=
      Nat.sub_add_cancel hle
    simpa [hnil, hterm, marks, Span.stop, hstop] using hslice

/-- What the pass marks of a text is what the painting paints of it. -/
theorem completes_spansFrom (hposition : position + byteLength text = byteLength line)
    (hle : byteLength current ≤ position) :
    Completes colors line (marks (spansFrom position current text)) (current.reverse ++ text)
      (paintWords colors current text) := by
  induction text generalizing position current with
  | nil =>
    have hnil : Completes colors line [] [] [] := completes_nil
    simpa [spansFrom, paintWords] using hnil.close hposition hle
  | cons c text ih =>
    have hnext : position + c.utf8Size + byteLength text = byteLength line := by
      rw [← hposition, Text.byteLength_cons, Nat.add_assoc]
    rw [spansFrom, paintWords]
    split_ifs
    · have hrest : Completes colors line (marks (spansFrom (position + c.utf8Size) [] text)) text
          (paintWords colors [] text) := ih hnext (Nat.zero_le _)
      have hclose := (hrest.cons c).close hposition hle
      rwa [marks, marks, ← List.map_append, ← List.filter_append] at hclose
    · have hcurrent : byteLength (c :: current) ≤ position + c.utf8Size := by
        rw [Text.byteLength_cons]
        omega
      have hrest := ih hnext hcurrent
      rwa [List.reverse_cons, List.append_assoc, List.singleton_append] at hrest

end Splice

/-- The slices that are marked can be cut, and painting them is highlighting. -/
theorem splice?_invalidTerms (colors : Bool) (line : String) :
    splice? colors line.toList 0 (invalidTerms line) = some (highlight colors line).toList := by
  unfold highlight
  split_ifs with hcommand
  · rw [invalidTerms_of_isCommand hcommand]
    have hcopy : Completes colors line.toList [] line.toList line.toList := by
      simpa using completes_nil.append line.toList
    exact hcopy [] [] rfl
  · rw [invalidTerms_of_not_isCommand (by simpa using hcommand), String.toList_ofList]
    have hpass : Completes colors line.toList (marks (spans line.toList)) line.toList
        (paintWords colors [] line.toList) :=
      completes_spansFrom (Nat.zero_add _) (Nat.le_refl 0)
    exact hpass [] [] rfl

/-! ## Taking the colours off again -/

theorem paintWord_false (word : List Char) : paintWord false word = word := by
  rw [paintWord, Style.paintChars_false, ite_self]

theorem paintWords_false (current text : List Char) :
    paintWords false current text = current.reverse ++ text := by
  induction text generalizing current with
  | nil => rw [paintWords, paintWord_false, List.append_nil]
  | cons c text ih =>
    rw [paintWords, ih, ih, paintWord_false]
    split_ifs
    · rfl
    · rw [List.reverse_cons, List.append_assoc, List.singleton_append]

theorem highlight_false (line : String) : highlight false line = line := by
  unfold highlight
  rw [paintWords_false, List.reverse_nil, List.nil_append, String.ofList_toList, ite_self]

section Plain

variable {current text : List Char}

theorem unpaint_paintWord {word : List Char} (h : '\x1b' ∉ word) (rest : List Char) :
    Style.unpaint (paintWord true word ++ rest) = word ++ Style.unpaint rest := by
  unfold paintWord
  split_ifs
  · exact Style.unpaint_append h rest
  · exact Style.unpaint_painted h rest

theorem unpaint_paintWords (hcurrent : '\x1b' ∉ current) (htext : '\x1b' ∉ text) :
    Style.unpaint (paintWords true current text) = current.reverse ++ text := by
  induction text generalizing current with
  | nil =>
    have hword : '\x1b' ∉ current.reverse := by simpa using hcurrent
    simpa [paintWords, Style.unpaint] using unpaint_paintWord hword []
  | cons c text ih =>
    have hc : '\x1b' ≠ c := List.ne_of_not_mem_cons htext
    have hrest : '\x1b' ∉ text := List.not_mem_of_not_mem_cons htext
    rw [paintWords]
    split_ifs
    · rw [unpaint_paintWord (by simpa using hcurrent), Style.unpaint_cons hc.symm,
        ih (by simp) hrest, List.reverse_nil, List.nil_append]
    · rw [ih (by simp [hc, hcurrent]) hrest, List.reverse_cons, List.append_assoc,
        List.singleton_append]

/-- The red part of a word that is shown is the word, if it is a word and no dice term. -/
theorem redParts_paintWord {word : List Char} (h : '\x1b' ∉ word)
    (hblank : ∀ c ∈ word, isBlank c = false) (rest : List Char) :
    Style.redParts (paintWord true word ++ rest) =
      ((words word).filter fun word => !isTerm word) ++ Style.redParts rest := by
  by_cases hnil : word = []
  · subst hnil
    rfl
  have hwords : words word = [word] := (Text.IsWord.mk hnil hblank).words_eq
  rw [paintWord, hwords]
  by_cases hterm : isTerm word
  · simpa [hterm] using Style.redParts_append h rest
  · simpa [hterm, hnil] using Style.redParts_painted h rest

theorem redParts_paintWords (hcurrent : '\x1b' ∉ current)
    (hblank : ∀ c ∈ current, isBlank c = false) (htext : '\x1b' ∉ text) :
    Style.redParts (paintWords true current text) =
      (words (current.reverse ++ text)).filter fun word => !isTerm word := by
  induction text generalizing current with
  | nil =>
    have hword : '\x1b' ∉ current.reverse := by simpa using hcurrent
    have hshown := redParts_paintWord hword (by simpa using hblank) []
    simpa [paintWords, Style.redParts] using hshown
  | cons c text ih =>
    have hc : '\x1b' ≠ c := List.ne_of_not_mem_cons htext
    have hrest : '\x1b' ∉ text := List.not_mem_of_not_mem_cons htext
    rw [paintWords]
    split_ifs with hcb
    · rw [redParts_paintWord (by simpa using hcurrent) (by simpa using hblank),
        Style.redParts_cons hc.symm, ih (by simp) (by simp) hrest,
        Text.words_append_blank _ _ hcb, List.filter_append, List.reverse_nil, List.nil_append]
    · rw [ih (by simp [hc, hcurrent]) (by simpa [hcb] using hblank) hrest, List.reverse_cons,
        List.append_assoc, List.singleton_append]

end Plain

/-- Without the sequences that turn red on and off, a highlighted line is the line. -/
theorem unpaint_highlight {line : String} (h : '\x1b' ∉ line.toList) :
    Style.unpaint (highlight true line).toList = line.toList := by
  unfold highlight
  split_ifs
  · simpa [Style.unpaint] using Style.unpaint_append h []
  · rw [String.toList_ofList]
    exact unpaint_paintWords (by simp) h

/-- The red parts of a highlighted line are its marked slices. -/
theorem redParts_highlight {line : String} (h : '\x1b' ∉ line.toList) :
    (Style.redParts (highlight true line).toList).map some =
      (invalidTerms line).map fun (start, stop) => Text.slice? start stop line.toList := by
  unfold highlight
  split_ifs with hcommand
  · have hplain := Style.redParts_append h []
    rw [List.append_nil] at hplain
    rw [hplain, invalidTerms_of_isCommand hcommand]
    rfl
  · rw [slices_invalidTerms (by simpa using hcommand), String.toList_ofList,
      redParts_paintWords (by simp) (by simp) h]
    rfl

/-- Highlighting keeps the text. The ranges that it marks are those of the words that cannot be
read; they lie in the line, between characters, one behind the other, so that the slices can be
cut. Painting them is all that highlighting does, nothing without colours; and the line and the
marked slices can be found again in what is shown. -/
theorem highlight_keeps_text (line : String) :
    (∀ range, range ∈ invalidTerms line ↔
      isCommand line.toList = false ∧ IsUnreadable line.toList range) ∧
    (∀ range ∈ invalidTerms line, range.1 < range.2 ∧ range.2 ≤ byteLength line.toList ∧
      Text.IsBoundary line.toList range.1 ∧ Text.IsBoundary line.toList range.2) ∧
    ((invalidTerms line).Pairwise fun range later => range.2 < later.1) ∧
    (∀ colors, splice? colors line.toList 0 (invalidTerms line) =
      some (highlight colors line).toList) ∧
    highlight false line = line ∧
    ('\x1b' ∉ line.toList →
      Style.unpaint (highlight true line).toList = line.toList ∧
      (Style.redParts (highlight true line).toList).map some =
        (invalidTerms line).map fun (start, stop) => Text.slice? start stop line.toList) := by
  refine ⟨fun range => mem_invalidTerms_iff, ?_, pairwise_invalidTerms line, ?_,
    highlight_false line, fun h => ⟨unpaint_highlight h, redParts_highlight h⟩⟩
  · intro range hrange
    exact (mem_invalidTerms_iff.mp hrange).2.within
  · intro colors
    exact splice?_invalidTerms colors line

/-- The bytes of a letter and of a blank count in the ranges. -/
theorem highlight_keeps_text_wide :
    '\x1b' ∉ "2d6 jünk\u30001d20-3 d6".toList ∧
    invalidTerms "2d6 jünk\u30001d20-3 d6" = [(4, 9), (19, 21)] ∧
    (9 ≤ byteLength "2d6 jünk\u30001d20-3 d6".toList ∧
      Text.IsBoundary "2d6 jünk\u30001d20-3 d6".toList 9) ∧
    Style.unpaint (highlight true "2d6 jünk\u30001d20-3 d6").toList =
      "2d6 jünk\u30001d20-3 d6".toList ∧
    (Style.redParts (highlight true "2d6 jünk\u30001d20-3 d6").toList).map some =
      [some "jünk".toList, some "d6".toList] := by
  have hescape : '\x1b' ∉ "2d6 jünk\u30001d20-3 d6".toList := by decide
  have hmarks : invalidTerms "2d6 jünk\u30001d20-3 d6" = [(4, 9), (19, 21)] := by cbv
  obtain ⟨-, hwithin, -, -, -, hcolors⟩ := highlight_keeps_text "2d6 jünk\u30001d20-3 d6"
  obtain ⟨-, hlength, -, hboundary⟩ := hwithin (4, 9) (by simp [hmarks])
  obtain ⟨htext, hred⟩ := hcolors hescape
  refine ⟨hescape, hmarks, ⟨hlength, hboundary⟩, htext, ?_⟩
  rw [hred, hmarks]
  cbv

end DiceLauncher.Editor
