import DiceLauncher.Proofs.RollSpec.Fault

/-!
# Messages about malformed terms

The message about a text that is no dice term draws a line of the text with a caret under it.
The line is the first one of the text; breaks are left out of it, or drawn as pictures if the
text goes wrong at one of them. So the message has its six lines for every text, and up to the
caret the line is the text. `Points` states what the drawing shows, without its rules.

Results:
* `exists_shownLine_append`: the line that is shown, up to the fault and at it.
* `splitOn_render`: the lines of the message.
* `RollSpec.parse_points_at_fault`: the message points at the column at which the text goes wrong
  and names what is missing there.
-/

namespace DiceLauncher

namespace Malformed

/-! ## Specification -/

/-- A message of six lines points at a column of a text. It shows a line and has the caret under
that column of it. Up to there the line is the text; at the column it has the character of the
text, a line break as its picture, and it ends if the text does. -/
structure Points (text : List Char) (column : Nat) (expected : String)
    (shown : List Char) (message : String) : Prop where
  lines : message.toList.splitOn '\n' = [
    " --> 1:".toList ++ Decimal.digits column,
    "  |".toList,
    "1 | ".toList ++ shown,
    "  | ".toList ++ (List.replicate (column - 1) ' ' ++ "^---".toList),
    "  |".toList,
    "  = expected ".toList ++ expected.toList]
  oneLine : ∀ c ∈ shown, isBreak c = false
  within : column - 1 ≤ text.length
  before : shown.take (column - 1) = text.take (column - 1)
  under : shown[column - 1]? = text[column - 1]?.map picture

/-! ## The line that is shown -/

theorem picture_of_not_isBreak {c : Char} (h : isBreak c = false) : picture c = c := by
  simp only [isBreak, Bool.or_eq_false_iff] at h
  simp [picture, h]

theorem not_isBreak_picture (c : Char) : isBreak (picture c) = false := by
  unfold picture
  split_ifs with hreturn hfeed
  · decide
  · decide
  · simp [isBreak, hreturn, hfeed]

/-- A line that is shown has no line breaks in it. -/
theorem not_isBreak_of_mem_shownLine {text : List Char} {matched : Nat} :
    ∀ c ∈ shownLine text matched, isBreak c = false := by
  have hleft : ∀ c ∈ (firstLine text).filter (fun c => !isBreak c), isBreak c = false := by
    intro c hc
    simpa using List.of_mem_filter hc
  have hdrawn : ∀ c ∈ (firstLine text).map picture, isBreak c = false := by
    intro c hc
    obtain ⟨d, -, rfl⟩ := List.mem_map.mp hc
    exact not_isBreak_picture d
  rw [shownLine]
  split
  · split_ifs
    · exact hdrawn
    · exact hleft
  · exact hleft

theorem head?_firstLine (text : List Char) : (firstLine text).head? = text.head? := by
  cases text with
  | nil => rfl
  | cons c text =>
    by_cases hc : c = '\n' <;> simp [firstLine, hc]

/-- The first line goes on behind characters that are no line breaks. -/
theorem firstLine_append {before : List Char} (h : ∀ c ∈ before, isBreak c = false)
    (rest : List Char) : firstLine (before ++ rest) = before ++ firstLine rest := by
  have hfeed : ∀ c ∈ before, (c != '\n') = true := by
    intro c hc
    have hbreak := h c hc
    simp only [isBreak, Bool.or_eq_false_iff] at hbreak
    simp [bne, hbreak.1]
  rw [firstLine, List.takeWhile_append_of_pos hfeed, List.dropWhile_append_of_pos hfeed,
    List.append_assoc, firstLine]

/-- The line that is shown begins with the text up to the fault, if that has no line breaks, and
goes on with what stands at the fault. -/
theorem exists_shownLine_append {before : List Char} (h : ∀ c ∈ before, isBreak c = false)
    (rest : List Char) :
    ∃ tail, shownLine (before ++ rest) before.length = before ++ tail ∧
      tail.head? = rest.head?.map picture := by
  have hat : (before ++ rest)[before.length]? = rest.head? := by
    rw [List.getElem?_append_right (Nat.le_refl _), Nat.sub_self, List.head?_eq_getElem?]
  have hfilter : before.filter (fun c => !isBreak c) = before :=
    List.filter_eq_self.mpr fun c hc => by simp [h c hc]
  have hmap : before.map picture = before := by
    rw [List.map_congr_left fun c hc => picture_of_not_isBreak (h c hc), List.map_id']
  rw [shownLine, hat, firstLine_append h]
  cases rest with
  | nil => exact ⟨[], by simp [firstLine, hfilter], rfl⟩
  | cons c rest =>
    obtain ⟨line, hline⟩ := List.head?_eq_some_iff.mp (head?_firstLine (c :: rest))
    rw [hline, List.head?_cons]
    -- the line is drawn with pictures only if a break stands at the fault itself
    by_cases hc : isBreak c = true
    · exact ⟨(c :: line).map picture, by simp [hc, hmap], rfl⟩
    · refine ⟨(c :: line).filter fun c => !isBreak c, by simp [hc, hfilter], ?_⟩
      have hc : isBreak c = false := by simpa using hc
      simp [hc, picture_of_not_isBreak hc]

/-! ## The lines of the message -/

theorem splitOn_render (text : List Char) (fault : Malformed) :
    (render text fault).toList.splitOn '\n' = [
      " --> 1:".toList ++ Decimal.digits (fault.matched + 1),
      "  |".toList,
      "1 | ".toList ++ shownLine text fault.matched,
      "  | ".toList ++ (List.replicate fault.matched ' ' ++ "^---".toList),
      "  |".toList,
      "  = expected ".toList ++ fault.expected.name.toList] := by
  have hfeed : "\n".toList = ['\n'] := rfl
  have hdigits : '\n' ∉ Decimal.digits (fault.matched + 1) := fun hmem =>
    absurd ((Decimal.isRun_digits _).isDigit _ hmem) (by decide)
  have hshown : '\n' ∉ shownLine text fault.matched := fun hmem =>
    absurd (not_isBreak_of_mem_shownLine _ hmem) (by decide)
  have hname : '\n' ∉ fault.expected.name.toList := by cases fault.expected <;> decide
  rw [render, String.toList_intercalate, hfeed, List.splitOn_intercalate]
  · simp [Decimal.render]
  · simp [Decimal.render, hdigits, hshown, hname]
  · simp

/-- The message points at a fault that is met behind characters that are no line breaks. -/
theorem points_render {before : List Char} (h : ∀ c ∈ before, isBreak c = false)
    (rest : List Char) (expected : Expected) :
    Points (before ++ rest) (before.length + 1) expected.name
      (shownLine (before ++ rest) before.length)
      (render (before ++ rest) ⟨before.length, expected⟩) := by
  obtain ⟨tail, hshown, htail⟩ := exists_shownLine_append h rest
  refine ⟨splitOn_render _ _, not_isBreak_of_mem_shownLine, ?_, ?_, ?_⟩
  · simp
  · simp [hshown]
  · rw [hshown, Nat.add_sub_cancel, List.getElem?_append_right (Nat.le_refl _),
      List.getElem?_append_right (Nat.le_refl _), Nat.sub_self, ← List.head?_eq_getElem?,
      ← List.head?_eq_getElem?, htail]

end Malformed

namespace RollSpec

/-- A text is malformed exactly if it goes wrong in one of the five ways, and it does so in one of
them only. Then the message is drawn with the caret in the column at which the text goes wrong,
and it names what is missing there. -/
theorem parse_points_at_fault (text : String) :
    ((¬ ∃ term : DiceTerm, term.Spells text) ↔
      ∃ column expected, DiceTerm.FailsAt text.toList column expected) ∧
    (∀ column column' expected expected', DiceTerm.FailsAt text.toList column expected →
      DiceTerm.FailsAt text.toList column' expected' → column = column' ∧ expected = expected') ∧
    ∀ column expected, DiceTerm.FailsAt text.toList column expected →
      ∃ fault shown, parse text = .error (.malformed text fault) ∧
        Malformed.Points text.toList column expected shown
          (TermError.malformed text fault).message := by
  refine ⟨DiceTerm.exists_failsAt_iff.symm, fun _ _ _ _ h h' => h.unique h', ?_⟩
  intro column expected h
  obtain ⟨fault, hscan, hcolumn, rfl⟩ := h.exists_scan_eq
  obtain ⟨before, rest, htext, hlength, hbefore⟩ := h.exists_before
  -- the scanner and the text before the fault tell the same column
  have hmatched : fault.matched = before.length := by omega
  obtain ⟨matched, expected⟩ := fault
  obtain rfl : matched = before.length := hmatched
  have hparse : parse text = .error (.malformed text ⟨before.length, expected⟩) := by
    simp only [parse, hscan]
  refine ⟨_, Malformed.shownLine (before ++ rest) before.length, hparse, ?_⟩
  have hmessage : (TermError.malformed text ⟨before.length, expected⟩).message =
      Malformed.render (before ++ rest) ⟨before.length, expected⟩ := by rw [← htext]; rfl
  rw [hmessage, htext, hlength]
  exact Malformed.points_render hbefore rest expected

/-- The text goes wrong at a carriage return, and a line feed follows it. -/
theorem parse_points_at_carriage_return :
    DiceTerm.FailsAt "12D6+3\r\n4".toList 7 "EOI" ∧
    ∃ fault shown, parse "12D6+3\r\n4" = .error (.malformed "12D6+3\r\n4" fault) ∧
      Malformed.Points "12D6+3\r\n4".toList 7 "EOI" shown
        (TermError.malformed "12D6+3\r\n4" fault).message := by
  have hfails : DiceTerm.FailsAt "12D6+3\r\n4".toList 7 "EOI" := by
    have htext : "12D6+3\r\n4".toList = ['1', '2'] ++ 'D' :: (['6'] ++ '+' :: (['3'] ++
        ['\r', '\n', '4'])) := by decide
    have hcount : Decimal.IsRun ['1', '2'] := ⟨by decide, by simp⟩
    have hsides : Decimal.IsRun ['6'] := ⟨by decide, by simp⟩
    have hdigits : Decimal.IsRun ['3'] := ⟨by decide, by simp⟩
    rw [htext]
    exact .endOfTerm hcount (.inr rfl) hsides (.inl rfl) hdigits (by simp [DiceTerm.EndsRun])
      (by decide)
  obtain ⟨-, -, hpoints⟩ := parse_points_at_fault "12D6+3\r\n4"
  exact ⟨hfails, hpoints 7 "EOI" hfails⟩

example : (TermError.malformed "12D6+3\r\n4" ⟨6, .endOfTerm⟩).message =
    " --> 1:7\n  |\n1 | 12D6+3\u240d\u240a\n  |       ^---\n  |\n  = expected EOI" := by
  decide +kernel

end RollSpec

end DiceLauncher
