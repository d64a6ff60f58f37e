import DiceLauncher.Proofs.Decimal
import DiceLauncher.RollSpec.Term

/-!
# The grammar of dice terms

A dice term is written as a run of digits, `d` or `D`, a run of digits, and nothing
or a sign with a further run of digits. `DiceTerm.Spells` states this for a whole
text, without the scanner.

Results:
* `DiceTerm.scan_append`: how the scanner goes on behind the sides of a term.
* `DiceTerm.scan_eq_ok_iff`: the scanner takes a text apart exactly when the grammar
  does, and into the same parts.
* `DiceTerm.Spells.unique`: the grammar reads a text in at most one way.
-/

namespace DiceLauncher

/-! ## Specification -/

/-- The written form of a modifier: its sign and its digits. -/
def Adjustment.written (adjustment : Adjustment) : List Char :=
  (if adjustment.negative then '-' else '+') :: adjustment.digits

namespace DiceTerm

/-- What stands behind the sides of a term. -/
def writtenTail : Option Adjustment → List Char
  | none => []
  | some adjustment => adjustment.written

/-- The written form of a term. -/
def written (term : DiceTerm) : List Char :=
  term.count ++ term.separator :: (term.sides ++ writtenTail term.adjustment)

/-- The parts of a term are of the kinds that the grammar asks for. -/
structure WellFormed (term : DiceTerm) : Prop where
  count : Decimal.IsRun term.count
  separator : term.separator = 'd' ∨ term.separator = 'D'
  sides : Decimal.IsRun term.sides
  adjustment : ∀ adjustment ∈ term.adjustment, Decimal.IsRun adjustment.digits

/-- A whole text is the written form of a well-formed term. -/
def Spells (term : DiceTerm) (text : String) : Prop :=
  term.WellFormed ∧ text.toList = term.written

/-! ## Runs of digits -/

/-- A run of digits ends where something else follows. -/
theorem span_run {run : List Char} (hrun : Decimal.IsRun run) (rest : List Char)
    (hrest : ∀ c ∈ rest.head?, c.isDigit = false) :
    (run ++ rest).takeWhile Char.isDigit = run ∧ (run ++ rest).dropWhile Char.isDigit = rest := by
  rw [List.takeWhile_append_of_pos hrun.isDigit, List.dropWhile_append_of_pos hrun.isDigit]
  cases rest with
  | nil => simp
  | cons c rest =>
    have hc : c.isDigit = false := hrest c rfl
    simp [hc]

theorem isRun_takeWhile {text : List Char} (h : text.takeWhile Char.isDigit ≠ []) :
    Decimal.IsRun (text.takeWhile Char.isDigit) :=
  ⟨h, List.all_eq_true.mp List.all_takeWhile⟩

theorem isSeparator_iff (c : Char) : isSeparator c ↔ c = 'd' ∨ c = 'D' := by
  simp [isSeparator]

theorem isDigit_separator {c : Char} (hc : c = 'd' ∨ c = 'D') : c.isDigit = false := by
  rcases hc with rfl | rfl <;> decide

/-! ## The scanner and the grammar -/

/-- The tail of a term does not go on with the digits of its sides. -/
theorem head?_writtenTail (adjustment : Option Adjustment) :
    ∀ c ∈ (writtenTail adjustment).head?, c.isDigit = false := by
  cases adjustment with
  | none => simp [writtenTail]
  | some adjustment =>
    intro c hc
    obtain rfl : (if adjustment.negative then '-' else '+') = c := by
      simpa [writtenTail, Adjustment.written] using hc
    split <;> decide

theorem scanAdjustment_writtenTail (matched : Nat) {adjustment : Option Adjustment}
    (h : ∀ a ∈ adjustment, Decimal.IsRun a.digits) :
    scanAdjustment matched (writtenTail adjustment) = .ok adjustment := by
  cases adjustment with
  | none => rfl
  | some adjustment =>
    obtain ⟨negative, digits⟩ := adjustment
    have hrun : Decimal.IsRun digits := h _ rfl
    have htake : digits.takeWhile Char.isDigit = digits := by
      simpa using (span_run hrun [] (by simp)).1
    have hsign : isSign (if negative then '-' else '+') = true := by cases negative <;> decide
    have hminus : ((if negative then '-' else '+') == '-') = negative := by
      cases negative <;> decide
    simp [writtenTail, Adjustment.written, scanAdjustment, htake, hsign, hrun.ne_nil, hminus]

theorem writtenTail_of_scanAdjustment {matched : Nat} {text : List Char}
    {adjustment : Option Adjustment} (h : scanAdjustment matched text = .ok adjustment) :
    (∀ a ∈ adjustment, Decimal.IsRun a.digits) ∧ text = writtenTail adjustment := by
  cases text with
  | nil =>
    obtain rfl : none = adjustment := by simpa [scanAdjustment] using h
    exact ⟨by simp, rfl⟩
  | cons sign rest =>
    simp only [scanAdjustment] at h
    split_ifs at h with hsign hlen
    obtain rfl : some _ = adjustment := Except.ok.inj h
    simp only [Bool.and_eq_true, isSign, Bool.or_eq_true, beq_iff_eq, Bool.not_eq_true',
      List.isEmpty_eq_false_iff] at hsign
    have hrest : rest.takeWhile Char.isDigit = rest :=
      (List.takeWhile_prefix _).eq_of_length hlen.symm
    refine ⟨?_, ?_⟩
    · rintro a ⟨⟩
      exact isRun_takeWhile hsign.2
    · rcases hsign.1 with rfl | rfl <;> simp [writtenTail, Adjustment.written, hrest]

/-- Behind the sides, only the modifier is left to read. -/
theorem scan_append {count sides rest : List Char} {separator : Char}
    (hcount : Decimal.IsRun count) (hseparator : separator = 'd' ∨ separator = 'D')
    (hsides : Decimal.IsRun sides) (hrest : ∀ c ∈ rest.head?, c.isDigit = false) :
    scan (count ++ separator :: (sides ++ rest)) =
      (scanAdjustment (count.length + 1 + sides.length) rest).map fun adjustment =>
        ⟨count, separator, sides, adjustment⟩ := by
  have hspan := span_run hcount (separator :: (sides ++ rest))
    (by simpa using isDigit_separator hseparator)
  have hspan' := span_run hsides rest hrest
  have hsep : isSeparator separator = true := (isSeparator_iff _).mpr hseparator
  simp only [scan, hspan, hspan', hsep]
  cases scanAdjustment (count.length + 1 + sides.length) rest <;>
    simp [hcount.ne_nil, hsides.ne_nil, bind, Except.bind, Except.map]

/-- The scanner finds the parts of a well-formed term in its written form. -/
theorem scan_written {term : DiceTerm} (h : term.WellFormed) : scan term.written = .ok term := by
  rw [written, scan_append h.count h.separator h.sides (head?_writtenTail _),
    scanAdjustment_writtenTail _ h.adjustment]
  rfl

/-- Whatever the scanner takes apart is the written form of a well-formed term. -/
theorem written_of_scan {text : List Char} {term : DiceTerm} (h : scan text = .ok term) :
    term.WellFormed ∧ text = term.written := by
  simp only [scan] at h
  split_ifs at h with hcount
  have hsplit := List.takeWhile_append_dropWhile (p := Char.isDigit) (l := text)
  cases hdrop : text.dropWhile Char.isDigit with
  | nil => simp [hdrop] at h
  | cons separator rest =>
    simp only [hdrop] at h hsplit
    split_ifs at h with hsep hsides
    cases hadj : scanAdjustment ((text.takeWhile Char.isDigit).length + 1 +
        (rest.takeWhile Char.isDigit).length) (rest.dropWhile Char.isDigit) with
    | error fault => simp [hadj, bind, Except.bind] at h
    | ok adjustment =>
      obtain ⟨hwf, htail⟩ := writtenTail_of_scanAdjustment hadj
      simp only [hadj, bind, Except.bind, Except.ok.injEq] at h
      subst h
      simp only [List.isEmpty_iff] at hcount hsides
      have hseparator : separator = 'd' ∨ separator = 'D' := (isSeparator_iff _).mp hsep
      refine ⟨⟨isRun_takeWhile hcount, hseparator, isRun_takeWhile hsides, hwf⟩, ?_⟩
      simp only [written, ← htail]
      rw [List.takeWhile_append_dropWhile, hsplit]

theorem scan_eq_ok_iff {text : List Char} {term : DiceTerm} :
    scan text = .ok term ↔ term.WellFormed ∧ text = term.written :=
  ⟨written_of_scan, fun ⟨hwf, htext⟩ => htext ▸ scan_written hwf⟩

theorem spells_iff {term : DiceTerm} {text : String} :
    term.Spells text ↔ scan text.toList = .ok term :=
  scan_eq_ok_iff.symm

/-- The grammar reads a text in at most one way. -/
theorem Spells.unique {a b : DiceTerm} {text : String} (ha : a.Spells text) (hb : b.Spells text) :
    a = b := by
  rw [spells_iff] at ha hb
  exact Except.ok.inj (ha.symm.trans hb)

end DiceTerm

end DiceLauncher
