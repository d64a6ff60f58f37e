import DiceLauncher.Proofs.RollSpec.Grammar

/-!
# Reading a roll

Reading a text takes it apart by the grammar and then turns the runs of digits into
64-bit numbers: the count, the sides, the modifier, in this order. `DiceTerm.InRange`
states which terms have numbers that fit, and `DiceTerm.Denotes` which roll a term
stands for.

Results:
* `DiceTerm.spec_eq_ok_iff`, `DiceTerm.spec_eq_tooSmall_iff`,
  `DiceTerm.spec_eq_tooLarge_iff`: when the numbers of a term make a roll, and which
  overflow is reported otherwise.
* `RollSpec.parse_characterized`: what reading a text gives, for every text.
-/

namespace DiceLauncher

/-! ## Specification -/

namespace DiceTerm

/-- The count and the sides fit unsigned 64-bit words. -/
def DiceFit (term : DiceTerm) : Prop :=
  Decimal.value term.count < 2 ^ 64 ∧ Decimal.value term.sides < 2 ^ 64

/-- Every number of the term fits its range: unsigned 64-bit for the count and the sides,
signed 64-bit for the modifier. -/
def InRange (term : DiceTerm) : Prop :=
  term.DiceFit ∧ ∀ adjustment ∈ term.adjustment,
    -2 ^ 63 ≤ adjustment.value ∧ adjustment.value ≤ 2 ^ 63 - 1

/-- The count and the sides fit, and the modifier is below the least signed 64-bit number. -/
def TooSmall (term : DiceTerm) : Prop :=
  term.DiceFit ∧ ∃ adjustment ∈ term.adjustment, adjustment.value < -2 ^ 63

/-- The numbers of a roll are those of the term. -/
structure Denotes (term : DiceTerm) (spec : RollSpec) : Prop where
  count : spec.count.toNat = Decimal.value term.count
  sides : spec.sides.toNat = Decimal.value term.sides
  modifier : spec.modifier.map Int64.toInt = term.adjustment.map Adjustment.value

end DiceTerm

/-! ## Numbers -/

theorem Adjustment.toModifier_eq_ok_iff {adjustment : Adjustment} {modifier : Int64} :
    adjustment.toModifier = .ok modifier ↔ modifier.toInt = adjustment.value := by
  have hle := Int64.le_toInt modifier
  have hlt := Int64.toInt_lt modifier
  rw [toModifier, Int64.toInt_maxValue, Int64.toInt_minValue]
  split_ifs with hlarge hsmall
  · simp only [false_iff]; omega
  · simp only [false_iff]; omega
  · have hvalue : (Int64.ofInt adjustment.value).toInt = adjustment.value :=
      Int64.toInt_ofInt_of_le (by omega) (by omega)
    rw [Except.ok.injEq, ← Int64.toInt_inj, hvalue, eq_comm]

theorem Adjustment.toModifier_eq_tooSmall_iff {adjustment : Adjustment} :
    adjustment.toModifier = .error .tooSmall ↔ adjustment.value < -2 ^ 63 := by
  rw [toModifier, Int64.toInt_maxValue, Int64.toInt_minValue]
  split_ifs with hlarge hsmall
  · simp only [Except.error.injEq, reduceCtorEq, false_iff]; omega
  · simpa using hsmall
  · simpa using hsmall

namespace DiceTerm

theorem toWord_of_lt {run : List Char} (h : Decimal.value run < 2 ^ 64) :
    toWord run = .ok (UInt64.ofNat (Decimal.value run)) := by
  rw [toWord, Decimal.word?_eq, if_pos h]

theorem toWord_of_le {run : List Char} (h : 2 ^ 64 ≤ Decimal.value run) :
    toWord run = .error .tooLarge := by
  rw [toWord, Decimal.word?_eq, if_neg (by omega)]

theorem DiceFit.spec_of_none {term : DiceTerm} (h : term.DiceFit) (hadj : term.adjustment = none) :
    term.spec = .ok ⟨UInt64.ofNat (Decimal.value term.count),
      UInt64.ofNat (Decimal.value term.sides), none⟩ := by
  unfold spec
  rw [toWord_of_lt h.1, toWord_of_lt h.2, hadj]
  rfl

theorem DiceFit.spec_of_some {term : DiceTerm} (h : term.DiceFit) {adjustment : Adjustment}
    (hadj : term.adjustment = some adjustment) :
    term.spec = adjustment.toModifier.map fun modifier =>
      ⟨UInt64.ofNat (Decimal.value term.count), UInt64.ofNat (Decimal.value term.sides),
        some modifier⟩ := by
  unfold spec
  rw [toWord_of_lt h.1, toWord_of_lt h.2, hadj]
  cases hmod : adjustment.toModifier <;> simp [hmod, bind, Except.bind, Except.map]

/-- A count that does not fit counts before the sides, and either before the modifier. -/
theorem spec_of_not_diceFit {term : DiceTerm} (h : ¬ term.DiceFit) :
    term.spec = .error .tooLarge := by
  unfold spec
  by_cases hcount : Decimal.value term.count < 2 ^ 64
  · have hsides : 2 ^ 64 ≤ Decimal.value term.sides := by
      by_contra hlt
      exact h ⟨hcount, by omega⟩
    rw [toWord_of_lt hcount, toWord_of_le hsides]
    rfl
  · rw [toWord_of_le (by omega)]
    rfl

theorem Denotes.diceFit {term : DiceTerm} {spec : RollSpec} (h : term.Denotes spec) :
    term.DiceFit :=
  ⟨h.count ▸ spec.count.toNat_lt, h.sides ▸ spec.sides.toNat_lt⟩

/-- The numbers of a term make a roll exactly when it has the same numbers. -/
theorem spec_eq_ok_iff {term : DiceTerm} {spec : RollSpec} :
    term.spec = .ok spec ↔ term.Denotes spec := by
  by_cases hfit : term.DiceFit
  · have hcount := Decimal.toNat_word hfit.1
    have hsides := Decimal.toNat_word hfit.2
    obtain ⟨count, sides, modifier⟩ := spec
    cases hadj : term.adjustment with
    | none =>
      rw [hfit.spec_of_none hadj]
      constructor
      · rintro ⟨⟩
        exact ⟨hcount, hsides, by simp [hadj]⟩
      · rintro ⟨h1, h2, h3⟩
        obtain rfl : modifier = none := by simpa [hadj] using h3
        simp only [Except.ok.injEq, RollSpec.mk.injEq, ← UInt64.toNat_inj, hcount, hsides]
        exact ⟨h1.symm, h2.symm, trivial⟩
    | some adjustment =>
      rw [hfit.spec_of_some hadj]
      constructor
      · intro h
        cases hvalue : adjustment.toModifier with
        | error overflow => simp [hvalue, Except.map] at h
        | ok value =>
          rw [hvalue] at h
          cases h
          exact ⟨hcount, hsides, by simp [hadj, Adjustment.toModifier_eq_ok_iff.mp hvalue]⟩
      · rintro ⟨h1, h2, h3⟩
        obtain ⟨value, rfl, hvalue⟩ : ∃ value, modifier = some value ∧
            value.toInt = adjustment.value := by simpa [hadj] using h3
        simp only [Adjustment.toModifier_eq_ok_iff.mpr hvalue, Except.map, Except.ok.injEq,
          RollSpec.mk.injEq, ← UInt64.toNat_inj, hcount, hsides]
        exact ⟨h1.symm, h2.symm, trivial⟩
  · rw [spec_of_not_diceFit hfit]
    simp only [reduceCtorEq, false_iff]
    exact fun h => hfit h.diceFit

/-- A term stands for a roll exactly when all its numbers fit. -/
theorem exists_denotes_iff {term : DiceTerm} : (∃ spec, term.Denotes spec) ↔ term.InRange := by
  constructor
  · rintro ⟨spec, h⟩
    refine ⟨h.diceFit, fun adjustment hadj => ?_⟩
    obtain ⟨value, -, hvalue⟩ : ∃ value, spec.modifier = some value ∧
        value.toInt = adjustment.value := by
      have := h.modifier
      rw [Option.mem_def.mp hadj] at this
      simpa using this
    have hle := Int64.le_toInt value
    have hlt := Int64.toInt_lt value
    omega
  · rintro ⟨hfit, hmod⟩
    refine ⟨⟨UInt64.ofNat (Decimal.value term.count), UInt64.ofNat (Decimal.value term.sides),
      term.adjustment.map fun adjustment => Int64.ofInt adjustment.value⟩,
      Decimal.toNat_word hfit.1, Decimal.toNat_word hfit.2, ?_⟩
    cases hadj : term.adjustment with
    | none => rfl
    | some adjustment =>
      obtain ⟨hle, hlt⟩ := hmod adjustment hadj
      simp [Int64.toInt_ofInt_of_le hle (by omega : adjustment.value < 2 ^ 63)]

theorem spec_eq_tooSmall_iff {term : DiceTerm} :
    term.spec = .error .tooSmall ↔ term.TooSmall := by
  by_cases hfit : term.DiceFit
  · cases hadj : term.adjustment with
    | none => simp [hfit.spec_of_none hadj, TooSmall, hadj]
    | some adjustment =>
      have hmod := adjustment.toModifier_eq_tooSmall_iff
      rw [hfit.spec_of_some hadj]
      cases hvalue : adjustment.toModifier <;>
        simpa [TooSmall, hadj, hfit, hvalue, Except.map] using hmod
  · rw [spec_of_not_diceFit hfit]
    simp only [Except.error.injEq, reduceCtorEq, false_iff]
    exact fun h => hfit h.1

/-- Every other number out of range counts as too large. -/
theorem spec_eq_tooLarge_iff {term : DiceTerm} :
    term.spec = .error .tooLarge ↔ ¬ term.InRange ∧ ¬ term.TooSmall := by
  rw [← exists_denotes_iff, ← spec_eq_tooSmall_iff]
  simp only [← spec_eq_ok_iff]
  cases term.spec with
  | ok spec => simp
  | error overflow => cases overflow <;> simp

end DiceTerm

/-! ## Texts -/

namespace RollSpec

theorem parse_of_spells {text : String} {term : DiceTerm} (h : term.Spells text) :
    parse text = term.spec.mapError .outOfRange := by
  rw [DiceTerm.spells_iff] at h
  simp only [parse, h]
  cases term.spec <;> rfl

theorem parse_of_not_spells {text : String} (h : ¬ ∃ term : DiceTerm, term.Spells text) :
    ∃ fault, parse text = .error (.malformed text fault) := by
  cases hscan : DiceTerm.scan text.toList with
  | ok term => exact absurd ⟨term, DiceTerm.spells_iff.mpr hscan⟩ h
  | error fault => exact ⟨fault, by simp only [parse, hscan]⟩

theorem parse_eq_ok_iff {text : String} {spec : RollSpec} :
    parse text = .ok spec ↔ ∃ term : DiceTerm, term.Spells text ∧ term.Denotes spec := by
  by_cases h : ∃ term : DiceTerm, term.Spells text
  · obtain ⟨term, hterm⟩ := h
    have hspec : parse text = .ok spec ↔ term.spec = .ok spec := by
      rw [parse_of_spells hterm]
      cases term.spec <;> simp [Except.mapError]
    rw [hspec, DiceTerm.spec_eq_ok_iff]
    refine ⟨fun hd => ⟨term, hterm, hd⟩, ?_⟩
    rintro ⟨other, hother, hd⟩
    exact hterm.unique hother ▸ hd
  · obtain ⟨fault, hfault⟩ := parse_of_not_spells h
    simp only [hfault, reduceCtorEq, false_iff]
    exact fun ⟨term, hterm, _⟩ => h ⟨term, hterm⟩

theorem parse_malformed_iff {text : String} :
    (∃ fault, parse text = .error (.malformed text fault)) ↔
      ¬ ∃ term : DiceTerm, term.Spells text := by
  refine ⟨?_, parse_of_not_spells⟩
  rintro ⟨fault, hfault⟩ ⟨term, hterm⟩
  rw [parse_of_spells hterm] at hfault
  cases hspec : term.spec <;> simp [hspec, Except.mapError] at hfault

theorem parse_outOfRange_iff {text : String} {overflow : Overflow} :
    parse text = .error (.outOfRange overflow) ↔
      ∃ term : DiceTerm, term.Spells text ∧ term.spec = .error overflow := by
  by_cases h : ∃ term : DiceTerm, term.Spells text
  · obtain ⟨term, hterm⟩ := h
    have hspec : parse text = .error (.outOfRange overflow) ↔ term.spec = .error overflow := by
      rw [parse_of_spells hterm]
      cases term.spec <;> simp [Except.mapError]
    rw [hspec]
    refine ⟨fun hd => ⟨term, hterm, hd⟩, ?_⟩
    rintro ⟨other, hother, hd⟩
    exact hterm.unique hother ▸ hd
  · obtain ⟨fault, hfault⟩ := parse_of_not_spells h
    simp only [hfault, Except.error.injEq, reduceCtorEq, false_iff]
    exact fun ⟨term, hterm, _⟩ => h ⟨term, hterm⟩

/-- What reading a text gives: a roll if the text is written as one whose numbers fit; else, if
it is written as a roll, which end of its range a number lies beyond, and how that reads; else
where it is malformed. -/
theorem parse_characterized (text : String) :
    ((∃ spec, parse text = .ok spec) ↔ ∃ term : DiceTerm, term.Spells text ∧ term.InRange) ∧
    (∀ spec, ∀ term : DiceTerm, parse text = .ok spec → term.Spells text → term.Denotes spec) ∧
    (∀ a b : DiceTerm, a.Spells text → b.Spells text → a = b) ∧
    ((∃ fault, parse text = .error (.malformed text fault)) ↔
      ¬ ∃ term : DiceTerm, term.Spells text) ∧
    (parse text = .error (.outOfRange .tooSmall) ↔
      ∃ term : DiceTerm, term.Spells text ∧ term.TooSmall) ∧
    (parse text = .error (.outOfRange .tooLarge) ↔
      ∃ term : DiceTerm, term.Spells text ∧ ¬ term.InRange ∧ ¬ term.TooSmall) ∧
    (TermError.outOfRange .tooSmall).message =
      "number out of range: number too small to fit in target type" ∧
    (TermError.outOfRange .tooLarge).message =
      "number out of range: number too large to fit in target type" := by
  refine ⟨?_, ?_, fun _ _ ha hb => ha.unique hb, parse_malformed_iff, ?_, ?_, rfl, rfl⟩
  · simp only [parse_eq_ok_iff, ← DiceTerm.exists_denotes_iff]
    constructor
    · rintro ⟨spec, term, hterm, hd⟩
      exact ⟨term, hterm, spec, hd⟩
    · rintro ⟨term, hterm, spec, hd⟩
      exact ⟨spec, term, hterm, hd⟩
  · intro spec term hparse hterm
    obtain ⟨other, hother, hd⟩ := parse_eq_ok_iff.mp hparse
    exact hterm.unique hother ▸ hd
  · simp only [parse_outOfRange_iff, DiceTerm.spec_eq_tooSmall_iff]
  · simp only [parse_outOfRange_iff, DiceTerm.spec_eq_tooLarge_iff]

example : parse "007D20-9223372036854775808" = .ok ⟨7, 20, some Int64.minValue⟩ := by cbv

end RollSpec

end DiceLauncher
