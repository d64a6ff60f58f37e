import DiceLauncher.Proofs.RollSpec.RoundTrip

/-!
# The normal form of a dice term

A roll can be typed in several ways: zeros may lead a run of digits, the separator may be a
capital, and a modifier of zero takes either sign. The normal form of a term has no redundant
zeros, a small separator, and `+` in front of zero. It is what a roll that was read is written
as, and so two terms stand for the same roll exactly if they have the same normal form. A
modifier of zero and no modifier are kept apart.

Results:
* `DiceTerm.Denotes.term_eq_normal`: the term that a roll is written as.
* `DiceTerm.normal_eq_self_iff`: the terms that are in normal form.
* `RollSpec.render_of_parse`: writing a roll that was read.
-/

namespace DiceLauncher

/-! ## Specification -/

/-- The normal form of a modifier: no redundant zeros, the typed sign, and `+` for zero. -/
def Adjustment.normal (adjustment : Adjustment) : Adjustment :=
  ⟨adjustment.negative && Decimal.trimZeros adjustment.digits != ['0'],
    Decimal.trimZeros adjustment.digits⟩

namespace DiceTerm

/-- The normal form of a term: no redundant zeros, a small separator, and `+` for zero. -/
def normal (term : DiceTerm) : DiceTerm :=
  ⟨Decimal.trimZeros term.count, 'd', Decimal.trimZeros term.sides,
    term.adjustment.map Adjustment.normal⟩

/-- The text of the normal form of a term. -/
def normalForm (term : DiceTerm) : String := String.ofList term.normal.written

/-- A term is in normal form. -/
structure IsNormal (term : DiceTerm) : Prop where
  count : Decimal.IsNormal term.count
  separator : term.separator = 'd'
  sides : Decimal.IsNormal term.sides
  adjustment : ∀ adjustment ∈ term.adjustment, Decimal.IsNormal adjustment.digits ∧
    (adjustment.digits = ['0'] → adjustment.negative = false)

end DiceTerm

/-! ## Normal forms of terms -/

theorem Adjustment.ofModifier_eq_normal {adjustment : Adjustment} {modifier : Int64}
    (hrun : Decimal.IsRun adjustment.digits) (h : modifier.toInt = adjustment.value) :
    ofModifier modifier = adjustment.normal := by
  have hdigits := Decimal.digits_value hrun
  have hzero : Decimal.trimZeros adjustment.digits = ['0'] ↔ Decimal.value adjustment.digits = 0 := by
    refine ⟨fun htrim => ?_, fun hvalue => by rw [← hdigits, hvalue]; rfl⟩
    rw [← Decimal.value_digits (Decimal.value adjustment.digits), hdigits, htrim]
    rfl
  have habs : modifier.toInt.natAbs = Decimal.value adjustment.digits := by
    rw [h, value]
    split_ifs <;> omega
  have hsign : (decide (modifier.toInt < 0)) =
      (adjustment.negative && Decimal.trimZeros adjustment.digits != ['0']) := by
    rw [h, value, Bool.eq_iff_iff]
    cases adjustment.negative <;> simp [hzero, Nat.pos_iff_ne_zero]
  rw [ofModifier, normal, habs, hdigits, hsign]

theorem Adjustment.normal_eq_self_iff {adjustment : Adjustment}
    (hrun : Decimal.IsRun adjustment.digits) :
    adjustment.normal = adjustment ↔ Decimal.IsNormal adjustment.digits ∧
      (adjustment.digits = ['0'] → adjustment.negative = false) := by
  obtain ⟨negative, digits⟩ := adjustment
  have hdigits := Decimal.trimZeros_eq_self_iff hrun
  simp only [normal, mk.injEq] at hdigits ⊢
  rw [and_comm, ← hdigits]
  refine and_congr_right fun htrim => ?_
  rw [htrim]
  cases negative <;> simp

namespace DiceTerm

variable {term : DiceTerm}

/-- The term that a roll is written as is the normal form of every term that stands for it. -/
theorem Denotes.term_eq_normal {spec : RollSpec} (hwf : term.WellFormed) (h : term.Denotes spec) :
    spec.term = term.normal := by
  have hadjustment : spec.modifier.map Adjustment.ofModifier =
      term.adjustment.map Adjustment.normal := by
    have hvalue := h.modifier
    cases hterm : term.adjustment with
    | none =>
      rw [hterm, Option.map_none, Option.map_eq_none_iff] at hvalue
      rw [hvalue]
      rfl
    | some adjustment =>
      rw [hterm, Option.map_some, Option.map_eq_some_iff] at hvalue
      obtain ⟨modifier, hmodifier, hvalue⟩ := hvalue
      have hrun := hwf.adjustment adjustment hterm
      rw [hmodifier, Option.map_some, Option.map_some,
        Adjustment.ofModifier_eq_normal hrun hvalue]
  rw [RollSpec.term, normal, h.count, h.sides, Decimal.digits_value hwf.count,
    Decimal.digits_value hwf.sides, hadjustment]

/-- The normal form leaves alone exactly the terms that are in normal form. -/
theorem normal_eq_self_iff (hwf : term.WellFormed) : term.normal = term ↔ term.IsNormal := by
  obtain ⟨count, separator, sides, adjustment⟩ := term
  have hcount := Decimal.trimZeros_eq_self_iff hwf.count
  have hsides := Decimal.trimZeros_eq_self_iff hwf.sides
  have hadjustment : adjustment.map Adjustment.normal = adjustment ↔
      ∀ a ∈ adjustment, Decimal.IsNormal a.digits ∧ (a.digits = ['0'] → a.negative = false) := by
    cases adjustment with
    | none => simp
    | some a => simpa using Adjustment.normal_eq_self_iff (hwf.adjustment a rfl)
  simp only [normal, mk.injEq] at hcount hsides ⊢
  rw [hcount, hsides, hadjustment]
  constructor
  · rintro ⟨h1, h2, h3, h4⟩
    exact ⟨h1, h2.symm, h3, h4⟩
  · rintro ⟨h1, h2, h3, h4⟩
    exact ⟨h1, h2.symm, h3, h4⟩

/-- Different terms are written differently. -/
theorem WellFormed.written_inj {a b : DiceTerm} (ha : a.WellFormed) (hb : b.WellFormed) :
    a.written = b.written ↔ a = b := by
  refine ⟨fun h => ?_, fun h => h ▸ rfl⟩
  have hscan := scan_written ha
  rw [h, scan_written hb] at hscan
  exact (Except.ok.inj hscan).symm

end DiceTerm

/-! ## Writing a roll that was read -/

namespace RollSpec

theorem render_injective : Function.Injective render := by
  intro a b h
  have hparse := a.parse_render
  rw [h, b.parse_render] at hparse
  exact (Except.ok.inj hparse).symm

section

variable {text : String} {term : DiceTerm} {spec : RollSpec}

/-- A roll is written as the normal form of the terms that stand for it. -/
theorem render_eq_normalForm (hwf : term.WellFormed) (h : term.Denotes spec) :
    spec.render = term.normalForm := by
  rw [DiceTerm.normalForm, ← h.term_eq_normal hwf, ← spec.toList_render, String.ofList_toList]

theorem render_eq_iff_isNormal (hspells : term.Spells text) (h : term.Denotes spec) :
    spec.render = text ↔ term.IsNormal := by
  have hwf : spec.term.WellFormed := spec.wellFormed_term
  rw [← String.toList_inj, spec.toList_render, hspells.2, hwf.written_inj hspells.1,
    h.term_eq_normal hspells.1, DiceTerm.normal_eq_self_iff hspells.1]

end

/-- A roll that was read is written as the normal form of its term. Read again, that is the same
roll, and it is the text that was read exactly if this was in normal form. Terms that stand for
rolls stand for the same roll exactly if they have the same normal form. -/
theorem render_of_parse {text : String} {spec : RollSpec} (h : parse text = .ok spec) :
    ∃ term : DiceTerm, term.Spells text ∧ spec.render = term.normalForm ∧
      parse spec.render = .ok spec ∧ (spec.render = text ↔ term.IsNormal) ∧
      ∀ (other : String) (otherTerm : DiceTerm) (otherSpec : RollSpec),
        otherTerm.Spells other → parse other = .ok otherSpec →
        (spec = otherSpec ↔ term.normalForm = otherTerm.normalForm) := by
  obtain ⟨term, hspells, hdenotes⟩ := parse_eq_ok_iff.mp h
  have hrender := render_eq_normalForm hspells.1 hdenotes
  refine ⟨term, hspells, hrender, spec.parse_render, render_eq_iff_isNormal hspells hdenotes, ?_⟩
  intro other otherTerm otherSpec hother hparse
  obtain ⟨sameTerm, hsame, hotherDenotes⟩ := parse_eq_ok_iff.mp hparse
  obtain rfl := hother.unique hsame
  rw [← hrender, ← render_eq_normalForm hother.1 hotherDenotes]
  exact render_injective.eq_iff.symm

/-- Zeros lead the count, the separator is a capital, and the modifier is a negative zero. -/
theorem render_of_parse_negative_zero :
    parse "007D020-00" = .ok ⟨7, 20, some 0⟩ ∧ (RollSpec.mk 7 20 (some 0)).render = "7d20+0" ∧
    ∃ term : DiceTerm, term.Spells "007D020-00" ∧ term.normalForm = "7d20+0" ∧ ¬ term.IsNormal := by
  have hparse : parse "007D020-00" = .ok ⟨7, 20, some 0⟩ := by cbv
  have hwritten : (RollSpec.mk 7 20 (some 0)).render = "7d20+0" := by decide +kernel
  obtain ⟨term, hspells, hrender, -, hnormal, -⟩ := render_of_parse hparse
  refine ⟨hparse, hwritten, term, hspells, hrender.symm.trans hwritten, ?_⟩
  rw [← hnormal, hwritten]
  decide

end RollSpec

end DiceLauncher
