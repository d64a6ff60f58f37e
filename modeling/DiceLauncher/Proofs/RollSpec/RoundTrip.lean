import DiceLauncher.Proofs.RollSpec.Reading
import DiceLauncher.Proofs.Text.Words

/-!
# The written form of a roll is read back

`RollSpec.term` is the term that the written form of a roll spells: its numbers
without leading zeros, a small `d`, and the sign of its modifier.

Results:
* `parse_render`: reading the written form of a roll gives the roll.
* `isWord_render`: the written form of a roll has no blanks.
-/

namespace DiceLauncher

/-- A modifier with its sign; zero takes `+`. -/
def Adjustment.ofModifier (modifier : Int64) : Adjustment :=
  ⟨modifier.toInt < 0, Decimal.digits modifier.toInt.natAbs⟩

theorem Adjustment.value_ofModifier (modifier : Int64) :
    (ofModifier modifier).value = modifier.toInt := by
  simp only [ofModifier, value, Decimal.value_digits, decide_eq_true_eq]
  split_ifs <;> omega

theorem Adjustment.written_ofModifier (modifier : Int64) :
    (ofModifier modifier).written = (Decimal.renderSigned modifier.toInt).toList := by
  simp only [written, ofModifier, Decimal.renderSigned, Decimal.render, decide_eq_true_eq]
  split_ifs <;> simp

namespace RollSpec

/-- The term that the written form of a roll spells. -/
def term (spec : RollSpec) : DiceTerm :=
  ⟨Decimal.digits spec.count.toNat, 'd', Decimal.digits spec.sides.toNat,
    spec.modifier.map Adjustment.ofModifier⟩

theorem wellFormed_term (spec : RollSpec) : spec.term.WellFormed where
  count := Decimal.isRun_digits _
  separator := .inl rfl
  sides := Decimal.isRun_digits _
  adjustment := by
    intro adjustment hadj
    obtain ⟨modifier, -, rfl⟩ := Option.map_eq_some_iff.mp hadj
    exact Decimal.isRun_digits _

theorem toList_render (spec : RollSpec) : spec.render.toList = spec.term.written := by
  cases hmod : spec.modifier with
  | none =>
    simp [render, renderDice, Decimal.renderWord, Decimal.render, term, DiceTerm.written,
      DiceTerm.writtenTail, hmod]
  | some modifier =>
    simp [render, renderDice, Decimal.renderWord, Decimal.render, term, DiceTerm.written,
      DiceTerm.writtenTail, hmod, Adjustment.written_ofModifier]

theorem term_spells (spec : RollSpec) : spec.term.Spells spec.render :=
  ⟨spec.wellFormed_term, spec.toList_render⟩

theorem term_denotes (spec : RollSpec) : spec.term.Denotes spec where
  count := (Decimal.value_digits _).symm
  sides := (Decimal.value_digits _).symm
  modifier := by
    have hvalue : Adjustment.value ∘ Adjustment.ofModifier = Int64.toInt :=
      funext Adjustment.value_ofModifier
    rw [term, Option.map_map, hvalue]

/-- Reading the written form of a roll gives the roll. -/
theorem parse_render (spec : RollSpec) : parse spec.render = .ok spec :=
  parse_eq_ok_iff.mpr ⟨spec.term, spec.term_spells, spec.term_denotes⟩

end RollSpec

/-! ## No blanks -/

theorem Text.not_isBlank_of_isDigit {c : Char} (h : c.isDigit) : isBlank c = false := by
  have hrange := Decimal.toNat_of_isDigit h
  simp only [isBlank, Bool.or_eq_false_iff, Bool.and_eq_false_iff, decide_eq_false_iff_not,
    beq_eq_false_iff_ne]
  omega

namespace DiceTerm

/-- Terms are made of digits, separators and signs. -/
theorem WellFormed.mem_written {term : DiceTerm} (h : term.WellFormed) {c : Char}
    (hc : c ∈ term.written) : c.isDigit ∨ c ∈ ['d', 'D', '+', '-'] := by
  simp only [written, List.mem_append, List.mem_cons] at hc
  rcases hc with hcount | rfl | hsides | htail
  · exact .inl (h.count.isDigit c hcount)
  · rcases h.separator with hsep | hsep <;> simp [hsep]
  · exact .inl (h.sides.isDigit c hsides)
  · cases hadj : term.adjustment with
    | none => simp [hadj, writtenTail] at htail
    | some adjustment =>
      simp only [hadj, writtenTail, Adjustment.written, List.mem_cons] at htail
      rcases htail with rfl | hdigits
      · right; split_ifs <;> simp
      · exact .inl ((h.adjustment adjustment hadj).isDigit c hdigits)

theorem WellFormed.isWord {term : DiceTerm} (h : term.WellFormed) : Text.IsWord term.written where
  ne_nil := by simp [written]
  not_blank := by
    intro c hc
    rcases h.mem_written hc with hdigit | hother
    · exact Text.not_isBlank_of_isDigit hdigit
    · simp only [List.mem_cons, List.not_mem_nil, or_false] at hother
      rcases hother with rfl | rfl | rfl | rfl <;> decide

end DiceTerm

theorem RollSpec.isWord_render (spec : RollSpec) : Text.IsWord spec.render.toList :=
  spec.toList_render ▸ spec.wellFormed_term.isWord

end DiceLauncher
