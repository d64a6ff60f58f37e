import DiceLauncher.Proofs.Outcome.Subtotal

/-!
# Faces that are added to a subtotal

Saturated addition is not associative in general. But no face is negative, so a subtotal leaves
the range at its upper end only and then stays there. So the order of the faces does not matter,
more faces or greater ones never bring the subtotal down, and a subtotal can be continued: it
takes the place of the modifier for the faces that follow.

Results:
* `cappedSum_le_of_sublistForall₂`: more faces and greater ones.
* `subtotal_ofRolls_perm`, `subtotal_ofRolls_mono`, `subtotal_ofRolls_append`: the three laws.
* `subtotal_ofRolls_laws`: all of them, for faces put in or replaced anywhere.
-/

namespace DiceLauncher

open Saturation

/-! ## Capped faces -/

theorem cappedSum_perm {faces others : List UInt64} (h : faces.Perm others) :
    cappedSum faces = cappedSum others := by
  unfold cappedSum
  exact (h.map _).sum_eq

/-- Faces add up to no more than others among which each of them, in order, has one that is no
less. -/
theorem cappedSum_le_of_sublistForall₂ {faces others : List UInt64}
    (h : List.SublistForall₂ (· ≤ ·) faces others) : cappedSum faces ≤ cappedSum others := by
  induction h with
  | nil => exact Nat.zero_le _
  | cons hface _ ih =>
    have hle := UInt64.le_iff_toNat_le.mp hface
    rw [cappedSum_cons, cappedSum_cons]
    omega
  | cons_right _ ih =>
    rw [cappedSum_cons]
    omega

theorem cappedSum_insert (before after : List UInt64) (face : UInt64) :
    cappedSum (before ++ face :: after) =
      min face.toNat (2 ^ 63 - 1) + cappedSum (before ++ after) := by
  rw [cappedSum_perm List.perm_middle, cappedSum_cons]

namespace Outcome

variable (spec : RollSpec)

/-! ## Subtotals -/

/-- The order of the faces does not matter. -/
theorem subtotal_ofRolls_perm {rolls others : List UInt64} (h : rolls.Perm others) :
    (ofRolls spec rolls).subtotal = (ofRolls spec others).subtotal := by
  rw [← Int64.toInt_inj, toInt_subtotal_ofRolls, toInt_subtotal_ofRolls]
  unfold RollSpec.cappedSubtotal
  rw [cappedSum_perm h]

/-- More faces and greater ones do not bring the subtotal down. -/
theorem subtotal_ofRolls_mono {rolls others : List UInt64}
    (h : List.SublistForall₂ (· ≤ ·) rolls others) :
    (ofRolls spec rolls).subtotal ≤ (ofRolls spec others).subtotal := by
  have hle := cappedSum_le_of_sublistForall₂ h
  rw [Int64.le_iff_toInt_le, toInt_subtotal_ofRolls, toInt_subtotal_ofRolls]
  unfold RollSpec.cappedSubtotal
  omega

/-- The subtotal of some faces is where the faces behind them go on. -/
theorem subtotal_ofRolls_append (rolls more : List UInt64) :
    (ofRolls spec (rolls ++ more)).subtotal =
      (ofRolls { spec with modifier := some (ofRolls spec rolls).subtotal } more).subtotal := by
  unfold subtotal
  exact List.foldl_append

theorem offset_le_subtotal_ofRolls (rolls : List UInt64) :
    spec.offset ≤ (ofRolls spec rolls).subtotal := by
  have hnil : (ofRolls spec []).subtotal = spec.offset := rfl
  rw [← hnil]
  exact subtotal_ofRolls_mono spec .nil

/-- A face that is put in brings the subtotal up, unless it is zero or the subtotal is at the end
of the range already. -/
theorem subtotal_ofRolls_insert_lt (before after : List UInt64) {face : UInt64} (hface : face ≠ 0)
    (hrange : (ofRolls spec (before ++ after)).subtotal ≠ Int64.maxValue) :
    (ofRolls spec (before ++ after)).subtotal <
      (ofRolls spec (before ++ face :: after)).subtotal := by
  have hpos : 0 < face.toNat := by
    rw [Nat.pos_iff_ne_zero]
    intro hzero
    exact hface (UInt64.toNat_inj.mp hzero)
  have hmax : Int64.maxValue.toInt = greatest := rfl
  rw [ne_eq, ← Int64.toInt_inj, hmax] at hrange
  rw [Int64.lt_iff_toInt_lt]
  rw [toInt_subtotal_ofRolls] at hrange ⊢
  rw [toInt_subtotal_ofRolls]
  unfold RollSpec.cappedSubtotal greatest at *
  rw [cappedSum_insert]
  omega

/-- **How faces add to a subtotal.** The subtotal does not depend on the order of the faces, it is
never below the modifier, and it can be computed in two parts, with the subtotal of the first part
as the modifier of the second. It never falls when a face is put in anywhere or replaced by a
greater one. It rises when a face other than zero is put in, unless it is at the end of the range
already. -/
theorem subtotal_ofRolls_laws :
    (∀ rolls others : List UInt64, rolls.Perm others →
      (ofRolls spec rolls).subtotal = (ofRolls spec others).subtotal) ∧
    (∀ rolls, spec.modifier.getD 0 ≤ (ofRolls spec rolls).subtotal) ∧
    (∀ before after face, (ofRolls spec (before ++ after)).subtotal ≤
      (ofRolls spec (before ++ face :: after)).subtotal) ∧
    (∀ before after face, face ≠ 0 →
      (ofRolls spec (before ++ after)).subtotal ≠ Int64.maxValue →
      (ofRolls spec (before ++ after)).subtotal <
        (ofRolls spec (before ++ face :: after)).subtotal) ∧
    (∀ before after face greater, face ≤ greater →
      (ofRolls spec (before ++ face :: after)).subtotal ≤
        (ofRolls spec (before ++ greater :: after)).subtotal) ∧
    ∀ rolls more, (ofRolls spec (rolls ++ more)).subtotal =
      (ofRolls { spec with modifier := some (ofRolls spec rolls).subtotal } more).subtotal := by
  refine ⟨fun rolls others => subtotal_ofRolls_perm spec, offset_le_subtotal_ofRolls spec, ?_,
    fun before after face => subtotal_ofRolls_insert_lt spec before after, ?_,
    subtotal_ofRolls_append spec⟩
  · intro before after face
    apply subtotal_ofRolls_mono
    exact ((List.sublist_cons_self face after).append_left before).sublistForall₂
  · intro before after face greater hle
    apply subtotal_ofRolls_mono
    have hfaces : List.Forall₂ (· ≤ ·) (before ++ face :: after) (before ++ greater :: after) :=
      List.rel_append (List.forall₂_refl before) (.cons hle (List.forall₂_refl after))
    exact List.sublistForall₂_iff.mpr ⟨_, hfaces, List.Sublist.refl _⟩

/-- Behind the modifier `-5` the face `2 ^ 63` is capped, and the subtotal can still rise. -/
theorem subtotal_ofRolls_laws_past_range :
    let spec : RollSpec := ⟨3, 0xffffffffffffffff, some (-5)⟩
    [(0x8000000000000000 : UInt64), 2].Perm [2, 0x8000000000000000] ∧
    (ofRolls spec [0x8000000000000000, 2]).subtotal =
      (ofRolls spec [2, 0x8000000000000000]).subtotal ∧
    (4 : UInt64) ≠ 0 ∧ (ofRolls spec ([2] ++ [0x8000000000000000])).subtotal ≠ Int64.maxValue ∧
    (ofRolls spec ([2] ++ [0x8000000000000000])).subtotal <
      (ofRolls spec ([2] ++ 4 :: [0x8000000000000000])).subtotal ∧
    (2 : UInt64) ≤ 3 ∧
    (ofRolls spec ([] ++ 2 :: [0x8000000000000000])).subtotal ≤
      (ofRolls spec ([] ++ 3 :: [0x8000000000000000])).subtotal := by
  intro spec
  obtain ⟨hperm, -, -, hinsert, hreplace, -⟩ := subtotal_ofRolls_laws spec
  have horder : [(0x8000000000000000 : UInt64), 2].Perm [2, 0x8000000000000000] := by decide
  have hrange : (ofRolls spec ([2] ++ [0x8000000000000000])).subtotal ≠ Int64.maxValue := by decide
  have hzero : (4 : UInt64) ≠ 0 := by decide
  have hle : (2 : UInt64) ≤ 3 := by decide
  exact ⟨horder, hperm _ _ horder, hzero, hrange, hinsert _ _ _ hzero hrange, hle,
    hreplace _ _ _ _ hle⟩

end Outcome

end DiceLauncher
