import DiceLauncher.Proofs.Report.Exact

/-!
# Subtotals

A subtotal adds the faces of an outcome to its modifier. A face past the range of signed
numbers counts as the greatest number of the range before it is added. Behind a negative
modifier the sum can come back into the range, and then what the face lost is missing:
`2 ^ 63` behind the modifier `-1` comes to `2 ^ 63 - 2`. In all other cases it makes no
difference that the range is watched at every step.

Results:
* `toInt_subtotal_ofRolls`: the subtotal in terms of the capped faces.
* `cappedSum_eq_faceSum_iff`: the faces that lose nothing.
* `subtotal_ofRolls_eq_clamp_of_nonneg`: nothing is lost behind a modifier that is not negative.
* `subtotal_ofRolls_eq_clamp_iff`: when the subtotal is the clamped exact sum, when it is the
  exact sum, and when it is the greatest number.
-/

namespace DiceLauncher

open Saturation

/-! ## Specification -/

/-- What faces add up to when none counts for more than the greatest number of the range. -/
def cappedSum (faces : List UInt64) : Nat :=
  (faces.map fun face => min face.toNat (2 ^ 63 - 1)).sum

/-- What the modifier of a roll and its faces add up to. -/
def RollSpec.exactSubtotal (spec : RollSpec) (faces : List UInt64) : Int :=
  spec.offset.toInt + faceSum faces

/-- What they add up to when the faces are capped. -/
def RollSpec.cappedSubtotal (spec : RollSpec) (faces : List UInt64) : Int :=
  spec.offset.toInt + cappedSum faces

/-! ## Capped faces -/

@[simp] theorem cappedSum_cons (face : UInt64) (faces : List UInt64) :
    cappedSum (face :: faces) = min face.toNat (2 ^ 63 - 1) + cappedSum faces := by
  simp [cappedSum]

theorem Saturation.toInt_ofWord_eq_min (face : UInt64) :
    (ofWord face).toInt = (min face.toNat (2 ^ 63 - 1) : Nat) := by
  rw [ofWord, toInt_clamp, least, greatest]
  omega

theorem Saturation.exactSum_map_ofWord_eq_cappedSum (faces : List UInt64) :
    exactSum (faces.map ofWord) = cappedSum faces := by
  induction faces with
  | nil => rfl
  | cons face faces ih =>
    rw [List.map_cons, exactSum_cons, toInt_ofWord_eq_min, ih, cappedSum_cons, Nat.cast_add]

theorem cappedSum_le_faceSum (faces : List UInt64) : cappedSum faces ≤ faceSum faces := by
  induction faces with
  | nil => exact Nat.le_refl 0
  | cons face faces ih =>
    rw [cappedSum_cons, faceSum_cons]
    omega

/-- Nothing is lost by the cap if and only if no face exceeds it. -/
theorem cappedSum_eq_faceSum_iff {faces : List UInt64} :
    cappedSum faces = faceSum faces ↔ ∀ face ∈ faces, face.toNat ≤ 2 ^ 63 - 1 := by
  induction faces with
  | nil => simp [cappedSum, faceSum]
  | cons face faces ih =>
    have hle := cappedSum_le_faceSum faces
    rw [List.forall_mem_cons, ← ih, cappedSum_cons, faceSum_cons]
    omega

/-- A face that exceeds the cap reaches it. -/
theorem le_cappedSum_of_lt {faces : List UInt64} (h : ∃ face ∈ faces, 2 ^ 63 - 1 < face.toNat) :
    2 ^ 63 - 1 ≤ cappedSum faces := by
  obtain ⟨face, hmem, hlt⟩ := h
  have hcap : min face.toNat (2 ^ 63 - 1) ≤ cappedSum faces :=
    List.le_sum_of_mem (List.mem_map_of_mem (f := fun face => min face.toNat (2 ^ 63 - 1)) hmem)
  omega

namespace Outcome

/-! ## Subtotals -/

variable (spec : RollSpec) (rolls : List UInt64)

/-- The subtotal is the capped one, brought into the range once. -/
theorem toInt_subtotal_ofRolls :
    (ofRolls spec rolls).subtotal.toInt = min (spec.cappedSubtotal rolls) greatest := by
  have hnonneg : ∀ x ∈ rolls.map ofWord, 0 ≤ x.toInt := by
    intro x hx
    obtain ⟨face, -, rfl⟩ := List.mem_map.mp hx
    rw [toInt_ofWord_eq_min]
    omega
  calc (ofRolls spec rolls).subtotal.toInt
    _ = ((rolls.map ofWord).foldl add spec.offset).toInt := by rw [subtotal_eq]; rfl
    _ = min (spec.offset.toInt + exactSum (rolls.map ofWord)) greatest :=
      toInt_foldl_add_of_nonneg hnonneg
    _ = min (spec.cappedSubtotal rolls) greatest := by
      rw [exactSum_map_ofWord_eq_cappedSum]
      rfl

/-- No face is lost behind a modifier that is not negative: a face past the range brings the sum to
the end of it. -/
theorem subtotal_ofRolls_eq_clamp_of_nonneg {spec : RollSpec} (h : 0 ≤ spec.offset.toInt)
    (rolls : List UInt64) :
    (ofRolls spec rolls).subtotal = clamp (spec.exactSubtotal rolls) := by
  rw [← Int64.toInt_inj, toInt_subtotal_ofRolls, toInt_clamp]
  unfold RollSpec.cappedSubtotal RollSpec.exactSubtotal least greatest
  by_cases hfaces : ∀ face ∈ rolls, face.toNat ≤ 2 ^ 63 - 1
  · rw [cappedSum_eq_faceSum_iff.mpr hfaces]
    omega
  · have hcap := le_cappedSum_of_lt (by simpa using hfaces)
    have hle := cappedSum_le_faceSum rolls
    omega

/-- The subtotal of faces is the exact sum of the modifier and the faces, clamped once, if and only
if no face is past the range or the capped sum reaches the end of it all the same. It is the exact
sum if and only if that is not above the range and no face is past the range; and it is the greatest
number of the range if and only if the capped sum reaches that. -/
theorem subtotal_ofRolls_eq_clamp_iff :
    (ofRolls spec rolls).subtotal.toInt = min (spec.cappedSubtotal rolls) greatest ∧
    ((ofRolls spec rolls).subtotal = clamp (spec.exactSubtotal rolls) ↔
      (∀ face ∈ rolls, face.toNat ≤ 2 ^ 63 - 1) ∨ greatest ≤ spec.cappedSubtotal rolls) ∧
    ((ofRolls spec rolls).subtotal.toInt = spec.exactSubtotal rolls ↔
      spec.exactSubtotal rolls ≤ greatest ∧ ∀ face ∈ rolls, face.toNat ≤ 2 ^ 63 - 1) ∧
    ((ofRolls spec rolls).subtotal = Int64.maxValue ↔ greatest ≤ spec.cappedSubtotal rolls) := by
  have hsubtotal := toInt_subtotal_ofRolls spec rolls
  have hle := cappedSum_le_faceSum rolls
  have hoffset := Int64.le_toInt spec.offset
  have hmax : Int64.maxValue.toInt = greatest := rfl
  refine ⟨hsubtotal, ?_, ?_, ?_⟩
  · rw [← Int64.toInt_inj, hsubtotal, toInt_clamp, ← cappedSum_eq_faceSum_iff]
    unfold RollSpec.cappedSubtotal RollSpec.exactSubtotal least greatest
    omega
  · rw [hsubtotal, ← cappedSum_eq_faceSum_iff]
    unfold RollSpec.cappedSubtotal RollSpec.exactSubtotal greatest
    omega
  · rw [← Int64.toInt_inj, hsubtotal, hmax]
    omega

/-- Behind the modifier `-1` a face of `2 ^ 63` comes to less than the exact sum, which fits, and a
face of `2 ^ 64 - 1` comes to less than the end of the range, which the exact sum exceeds. -/
theorem subtotal_ofRolls_past_range :
    let spec : RollSpec := ⟨1, 0xffffffffffffffff, some (-1)⟩
    let fitting : List UInt64 := [0x8000000000000000]
    let exceeding : List UInt64 := [0xffffffffffffffff]
    spec.exactSubtotal fitting = 2 ^ 63 - 1 ∧
    (ofRolls spec fitting).subtotal ≠ clamp (spec.exactSubtotal fitting) ∧
    (ofRolls spec fitting).subtotal.toInt = 2 ^ 63 - 2 ∧
    2 ^ 63 - 1 < spec.exactSubtotal exceeding ∧
    (ofRolls spec exceeding).subtotal ≠ Int64.maxValue ∧
    (ofRolls spec exceeding).subtotal.toInt = 2 ^ 63 - 2 := by
  decide

end Outcome

end DiceLauncher
