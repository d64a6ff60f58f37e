import DiceLauncher.Dice.Fair
import Mathlib

/-!
# Words and faces

The face that a word shows on a die, and the tape that drawing a die leaves.

Results:
* `face?_eq_some_iff`: when a word is accepted, and the face that it shows then.
* `hasFace_of_face?`, `exists_face?_eq_some`: the faces that the words show are those of the die.
* `firstFace_eq_some_iff`: a draw takes the first accepted word and drops those before it.
-/

namespace DiceLauncher.Dice

/-- The faces of a die are numbered from one. -/
def HasFace (sides face : UInt64) : Prop := 1 ≤ face.toNat ∧ face.toNat ≤ sides.toNat

/-! ## One word -/

theorem toNat_ofNat_of_lt {n : Nat} (h : n < 2 ^ 64) : (UInt64.ofNat n).toNat = n :=
  UInt64.toNat_ofNat_of_lt (by simpa [UInt64.size] using h)

theorem sides_le_acceptanceBound (sides : UInt64) : sides.toNat ≤ acceptanceBound sides := by
  rw [acceptanceBound, Nat.shiftLeft_eq]
  exact Nat.le_mul_of_pos_right _ (Nat.two_pow_pos _)

@[simp] theorem acceptanceBound_zero : acceptanceBound 0 = 0 := by
  simp [acceptanceBound, Nat.shiftLeft_eq]

/-- The upper half of the product is below the number of sides. -/
theorem upper_half_lt (word : UInt64) {sides : UInt64} (h : sides ≠ 0) :
    word.toNat * sides.toNat / 2 ^ 64 < sides.toNat := by
  have hpos : 0 < sides.toNat := UInt64.pos_iff_ne_zero.mpr h
  rw [Nat.div_lt_iff_lt_mul (by decide), Nat.mul_comm]
  exact Nat.mul_lt_mul_of_pos_left word.toNat_lt hpos

theorem face?_eq_some_iff {sides word face : UInt64} :
    face? sides word = some face ↔
      word.toNat * sides.toNat % 2 ^ 64 < acceptanceBound sides ∧
        face.toNat = 1 + word.toNat * sides.toNat / 2 ^ 64 := by
  by_cases hsides : sides = 0
  · simp [face?, hsides]
  · have hupper := upper_half_lt word hsides
    have hlt := sides.toNat_lt
    have hsize : UInt64.size = 2 ^ 64 := rfl
    have hface : (UInt64.ofNat (1 + word.toNat * sides.toNat / 2 ^ 64)).toNat =
        1 + word.toNat * sides.toNat / 2 ^ 64 := toNat_ofNat_of_lt (by omega)
    simp only [face?, hsize, Option.ite_none_right_eq_some, Option.some.injEq]
    refine and_congr_right fun _ => ?_
    rw [← UInt64.toNat_inj, hface, eq_comm]

/-- An accepted word shows a face of the die. -/
theorem hasFace_of_face? {sides word face : UInt64} (h : face? sides word = some face) :
    HasFace sides face := by
  obtain ⟨haccept, hface⟩ := face?_eq_some_iff.mp h
  have hsides : sides ≠ 0 := by
    rintro rfl
    simp at haccept
  have hupper := upper_half_lt word hsides
  exact ⟨by omega, by omega⟩

/-- Some multiple of a positive number reaches `start` by less than the number. -/
theorem exists_mul_between (start : Nat) {n : Nat} (h : 0 < n) :
    ∃ q, start ≤ n * q ∧ n * q < start + n := by
  have hdiv := Nat.div_add_mod (start + (n - 1)) n
  have hmod := Nat.mod_lt (start + (n - 1)) h
  exact ⟨(start + (n - 1)) / n, by omega, by omega⟩

/-- Every face of a die has a word: the least one whose product reaches the face. -/
theorem exists_face?_eq_some {sides face : UInt64} (h : HasFace sides face) :
    ∃ word, face? sides word = some face := by
  obtain ⟨hone, hle⟩ := h
  have hlt := sides.toNat_lt
  have hpos : 0 < sides.toNat := Nat.lt_of_lt_of_le hone hle
  -- the product has the face less one in its upper half and less than `sides` in its lower half
  obtain ⟨word, hlow, hhigh⟩ := exists_mul_between ((face.toNat - 1) * 2 ^ 64) hpos
  have hfit : word < 2 ^ 64 := by
    have hmul : sides.toNat * word < sides.toNat * 2 ^ 64 :=
      calc sides.toNat * word < (face.toNat - 1) * 2 ^ 64 + sides.toNat := hhigh
        _ ≤ (face.toNat - 1) * 2 ^ 64 + 2 ^ 64 := Nat.add_le_add_left hlt.le _
        _ = face.toNat * 2 ^ 64 := by
          rw [← Nat.succ_mul, Nat.succ_eq_add_one, Nat.sub_add_cancel hone]
        _ ≤ sides.toNat * 2 ^ 64 := Nat.mul_le_mul_right _ hle
    exact Nat.lt_of_mul_lt_mul_left hmul
  have hbound := sides_le_acceptanceBound sides
  refine ⟨UInt64.ofNat word, face?_eq_some_iff.mpr ?_⟩
  rw [toNat_ofNat_of_lt hfit, Nat.mul_comm word]
  exact ⟨by omega, by omega⟩

/-! ## One die -/

theorem firstFace_append {sides word face : UInt64} (rejected rest : List UInt64)
    (hrejected : ∀ w ∈ rejected, face? sides w = none) (hword : face? sides word = some face) :
    firstFace sides (rejected ++ word :: rest) = some (face, rest) := by
  induction rejected with
  | nil => simp [firstFace, hword]
  | cons w rejected ih =>
    have hw : face? sides w = none := hrejected w List.mem_cons_self
    rw [List.cons_append, firstFace, hw]
    exact ih fun v hv => hrejected v (List.mem_cons_of_mem w hv)

/-- A draw takes the first accepted word and drops those before it. -/
theorem firstFace_eq_some_iff {sides face : UInt64} {words rest : List UInt64} :
    firstFace sides words = some (face, rest) ↔
      ∃ rejected word, words = rejected ++ word :: rest ∧
        (∀ w ∈ rejected, face? sides w = none) ∧ face? sides word = some face := by
  constructor
  · intro h
    induction words with
    | nil => simp [firstFace] at h
    | cons w words ih =>
      rw [firstFace] at h
      cases hw : face? sides w with
      | some shown =>
        rw [hw] at h
        cases h
        exact ⟨[], w, rfl, by simp, hw⟩
      | none =>
        rw [hw] at h
        obtain ⟨rejected, word, rfl, hrejected, hword⟩ := ih h
        refine ⟨w :: rejected, word, rfl, ?_, hword⟩
        simpa [hw] using hrejected
  · rintro ⟨rejected, word, rfl, hrejected, hword⟩
    exact firstFace_append rejected rest hrejected hword

theorem draw_of_ne_zero {sides : UInt64} (h : sides ≠ 0) (words : List UInt64) :
    draw sides words = (firstFace sides words).elim (.error .outOfWords) .ok := by
  rw [draw, if_neg h]
  cases firstFace sides words <;> rfl

end DiceLauncher.Dice
