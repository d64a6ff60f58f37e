import DiceLauncher.Text.Bytes
import Mathlib

/-!
# Cutting a text at a position

Results:
* `splitAt?_eq_some_iff`: a text is cut exactly at the byte length of one of its beginnings.
* `splitAt?_inside`: a text is not cut inside a character.
* `slice?_append`: the slice between the ends of an inner part is that part.
-/

namespace DiceLauncher.Text

@[simp] theorem byteLength_nil : byteLength [] = 0 := rfl

@[simp] theorem byteLength_cons (c : Char) (text : List Char) :
    byteLength (c :: text) = c.utf8Size + byteLength text := rfl

@[simp] theorem byteLength_append (a b : List Char) :
    byteLength (a ++ b) = byteLength a + byteLength b := by
  induction a with
  | nil => simp
  | cons c a ih => rw [List.cons_append, byteLength_cons, byteLength_cons, ih, Nat.add_assoc]

@[simp] theorem byteLength_reverse (text : List Char) :
    byteLength text.reverse = byteLength text := by
  induction text with
  | nil => rfl
  | cons c text ih =>
    rw [List.reverse_cons, byteLength_append, ih, byteLength_cons, byteLength_cons, byteLength_nil,
      Nat.add_zero, Nat.add_comm]

theorem byteLength_pos {text : List Char} (h : text ≠ []) : 0 < byteLength text := by
  cases text with
  | nil => exact absurd rfl h
  | cons c text =>
    rw [byteLength_cons]
    exact Nat.lt_add_right _ c.utf8Size_pos

theorem splitAt?_cons (position : Nat) (c : Char) (text : List Char) :
    splitAt? (c.utf8Size + position) (c :: text) =
      (splitAt? position text).map fun (before, after) => (c :: before, after) := by
  have hpos : c.utf8Size + position ≠ 0 := by
    have := c.utf8Size_pos
    omega
  rw [splitAt?.eq_3 _ _ _ hpos, if_pos (Nat.le_add_right _ _), Nat.add_sub_cancel_left]
  cases splitAt? position text <;> rfl

theorem splitAt?_append (before after : List Char) :
    splitAt? (byteLength before) (before ++ after) = some (before, after) := by
  induction before with
  | nil => cases after <;> rfl
  | cons c before ih => rw [byteLength_cons, List.cons_append, splitAt?_cons, ih]; rfl

/-- The boundaries of a text are the byte lengths of its beginnings. -/
theorem splitAt?_eq_some_iff {position : Nat} {text before after : List Char} :
    splitAt? position text = some (before, after) ↔
      text = before ++ after ∧ position = byteLength before := by
  constructor
  · intro h
    fun_induction splitAt? position text generalizing before after with
    | case1 text =>
      obtain ⟨rfl, rfl⟩ : [] = before ∧ text = after := by simpa using h
      simp
    | case2 => simp at h
    | case3 position c text hpos hle before' after' hsplit ih =>
      obtain ⟨rfl, rfl⟩ : c :: before' = before ∧ after' = after := by simpa using h
      obtain ⟨htext, hposition⟩ := ih hsplit
      refine ⟨by rw [htext, List.cons_append], ?_⟩
      rw [byteLength_cons]
      omega
    | case4 => simp at h
    | case5 => simp at h
  · rintro ⟨rfl, rfl⟩
    exact splitAt?_append before after

/-- A position is a boundary of a text: one of the beginnings of the text has that many bytes. -/
def IsBoundary (text : List Char) (position : Nat) : Prop :=
  ∃ before after, text = before ++ after ∧ position = byteLength before

theorem before?_eq_some_iff {position : Nat} {text before : List Char} :
    before? position text = some before ↔
      ∃ after, text = before ++ after ∧ position = byteLength before := by
  simp [before?, splitAt?_eq_some_iff]

/-- A text is not cut inside a character. -/
theorem splitAt?_inside (before after : List Char) {c : Char} {inside : Nat}
    (hpos : inside ≠ 0) (hlt : inside < c.utf8Size) :
    splitAt? (byteLength before + inside) (before ++ c :: after) = none := by
  induction before with
  | nil =>
    have hinside : byteLength [] + inside ≠ 0 := by simpa using hpos
    rw [List.nil_append, splitAt?.eq_3 _ _ _ hinside, byteLength_nil, Nat.zero_add,
      if_neg (Nat.not_le.mpr hlt)]
  | cons d before ih =>
    rw [byteLength_cons, Nat.add_assoc, List.cons_append, splitAt?_cons, ih, Option.map_none]

/-- The slice between the ends of an inner part of a text is that part. -/
theorem slice?_append (before inner after : List Char) :
    slice? (byteLength before) (byteLength before + byteLength inner)
      (before ++ (inner ++ after)) = some inner := by
  have hstop : before? (byteLength before + byteLength inner) (before ++ (inner ++ after)) =
      some (before ++ inner) := by
    rw [before?, ← byteLength_append, ← List.append_assoc, splitAt?_append]
    rfl
  rw [slice?, hstop, Option.bind_some, from?, splitAt?_append]
  rfl

end DiceLauncher.Text
