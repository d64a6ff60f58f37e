import DiceLauncher.Saturation
import Mathlib

/-!
# Exact and saturated sums

`total` adds numbers from left to right and stays at the end of the range where a sum
would leave it. What is lost there is not made up for by numbers of the other sign, so
that the total may miss a sum that is itself in the range. It is forgotten only where
the sum so far runs all the way to the other end. `Recovers` states for a list, in
terms of the exact sums of its beginnings, that everything lost is either forgotten or
part of what the whole sum exceeds the range by.

Results:
* `iff_forall_prefix`: a property that one addition keeps or restores, in terms of the
  beginnings of a list.
* `total_eq_clamp_iff`: the total is the clamped exact sum of the lists that recover, and
  of no others.
* `Recovers.of_within`, `Recovers.of_nonneg`: lists that recover.
* `toInt_foldl_add_of_nonneg`: numbers that are not negative, added to any number.
* `addsExactly_of_magnitude_le`, `AddsExactly.toInt_foldl`: sums that never leave the range.
-/

namespace DiceLauncher.Saturation

/-! ## Specification -/

/-- The numbers added from left to right with saturation. -/
def total (xs : List Int64) : Int64 := xs.foldl add 0

/-- The exact sum. -/
def exactSum (xs : List Int64) : Int := (xs.map Int64.toInt).sum

/-- How far the exact sum is above the range; negative if it is below, zero if it fits. -/
def excess (xs : List Int64) : Int := exactSum xs - (clamp (exactSum xs)).toInt

/-- A beginning whose sum leaves the range, shifted by the excess of the whole list, at one end
goes on to a beginning whose sum reaches the other end of it. -/
structure Recovers (xs : List Int64) : Prop where
  fromAbove : ∀ start, start <+: xs → greatest + excess xs < exactSum start →
    ∃ later, start <+: later ∧ later <+: xs ∧ exactSum later ≤ least + excess xs
  fromBelow : ∀ start, start <+: xs → exactSum start < least + excess xs →
    ∃ later, start <+: later ∧ later <+: xs ∧ greatest + excess xs ≤ exactSum later

/-! ## Beginnings -/

section

variable {α : Type} (good high low : List α → Prop)

/-- A list that is extended by an item is good if it is low then, or if it was good and is not
high then. So the good lists are those in which whatever is high goes on to be low. -/
theorem iff_forall_prefix (good_nil : good []) (not_high_nil : ¬ high [])
    (step : ∀ xs x, good (xs ++ [x]) ↔ low (xs ++ [x]) ∨ ¬ high (xs ++ [x]) ∧ good xs)
    (xs : List α) :
    good xs ↔ ∀ start, start <+: xs → high start →
      ∃ later, start <+: later ∧ later <+: xs ∧ low later := by
  induction xs using List.reverseRecOn with
  | nil =>
    simp only [good_nil, true_iff, List.prefix_nil]
    rintro start rfl hhigh
    exact absurd hhigh not_high_nil
  | append_singleton xs x ih =>
    rw [step, ih]
    constructor
    · rintro (hlow | ⟨hhigh, hrec⟩) start hstart hs
      · exact ⟨xs ++ [x], hstart, List.prefix_rfl, hlow⟩
      · -- the whole list is not high, so the high beginning is one of `xs`
        rcases List.prefix_concat_iff.1 hstart with rfl | hstart
        · exact absurd hs hhigh
        · obtain ⟨later, hle, hlater, hlow⟩ := hrec start hstart hs
          exact ⟨later, hle, hlater.trans (List.prefix_append _ _), hlow⟩
    · intro h
      by_cases hlow : low (xs ++ [x])
      · exact .inl hlow
      · refine .inr ⟨fun hhigh => ?_, fun start hstart hs => ?_⟩
        · obtain ⟨later, hle, hlater, hlater_low⟩ := h _ List.prefix_rfl hhigh
          rw [hlater.eq_of_length_le hle.length_le] at hlater_low
          exact hlow hlater_low
        · obtain ⟨later, hle, hlater, hlater_low⟩ :=
            h start (hstart.trans (List.prefix_append _ _)) hs
          rcases List.prefix_concat_iff.1 hlater with rfl | hlater
          · exact absurd hlater_low hlow
          · exact ⟨later, hle, hlater, hlater_low⟩

end

/-! ## One more number -/

@[simp] theorem exactSum_nil : exactSum [] = 0 := rfl

@[simp] theorem exactSum_cons (x : Int64) (xs : List Int64) :
    exactSum (x :: xs) = x.toInt + exactSum xs := by
  simp [exactSum]

@[simp] theorem exactSum_append (xs ys : List Int64) :
    exactSum (xs ++ ys) = exactSum xs + exactSum ys := by
  simp [exactSum]

@[simp] theorem exactSum_singleton (x : Int64) : exactSum [x] = x.toInt := by
  simp [exactSum]

@[simp] theorem total_nil : total [] = 0 := rfl

theorem toInt_total_concat (xs : List Int64) (x : Int64) :
    (total (xs ++ [x])).toInt = max least (min ((total xs).toInt + x.toInt) greatest) := by
  rw [total, List.foldl_append, List.foldl_cons, List.foldl_nil, ← total, toInt_add]

theorem least_le_total (xs : List Int64) : least ≤ (total xs).toInt := by
  have := Int64.le_toInt (total xs)
  unfold least; omega

theorem total_le_greatest (xs : List Int64) : (total xs).toInt ≤ greatest := by
  have := Int64.toInt_lt (total xs)
  unfold greatest; omega

/-! ## The total against the exact sum -/

/-- The total falls short of the exact sum by no more than `e`. What is lost above the range is
forgotten where the sum reaches the lower end. -/
theorem exactSum_sub_le_total_iff {e : Int} (he : 0 ≤ e) (xs : List Int64) :
    exactSum xs - e ≤ (total xs).toInt ↔
      ∀ start, start <+: xs → greatest + e < exactSum start →
        ∃ later, start <+: later ∧ later <+: xs ∧ exactSum later ≤ least + e := by
  refine iff_forall_prefix (fun ys => exactSum ys - e ≤ (total ys).toInt)
    (fun ys => greatest + e < exactSum ys) (fun ys => exactSum ys ≤ least + e)
    ?_ ?_ (fun ys y => ?_) xs
  · rw [exactSum_nil, total_nil, Int64.toInt_zero]; omega
  · rw [exactSum_nil, greatest]; omega
  · rw [toInt_total_concat, exactSum_append, exactSum_singleton, least, greatest]; omega

theorem total_le_exactSum_sub_iff {e : Int} (he : e ≤ 0) (xs : List Int64) :
    (total xs).toInt ≤ exactSum xs - e ↔
      ∀ start, start <+: xs → exactSum start < least + e →
        ∃ later, start <+: later ∧ later <+: xs ∧ greatest + e ≤ exactSum later := by
  refine iff_forall_prefix (fun ys => (total ys).toInt ≤ exactSum ys - e)
    (fun ys => exactSum ys < least + e) (fun ys => greatest + e ≤ exactSum ys)
    ?_ ?_ (fun ys y => ?_) xs
  · rw [exactSum_nil, total_nil, Int64.toInt_zero]; omega
  · rw [exactSum_nil, least]; omega
  · rw [toInt_total_concat, exactSum_append, exactSum_singleton, least, greatest]; omega

theorem toInt_clamp_exactSum (xs : List Int64) :
    (clamp (exactSum xs)).toInt = exactSum xs - excess xs := by
  unfold excess; omega

theorem greatest_add_excess_le {xs : List Int64} (h : 0 < excess xs) :
    greatest + excess xs ≤ exactSum xs := by
  unfold excess at *
  rw [toInt_clamp, least, greatest] at *
  omega

theorem le_least_add_excess {xs : List Int64} (h : excess xs < 0) :
    exactSum xs ≤ least + excess xs := by
  unfold excess at *
  rw [toInt_clamp, least, greatest] at *
  omega

theorem clamp_le_total_iff (xs : List Int64) :
    (clamp (exactSum xs)).toInt ≤ (total xs).toInt ↔
      ∀ start, start <+: xs → greatest + excess xs < exactSum start →
        ∃ later, start <+: later ∧ later <+: xs ∧ exactSum later ≤ least + excess xs := by
  rw [toInt_clamp_exactSum]
  by_cases h : 0 ≤ excess xs
  · exact exactSum_sub_le_total_iff h xs
  · -- the sum is below the range, and the whole list makes up for every beginning
    have hlow := le_least_add_excess (Int.not_le.1 h)
    have := least_le_total xs
    refine iff_of_true (by omega) fun start hstart _ => ?_
    exact ⟨xs, hstart, List.prefix_rfl, hlow⟩

theorem total_le_clamp_iff (xs : List Int64) :
    (total xs).toInt ≤ (clamp (exactSum xs)).toInt ↔
      ∀ start, start <+: xs → exactSum start < least + excess xs →
        ∃ later, start <+: later ∧ later <+: xs ∧ greatest + excess xs ≤ exactSum later := by
  rw [toInt_clamp_exactSum]
  by_cases h : excess xs ≤ 0
  · exact total_le_exactSum_sub_iff h xs
  · have hhigh := greatest_add_excess_le (Int.not_le.1 h)
    have := total_le_greatest xs
    refine iff_of_true (by omega) fun start hstart _ => ?_
    exact ⟨xs, hstart, List.prefix_rfl, hhigh⟩

/-- The total is the exact sum, clamped once, of the lists that recover and of no others. -/
theorem total_eq_clamp_iff (xs : List Int64) :
    total xs = clamp (exactSum xs) ↔ Recovers xs := by
  rw [← Int64.toInt_inj]
  constructor
  · intro h
    exact ⟨(clamp_le_total_iff xs).1 (by omega), (total_le_clamp_iff xs).1 (by omega)⟩
  · rintro ⟨habove, hbelow⟩
    have := (clamp_le_total_iff xs).2 habove
    have := (total_le_clamp_iff xs).2 hbelow
    omega

/-! ## Lists that recover -/

/-- A list recovers if none of its beginnings leaves the range farther than the whole list. -/
theorem Recovers.of_within {xs : List Int64}
    (h : ∀ start, start <+: xs →
      min least (exactSum xs) ≤ exactSum start ∧ exactSum start ≤ max greatest (exactSum xs)) :
    Recovers xs := by
  have hclamp := toInt_clamp_exactSum xs
  rw [toInt_clamp] at hclamp
  constructor
  · -- a beginning above the shifted range is one of a list below the range
    intro start hstart hs
    have hle := (h start hstart).2
    refine ⟨xs, hstart, List.prefix_rfl, ?_⟩
    unfold least greatest at *; omega
  · intro start hstart hs
    have hle := (h start hstart).1
    refine ⟨xs, hstart, List.prefix_rfl, ?_⟩
    unfold least greatest at *; omega

theorem exactSum_nonneg {xs : List Int64} (h : ∀ x ∈ xs, 0 ≤ x.toInt) : 0 ≤ exactSum xs := by
  refine List.sum_nonneg fun z hz => ?_
  obtain ⟨x, hx, rfl⟩ := List.mem_map.1 hz
  exact h x hx

theorem Recovers.of_nonneg {xs : List Int64} (h : ∀ x ∈ xs, 0 ≤ x.toInt) : Recovers xs := by
  refine .of_within fun start ⟨rest, hrest⟩ => ?_
  have hstart : 0 ≤ exactSum start := exactSum_nonneg fun x hx => h x (by simp [← hrest, hx])
  have hrest' : 0 ≤ exactSum rest := exactSum_nonneg fun x hx => h x (by simp [← hrest, hx])
  rw [← hrest, exactSum_append, least]
  omega

theorem exactSum_perm {xs ys : List Int64} (h : xs.Perm ys) : exactSum xs = exactSum ys :=
  (h.map _).sum_eq

/-- Numbers that are not negative lead out of the range at its upper end only, and from there no
other one leads back: it does not matter that every addition is clamped. -/
theorem toInt_foldl_add_of_nonneg {sum : Int64} {xs : List Int64} (h : ∀ x ∈ xs, 0 ≤ x.toInt) :
    (xs.foldl add sum).toInt = min (sum.toInt + exactSum xs) greatest := by
  induction xs generalizing sum with
  | nil =>
    have := Int64.toInt_lt sum
    rw [List.foldl_nil, exactSum_nil, greatest]
    omega
  | cons x xs ih =>
    have hx : 0 ≤ x.toInt := h x List.mem_cons_self
    have hxs : ∀ y ∈ xs, 0 ≤ y.toInt := fun y hy => h y (List.mem_cons_of_mem x hy)
    have hrest : 0 ≤ exactSum xs := exactSum_nonneg hxs
    have hleast := Int64.le_toInt sum
    rw [List.foldl_cons, ih hxs, toInt_add, exactSum_cons, least, greatest]
    omega

/-! ## Sums that stay in the range -/

/-- Numbers are added to a sum one by one, and no addition leaves the range: each of them gives
the exact sum. -/
def AddsExactly (sum : Int64) : List Int64 → Prop
  | [] => True
  | x :: xs => (add sum x).toInt = sum.toInt + x.toInt ∧ AddsExactly (add sum x) xs

/-- How far numbers can lead away from zero, whatever their order and their signs. -/
def magnitude (xs : List Int64) : Nat := (xs.map fun x => x.toInt.natAbs).sum

@[simp] theorem magnitude_cons (x : Int64) (xs : List Int64) :
    magnitude (x :: xs) = x.toInt.natAbs + magnitude xs := by
  simp [magnitude]

theorem toInt_add_of_natAbs_le {a b : Int64} (h : a.toInt.natAbs + b.toInt.natAbs ≤ 2 ^ 63 - 1) :
    (add a b).toInt = a.toInt + b.toInt := by
  rw [toInt_add, least, greatest]; omega

/-- The sum so far is within reach of the numbers added, so it never leaves the range. -/
theorem addsExactly_of_magnitude_le {sum : Int64} {xs : List Int64}
    (h : sum.toInt.natAbs + magnitude xs ≤ 2 ^ 63 - 1) : AddsExactly sum xs := by
  induction xs generalizing sum with
  | nil => trivial
  | cons x xs ih =>
    rw [magnitude_cons] at h
    have hadd : (add sum x).toInt = sum.toInt + x.toInt := toInt_add_of_natAbs_le (by omega)
    exact ⟨hadd, ih (by omega)⟩

theorem AddsExactly.toInt_foldl {sum : Int64} {xs : List Int64} (h : AddsExactly sum xs) :
    (xs.foldl add sum).toInt = sum.toInt + exactSum xs := by
  induction xs generalizing sum with
  | nil => simp
  | cons x xs ih =>
    obtain ⟨hadd, hrest⟩ := h
    rw [List.foldl_cons, ih hrest, hadd, exactSum_cons]; omega

end DiceLauncher.Saturation
