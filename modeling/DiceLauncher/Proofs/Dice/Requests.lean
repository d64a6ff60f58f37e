import DiceLauncher.Report
import Mathlib

/-!
# What a roll asks of its source

Throwing a roll asks the source for its dice one after the other, unless the roll
rests: it has no dice, its dice have no faces, or they are too many. A batch asks for
the dice of its rolls in order, and its report deals the answers out again.

This holds for every source in every lawful monad: a batch does nothing to its source
but ask for the list `Batch.requests`, and the report is a function of the answers.

Results:
* `Outcome.throw_eq`: throwing one roll.
* `Batch.roll_eq`: throwing a batch.
* `Batch.roll_insertIdx`: a roll that rests can be put anywhere into a batch.
-/

namespace DiceLauncher

/-! ## Specification -/

namespace RollSpec

/-- Nothing is thrown for the roll. -/
def Rests (spec : RollSpec) : Prop :=
  spec.count = 0 ∨ spec.sides = 0 ∨ 5000 < spec.count.toNat

/-- The sides that throwing the roll asks a source for, in order. -/
def requests (spec : RollSpec) : List UInt64 :=
  if spec.count.toNat ≤ 5000 ∧ 0 < spec.sides.toNat then
    List.replicate spec.count.toNat spec.sides
  else []

end RollSpec

/-- The sides that throwing a batch asks a source for: those of its rolls, in their order. -/
def Batch.requests (batch : Batch) : List UInt64 := batch.flatMap RollSpec.requests

/-- The outcome of a roll whose dice show some faces; the dice are refused if they are too many. -/
def Outcome.showing (spec : RollSpec) (faces : List UInt64) : Outcome :=
  ⟨spec, if 5000 < spec.count.toNat then none else some faces⟩

/-- Deals faces out to the rolls of a batch, to each as many as it asked for. -/
def Batch.deal : Batch → List UInt64 → List Outcome
  | [], _ => []
  | spec :: batch, faces =>
    .showing spec (faces.take spec.requests.length) ::
      deal batch (faces.drop spec.requests.length)

/-! ## One roll -/

theorem RollSpec.rests_iff {spec : RollSpec} : spec.Rests ↔ spec.requests = [] := by
  unfold Rests requests
  rw [← UInt64.toNat_inj, ← UInt64.toNat_inj, UInt64.toNat_zero]
  split_ifs with h
  · simp only [List.replicate_eq_nil_iff]; omega
  · simp only [iff_true]; omega

theorem RollSpec.length_requests_le (spec : RollSpec) : spec.requests.length ≤ 5000 := by
  unfold requests
  split_ifs with h
  · simpa using h.1
  · simp

theorem Dice.diceLimit_lt {count : UInt64} : diceLimit < count ↔ 5000 < count.toNat := by
  simp [diceLimit, UInt64.lt_iff_toNat_lt]

section Monadic

variable {m : Type → Type} [Monad m] [LawfulMonad m]

theorem Dice.throwMany_eq (source : Source m) (sides : UInt64) (dice : Nat) :
    throwMany source sides dice = (List.replicate dice sides).mapM source := by
  induction dice with
  | zero => rfl
  | succ dice ih => simp only [throwMany, List.replicate_succ, List.mapM_cons, ih]

/-- Throwing a roll asks the source for its dice and shows the answers. -/
theorem Outcome.throw_eq (source : Source m) (spec : RollSpec) :
    Outcome.throw source spec =
      spec.requests.mapM source >>= fun faces => pure (.showing spec faces) := by
  unfold Outcome.throw Dice.throwDice RollSpec.requests Outcome.showing
  by_cases hlimit : 5000 < spec.count.toNat
  · rw [if_pos (Dice.diceLimit_lt.mpr hlimit), if_neg (by omega)]
    simp only [List.mapM_nil, pure_bind, if_pos hlimit]
  · rw [if_neg (mt Dice.diceLimit_lt.mp hlimit)]
    simp only [if_neg hlimit]
    by_cases hface : spec.sides = 0
    · rw [if_pos hface, if_neg (by simp [hface])]
      simp only [List.mapM_nil, pure_bind]
    · have hpos : 0 < spec.sides.toNat := by
        rw [← UInt64.toNat_inj, UInt64.toNat_zero] at hface; omega
      rw [if_neg hface, if_pos ⟨by omega, hpos⟩]
      simp only [Dice.throwMany_eq, bind_assoc, pure_bind]

/-! ## Batches -/

/-- What follows the answers may rely on their number. -/
theorem mapM_bind_congr {α β γ : Type} {f : α → m β} {g g' : List β → m γ} {l : List α}
    (h : ∀ bs, bs.length = l.length → g bs = g' bs) : l.mapM f >>= g = l.mapM f >>= g' := by
  induction l generalizing g g' with
  | nil => simp only [List.mapM_nil, pure_bind, h [] rfl]
  | cons a l ih =>
    simp only [List.mapM_cons, bind_assoc, pure_bind]
    refine bind_congr fun b => ih fun bs hbs => ?_
    exact h (b :: bs) (by rw [List.length_cons, List.length_cons, hbs])

theorem Batch.deal_cons_append (spec : RollSpec) (batch : Batch) {faces : List UInt64}
    (h : faces.length = spec.requests.length) (others : List UInt64) :
    deal (spec :: batch) (faces ++ others) = .showing spec faces :: deal batch others := by
  rw [deal, ← h, List.take_left, List.drop_left]

theorem Batch.mapM_throw_eq (source : Source m) (batch : Batch) :
    batch.mapM (Outcome.throw source) =
      batch.requests.mapM source >>= fun faces => pure (batch.deal faces) := by
  induction batch with
  | nil => simp only [requests, List.flatMap_nil, List.mapM_nil, pure_bind, deal]
  | cons spec batch ih =>
    simp only [requests, List.flatMap_cons, List.mapM_append, List.mapM_cons, Outcome.throw_eq,
      bind_assoc, pure_bind] at ih ⊢
    refine mapM_bind_congr fun faces hfaces => ?_
    rw [ih]
    simp only [bind_assoc, pure_bind, deal_cons_append spec batch hfaces]

/-- Throwing a batch asks the source for the dice of its rolls in order, and deals the answers
out to them. -/
theorem Batch.roll_eq (source : Source m) (batch : Batch) :
    batch.roll source = batch.requests.mapM source >>= fun faces => pure ⟨batch.deal faces⟩ := by
  simp only [roll, mapM_throw_eq, bind_assoc, pure_bind]

/-- A roll that rests can be put anywhere into a batch: the other outcomes stay as they are. -/
theorem Batch.roll_insertIdx (source : Source m) {spec : RollSpec} (h : spec.Rests)
    (batch : Batch) (i : Nat) :
    roll source (batch.insertIdx i spec) =
      batch.roll source >>= fun report =>
        pure ⟨report.outcomes.insertIdx i (.showing spec [])⟩ := by
  have hthrow : Outcome.throw source spec = pure (.showing spec []) := by
    rw [Outcome.throw_eq, RollSpec.rests_iff.mp h, List.mapM_nil, pure_bind]
  have hinsert : (batch.insertIdx i spec).mapM (Outcome.throw source) =
      batch.mapM (Outcome.throw source) >>= fun outcomes =>
        pure (outcomes.insertIdx i (.showing spec [])) := by
    induction batch generalizing i with
    | nil => cases i <;> simp [hthrow]
    | cons other batch ih =>
      cases i with
      | zero =>
        simp only [List.insertIdx_zero, List.mapM_cons, hthrow, bind_assoc, pure_bind]
      | succ i =>
        simp only [List.insertIdx_succ_cons, List.mapM_cons, ih, bind_assoc, pure_bind]
  simp only [roll, hinsert, bind_assoc, pure_bind]

end Monadic

/-! ## Dealing -/

namespace Outcome

theorem overLimit_showing (spec : RollSpec) (faces : List UInt64) :
    (showing spec faces).overLimit ↔ 5000 < spec.count.toNat := by
  unfold showing overLimit
  split_ifs with h <;> simp [h]

theorem rolls_showing {spec : RollSpec} {faces : List UInt64}
    (h : faces.length = spec.requests.length) : (showing spec faces).rolls = faces := by
  unfold showing rolls
  split_ifs with hlimit
  · have hnone : spec.requests = [] := by rw [RollSpec.requests, if_neg (by omega)]
    rw [hnone, List.length_nil, List.length_eq_zero_iff] at h
    rw [h]; rfl
  · rfl

end Outcome

namespace Batch

theorem map_spec_deal (batch : Batch) (faces : List UInt64) :
    (batch.deal faces).map Outcome.spec = batch := by
  induction batch generalizing faces with
  | nil => rfl
  | cons spec batch ih => rw [deal, List.map_cons, ih]; rfl

theorem requests_cons (spec : RollSpec) (batch : Batch) :
    requests (spec :: batch) = spec.requests ++ batch.requests := List.flatMap_cons

/-- Dealing as many faces as were asked for gives each roll as many as it asked for. -/
theorem exists_of_mem_deal {batch : Batch} {faces : List UInt64}
    (h : faces.length = batch.requests.length) {outcome : Outcome}
    (hmem : outcome ∈ batch.deal faces) :
    ∃ part, part.length = outcome.spec.requests.length ∧ outcome = .showing outcome.spec part := by
  induction batch generalizing faces with
  | nil => simp [deal] at hmem
  | cons spec batch ih =>
    rw [requests_cons, List.length_append] at h
    rcases List.mem_cons.mp hmem with rfl | hmem
    · exact ⟨faces.take spec.requests.length, List.length_take_of_le (by omega), rfl⟩
    · exact ih (by rw [List.length_drop]; omega) hmem

/-- The faces come out of the outcomes in the order in which they were dealt. -/
theorem flatMap_rolls_deal {batch : Batch} {faces : List UInt64}
    (h : faces.length = batch.requests.length) :
    (batch.deal faces).flatMap Outcome.rolls = faces := by
  induction batch generalizing faces with
  | nil => simpa [deal, requests, eq_comm] using h
  | cons spec batch ih =>
    rw [requests_cons, List.length_append] at h
    have htake : (faces.take spec.requests.length).length = spec.requests.length :=
      List.length_take_of_le (by omega)
    rw [deal, List.flatMap_cons, Outcome.rolls_showing htake,
      ih (by rw [List.length_drop]; omega), List.take_append_drop]

end Batch

end DiceLauncher
