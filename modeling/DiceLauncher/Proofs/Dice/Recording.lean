import DiceLauncher.Dice.Scripted
import DiceLauncher.Proofs.Dice.Requests

/-!
# Sources with a state

A source with a state answers a request by a face and a new state. `Source.recorded`
notes down what such a source is asked and what it answers, and else does the same.

Results:
* `run_mapM_recorded`: a record holds the requests with their answers.
* `Batch.run_roll_insertAll`: rolls that rest change nothing for the other rolls.
* `Batch.roll_exchanges`: what a batch asks of a source, and what becomes of the answers,
  for every source and every state.
-/

namespace DiceLauncher

/-! ## Specification -/

/-- The source with a record of its requests, each with its answer, in order. -/
def Source.recorded {σ : Type} (source : Source (StateM σ)) :
    Source (StateM (σ × List (UInt64 × UInt64))) :=
  fun sides state =>
    let (face, next) := source sides state.1
    (face, next, state.2 ++ [(sides, face)])

/-- Puts items into a list, one after the other, each at its place in the list so far. -/
def insertAll {α : Type} (items : List α) (insertions : List (Nat × α)) : List α :=
  insertions.foldl (fun items insertion => items.insertIdx insertion.1 insertion.2) items

/-! ## Runs of requests -/

section

variable {σ : Type} (source : Source (StateM σ))

theorem run_mapM_cons (sides : UInt64) (requests : List UInt64) (state : σ) :
    ((sides :: requests).mapM source).run state =
      ((source sides state).1 :: ((requests.mapM source).run (source sides state).2).1,
        ((requests.mapM source).run (source sides state).2).2) := by
  simp only [List.mapM_cons]
  rfl

theorem length_run_mapM (requests : List UInt64) (state : σ) :
    ((requests.mapM source).run state).1.length = requests.length := by
  induction requests generalizing state with
  | nil => rfl
  | cons sides requests ih => rw [run_mapM_cons, List.length_cons, ih, List.length_cons]

theorem recorded_apply (sides : UInt64) (state : σ) (exchanges : List (UInt64 × UInt64)) :
    source.recorded sides (state, exchanges) =
      ((source sides state).1, (source sides state).2,
        exchanges ++ [(sides, (source sides state).1)]) := rfl

/-- A record holds the requests with their answers, and recording changes nothing else. -/
theorem run_mapM_recorded (requests : List UInt64) (state : σ)
    (exchanges : List (UInt64 × UInt64)) :
    (requests.mapM source.recorded).run (state, exchanges) =
      (((requests.mapM source).run state).1, ((requests.mapM source).run state).2,
        exchanges ++ requests.zip ((requests.mapM source).run state).1) := by
  induction requests generalizing state exchanges with
  | nil => simp; rfl
  | cons sides requests ih =>
    simp only [run_mapM_cons, recorded_apply, ih, List.zip_cons_cons, List.append_assoc,
      List.singleton_append]

end

/-! ## Runs of batches -/

namespace Batch

variable {σ : Type} (source : Source (StateM σ))

theorem run_roll (batch : Batch) (state : σ) :
    (batch.roll source).run state =
      (⟨batch.deal ((batch.requests.mapM source).run state).1⟩,
        ((batch.requests.mapM source).run state).2) := by
  rw [roll_eq]
  rfl

theorem run_roll_recorded (batch : Batch) (state : σ) :
    (batch.roll source.recorded).run (state, []) =
      (((batch.roll source).run state).1, ((batch.roll source).run state).2,
        batch.requests.zip ((batch.requests.mapM source).run state).1) := by
  rw [run_roll, run_roll, run_mapM_recorded, List.nil_append]

theorem run_roll_insertIdx {spec : RollSpec} (h : spec.Rests) (batch : Batch) (i : Nat)
    (state : σ) :
    (roll source (batch.insertIdx i spec)).run state =
      (⟨((batch.roll source).run state).1.outcomes.insertIdx i (.showing spec [])⟩,
        ((batch.roll source).run state).2) := by
  rw [roll_insertIdx source h]
  rfl

/-- Rolls that rest can be put into a batch one after the other. -/
theorem run_roll_insertAll (batch : Batch) (insertions : List (Nat × RollSpec))
    (h : ∀ insertion ∈ insertions, insertion.2.Rests) (state : σ) :
    (roll source (insertAll batch insertions)).run state =
      (⟨insertAll ((batch.roll source).run state).1.outcomes
          (insertions.map fun insertion => (insertion.1, .showing insertion.2 []))⟩,
        ((batch.roll source).run state).2) := by
  induction insertions generalizing batch with
  | nil => rfl
  | cons insertion insertions ih =>
    obtain ⟨i, spec⟩ := insertion
    have hspec : spec.Rests := h (i, spec) List.mem_cons_self
    rw [insertAll, List.foldl_cons, ← insertAll,
      ih _ fun other hother => h other (List.mem_cons_of_mem _ hother),
      run_roll_insertIdx source hspec]
    rfl

/-- A batch asks its source for the dice of its rolls in order and for nothing else; the report
has one outcome for each roll, with as many of the answers as the roll asked for, in order; and
rolls that rest, put into the batch anywhere, neither change the other outcomes nor the state in
which the source is left. -/
theorem roll_exchanges (batch : Batch) (state : σ) :
    ∃ report final exchanges,
      (batch.roll source).run state = (report, final) ∧
      (batch.roll source.recorded).run (state, []) = (report, final, exchanges) ∧
      exchanges.map Prod.fst = batch.flatMap RollSpec.requests ∧
      exchanges.map Prod.snd = report.outcomes.flatMap Outcome.rolls ∧
      report.outcomes.map Outcome.spec = batch ∧
      (∀ outcome ∈ report.outcomes,
        (outcome.overLimit ↔ 5000 < outcome.spec.count.toNat) ∧
        outcome.rolls.length = outcome.spec.requests.length ∧ outcome.rolls.length ≤ 5000) ∧
      ∀ insertions : List (Nat × RollSpec), (∀ insertion ∈ insertions, insertion.2.Rests) →
        (roll source (insertAll batch insertions)).run state =
          (⟨insertAll report.outcomes
            (insertions.map fun insertion => (insertion.1, .showing insertion.2 []))⟩, final) := by
  have hlen := length_run_mapM source batch.requests state
  have hroll := run_roll source batch state
  have hrecorded := run_roll_recorded source batch state
  have hinsert := run_roll_insertAll source batch
  simp only [hroll] at hrecorded
  refine ⟨_, _, _, hroll, hrecorded, ?_, ?_, ?_, ?_, ?_⟩
  · rw [List.map_fst_zip (by omega)]
    rfl
  · rw [List.map_snd_zip (by omega), flatMap_rolls_deal hlen]
  · exact map_spec_deal _ _
  · intro outcome hmem
    obtain ⟨part, hpart, heq⟩ := exists_of_mem_deal hlen hmem
    have hrolls : outcome.rolls = part := by rw [heq, Outcome.rolls_showing hpart]
    have hlimit := Outcome.overLimit_showing outcome.spec part
    rw [← heq] at hlimit
    have hrolled : outcome.rolls.length = outcome.spec.requests.length := by rw [hrolls, hpart]
    exact ⟨hlimit, hrolled, hrolled ▸ outcome.spec.length_requests_le⟩
  · intro insertions h
    rw [hinsert insertions h state, hroll]

/-- Two rolls ask for three dice. With a roll without dice, one without faces and one over the
limit put between them, they ask for the same dice and show the same faces. -/
theorem roll_exchanges_scripted :
    let batch : Batch := [⟨2, 6, none⟩, ⟨1, 20, some (-3)⟩]
    let insertions : List (Nat × RollSpec) :=
      [(1, ⟨0, 4, none⟩), (0, ⟨5001, 6, some 1⟩), (2, ⟨3, 0, none⟩)]
    let script : Dice.Script := { faces := [3, 1] }
    ∃ report final exchanges,
      (batch.roll Dice.scripted).run script = (report, final) ∧
      (batch.roll Dice.scripted.recorded).run (script, []) = (report, final, exchanges) ∧
      exchanges = [(6, 3), (6, 1), (20, 3)] ∧ final.requests = [6, 6, 20] ∧
      report.outcomes =
        [⟨⟨2, 6, none⟩, some [3, 1]⟩, ⟨⟨1, 20, some (-3)⟩, some [3]⟩] ∧
      (∀ insertion ∈ insertions, insertion.2.Rests) ∧
      insertAll batch insertions =
        [⟨5001, 6, some 1⟩, ⟨2, 6, none⟩, ⟨3, 0, none⟩, ⟨0, 4, none⟩, ⟨1, 20, some (-3)⟩] ∧
      (roll Dice.scripted (insertAll batch insertions)).run script =
        (⟨[⟨⟨5001, 6, some 1⟩, none⟩, ⟨⟨2, 6, none⟩, some [3, 1]⟩, ⟨⟨3, 0, none⟩, some []⟩,
          ⟨⟨0, 4, none⟩, some []⟩, ⟨⟨1, 20, some (-3)⟩, some [3]⟩]⟩, final) := by
  intro batch insertions script
  obtain ⟨report, final, exchanges, hroll, hrecorded, -, -, -, -, hinsert⟩ :=
    roll_exchanges Dice.scripted batch script
  have hreport : report = ⟨[⟨⟨2, 6, none⟩, some [3, 1]⟩, ⟨⟨1, 20, some (-3)⟩, some [3]⟩]⟩ :=
    (congrArg Prod.fst hroll).symm.trans (by decide +kernel)
  have hrequests : final.requests = [6, 6, 20] :=
    (congrArg (fun rolled => rolled.2.requests) hroll).symm.trans (by decide +kernel)
  have hexchanges : exchanges = [(6, 3), (6, 1), (20, 3)] :=
    (congrArg (fun rolled => rolled.2.2) hrecorded).symm.trans (by decide +kernel)
  have hrests : ∀ insertion ∈ insertions, insertion.2.Rests := by
    simp [insertions, RollSpec.Rests]
  refine ⟨report, final, exchanges, hroll, hrecorded, hexchanges, hrequests,
    congrArg Report.outcomes hreport, hrests, by decide +kernel, ?_⟩
  rw [hinsert insertions hrests, hreport]
  rfl

end Batch

end DiceLauncher
