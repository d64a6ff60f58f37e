import DiceLauncher.Proofs.Dice.Drawing
import DiceLauncher.Proofs.Dice.Recording
import DiceLauncher.Proofs.Report.GrandTotal

/-!
# Totals that are exact

Dice show no more than their sides, so before a batch is thrown it is known how far its rolls
can lead away from zero: `Batch.reach` adds up the sizes of the modifiers and the greatest
faces of the dice. If that is in the range of the totals then no addition leaves the range,
neither within an outcome nor between outcomes, whatever the dice show and whatever the order
of the outcomes.

Results:
* `Outcome.addsUp_of_canShow`: the additions within an outcome.
* `Report.addsExactly_subtotals`, `Report.toInt_total_subtotals`: the additions between outcomes.
* `Batch.roll_adds_up`: the subtotals and the grand total of a batch that is thrown with dice
  that show faces of theirs.
-/

namespace DiceLauncher

open Saturation

/-! ## Specification -/

/-- How far a roll can lead away from zero: by the size of its modifier and by the greatest faces
of the dice that are thrown for it. -/
def RollSpec.reach (spec : RollSpec) : Nat :=
  spec.offset.toInt.natAbs +
    if 5000 < spec.count.toNat then 0 else spec.count.toNat * spec.sides.toNat

/-- How far the rolls of a batch can lead away from zero together. -/
def Batch.reach (batch : Batch) : Nat := (batch.map RollSpec.reach).sum

/-- What faces add up to. -/
def faceSum (faces : List UInt64) : Nat := (faces.map UInt64.toNat).sum

/-- Nothing is lost when the subtotal of an outcome is computed. -/
structure Outcome.AddsUp (outcome : Outcome) : Prop where
  /-- Every face is a number of the range. -/
  faces : ∀ face ∈ outcome.rolls, (ofWord face).toInt = face.toNat
  /-- No face leads out of the range when it is added. -/
  additions : AddsExactly outcome.spec.offset (outcome.rolls.map ofWord)

/-! ## Faces -/

@[simp] theorem faceSum_cons (face : UInt64) (faces : List UInt64) :
    faceSum (face :: faces) = face.toNat + faceSum faces := by
  simp [faceSum]

@[simp] theorem faceSum_append (faces others : List UInt64) :
    faceSum (faces ++ others) = faceSum faces + faceSum others := by
  simp [faceSum]

theorem toNat_le_faceSum {face : UInt64} {faces : List UInt64} (h : face ∈ faces) :
    face.toNat ≤ faceSum faces :=
  List.le_sum_of_mem (List.mem_map_of_mem h)

theorem Saturation.toInt_ofWord {face : UInt64} (h : face.toNat ≤ 2 ^ 63 - 1) :
    (ofWord face).toInt = face.toNat := by
  rw [ofWord, toInt_clamp, least, greatest]; omega

theorem Saturation.exactSum_map_ofWord {faces : List UInt64}
    (h : ∀ face ∈ faces, (ofWord face).toInt = face.toNat) :
    exactSum (faces.map ofWord) = faceSum faces := by
  induction faces with
  | nil => rfl
  | cons face faces ih =>
    rw [List.map_cons, exactSum_cons, h face List.mem_cons_self,
      ih fun other hother => h other (List.mem_cons_of_mem _ hother), faceSum_cons, Nat.cast_add]

theorem Saturation.magnitude_map_ofWord {faces : List UInt64}
    (h : ∀ face ∈ faces, (ofWord face).toInt = face.toNat) :
    magnitude (faces.map ofWord) = faceSum faces := by
  rw [magnitude, faceSum, List.map_map]
  congr 1
  refine List.map_congr_left fun face hface => ?_
  rw [Function.comp_apply, h face hface, Int.natAbs_natCast]

/-- The dice of a roll show no more than their sides, and none are thrown if they are too many. -/
theorem RollSpec.CanShow.faceSum_le {spec : RollSpec} {faces : List UInt64}
    (h : spec.CanShow faces) : spec.offset.toInt.natAbs + faceSum faces ≤ spec.reach := by
  have hsum : faceSum faces ≤ faces.length * spec.sides.toNat := by
    have hcard : (faces.map UInt64.toNat).sum ≤
        (faces.map UInt64.toNat).length • spec.sides.toNat := by
      refine List.sum_le_card_nsmul _ _ fun n hn => ?_
      obtain ⟨face, hface, rfl⟩ := List.mem_map.mp hn
      exact (h.range face hface).2
    simpa [faceSum] using hcard
  rw [h.length] at hsum
  unfold reach
  split_ifs at hsum ⊢ with hthrown hlimit
  · omega
  · omega
  · omega
  · have : 0 ≤ spec.count.toNat * spec.sides.toNat := Nat.zero_le _
    omega

/-! ## Within an outcome -/

namespace Outcome

theorem subtotal_eq (outcome : Outcome) :
    outcome.subtotal = (outcome.rolls.map ofWord).foldl add outcome.spec.offset := by
  rw [subtotal, List.foldl_map]

theorem AddsUp.toInt_subtotal {outcome : Outcome} (h : outcome.AddsUp) :
    outcome.subtotal.toInt = outcome.spec.offset.toInt + faceSum outcome.rolls := by
  rw [subtotal_eq, h.additions.toInt_foldl, exactSum_map_ofWord h.faces]

theorem addsUp_of_canShow {outcome : Outcome} (hshow : outcome.spec.CanShow outcome.rolls)
    (hreach : outcome.spec.reach ≤ 2 ^ 63 - 1) : outcome.AddsUp := by
  have hle := hshow.faceSum_le
  have hfaces : ∀ face ∈ outcome.rolls, (ofWord face).toInt = face.toNat := by
    intro face hface
    have := toNat_le_faceSum hface
    exact toInt_ofWord (by omega)
  refine ⟨hfaces, addsExactly_of_magnitude_le ?_⟩
  rw [magnitude_map_ofWord hfaces]
  omega

/-- A subtotal leads no farther away from zero than its roll can. -/
theorem natAbs_subtotal_le {outcome : Outcome} (hshow : outcome.spec.CanShow outcome.rolls)
    (hreach : outcome.spec.reach ≤ 2 ^ 63 - 1) :
    outcome.subtotal.toInt.natAbs ≤ outcome.spec.reach := by
  have hle := hshow.faceSum_le
  rw [(addsUp_of_canShow hshow hreach).toInt_subtotal]
  omega

end Outcome

/-! ## Between outcomes -/

theorem RollSpec.reach_le_of_mem {spec : RollSpec} {batch : Batch} (h : spec ∈ batch) :
    spec.reach ≤ batch.reach :=
  List.le_sum_of_mem (List.mem_map_of_mem h)

namespace Report

section

variable {report : Report} (hshow : ∀ outcome ∈ report.outcomes, outcome.spec.CanShow outcome.rolls)
  (hreach : Batch.reach (report.outcomes.map Outcome.spec) ≤ 2 ^ 63 - 1)

include hreach in
theorem reach_le_of_mem {outcome : Outcome} (h : outcome ∈ report.outcomes) :
    outcome.spec.reach ≤ 2 ^ 63 - 1 :=
  (RollSpec.reach_le_of_mem (List.mem_map_of_mem h)).trans hreach

include hshow hreach

theorem magnitude_subtotals_le : magnitude report.subtotals ≤ 2 ^ 63 - 1 := by
  refine le_trans ?_ hreach
  rw [magnitude, subtotals, Batch.reach, List.map_map, List.map_map]
  refine List.sum_le_sum fun outcome hmem => ?_
  exact outcome.natAbs_subtotal_le (hshow outcome hmem) (reach_le_of_mem hreach hmem)

theorem addsExactly_subtotals : AddsExactly 0 report.subtotals := by
  refine addsExactly_of_magnitude_le ?_
  rw [Int64.toInt_zero, Int.natAbs_zero, Nat.zero_add]
  exact magnitude_subtotals_le hshow hreach

theorem toInt_total_subtotals : (total report.subtotals).toInt = exactSum report.subtotals := by
  rw [total, (addsExactly_subtotals hshow hreach).toInt_foldl, Int64.toInt_zero, Int.zero_add]

/-- The subtotals together have all modifiers and all faces. -/
theorem exactSum_subtotals :
    exactSum report.subtotals =
      ((report.outcomes.map Outcome.spec).map fun spec => spec.offset.toInt).sum +
        faceSum (report.outcomes.flatMap Outcome.rolls) := by
  have hsubtotal : ∀ outcome ∈ report.outcomes,
      outcome.subtotal.toInt = outcome.spec.offset.toInt + faceSum outcome.rolls := by
    intro outcome hmem
    have hspec := reach_le_of_mem hreach hmem
    exact (Outcome.addsUp_of_canShow (hshow outcome hmem) hspec).toInt_subtotal
  clear hshow hreach
  obtain ⟨outcomes⟩ := report
  induction outcomes with
  | nil => rfl
  | cons outcome outcomes ih =>
    have hothers := ih fun other hother => hsubtotal other (List.mem_cons_of_mem _ hother)
    simp only [subtotals, List.map_cons, exactSum_cons, List.flatMap_cons, faceSum_append,
      List.sum_cons, Nat.cast_add, hsubtotal outcome List.mem_cons_self] at hothers ⊢
    rw [hothers]
    omega

end

/-- Outcomes that can be added up exactly can be so in every order, with the same grand total. -/
theorem grandTotal_perm_of_reach {report other : Report}
    (hshow : ∀ outcome ∈ report.outcomes, outcome.spec.CanShow outcome.rolls)
    (hreach : Batch.reach (report.outcomes.map Outcome.spec) ≤ 2 ^ 63 - 1)
    (hperm : other.outcomes.Perm report.outcomes) :
    AddsExactly 0 other.subtotals ∧ other.grandTotal = report.grandTotal := by
  have hshow' : ∀ outcome ∈ other.outcomes, outcome.spec.CanShow outcome.rolls :=
    fun outcome hmem => hshow outcome (hperm.mem_iff.mp hmem)
  have hreach' : Batch.reach (other.outcomes.map Outcome.spec) ≤ 2 ^ 63 - 1 := by
    rwa [Batch.reach, ((hperm.map Outcome.spec).map RollSpec.reach).sum_eq]
  have htotal : total other.subtotals = total report.subtotals := by
    rw [← Int64.toInt_inj, toInt_total_subtotals hshow' hreach',
      toInt_total_subtotals hshow hreach]
    exact exactSum_perm (hperm.map Outcome.subtotal)
  refine ⟨addsExactly_subtotals hshow' hreach', ?_⟩
  by_cases hlength : 1 < report.outcomes.length
  · rw [grandTotal_eq hlength, grandTotal_eq (by rwa [hperm.length_eq]), htotal]
  · rw [grandTotal, grandTotal, if_neg hlength, if_neg (by rwa [hperm.length_eq])]

end Report

/-! ## Batches -/

namespace Batch

variable {σ : Type} {source : Source (StateM σ)} {batch : Batch} {state : σ}

/-- Answers that are faces of the dice asked for are faces of the dice of each roll. -/
theorem canShow_of_exchanges
    (h : ∀ exchange ∈ ((batch.roll source.recorded).run (state, [])).2.2,
      Dice.HasFace exchange.1 exchange.2) :
    ∀ outcome ∈ ((batch.roll source).run state).1.outcomes,
      outcome.spec.CanShow outcome.rolls := by
  have hanswers : List.Forall₂ Dice.HasFace batch.requests
      ((batch.requests.mapM source).run state).1 := by
    rw [run_roll_recorded] at h
    rw [List.forall₂_iff_zip]
    exact ⟨(length_run_mapM source batch.requests state).symm, fun hmem => h _ hmem⟩
  intro outcome hmem
  rw [run_roll] at hmem
  exact canShow_of_mem_deal hanswers hmem

/-- A batch that cannot lead out of the range is thrown from a source that answers each request by
a face of the die. Then no addition leaves the range: every subtotal is the sum of its modifier
and its faces, the grand total of several rolls is the sum of all modifiers and all faces, and it
is the same in every order of the outcomes. -/
theorem roll_adds_up (hreach : batch.reach ≤ 2 ^ 63 - 1)
    (hfaces : ∀ exchange ∈ ((batch.roll source.recorded).run (state, [])).2.2,
      Dice.HasFace exchange.1 exchange.2) :
    ∃ report final, (batch.roll source).run state = (report, final) ∧
      report.outcomes.map Outcome.spec = batch ∧
      (∀ outcome ∈ report.outcomes, outcome.AddsUp ∧
        outcome.subtotal.toInt = outcome.spec.offset.toInt + faceSum outcome.rolls) ∧
      AddsExactly 0 report.subtotals ∧
      (1 < batch.length → ∃ sum, report.grandTotal = some sum ∧
        sum.toInt = (batch.map fun spec => spec.offset.toInt).sum +
          faceSum (report.outcomes.flatMap Outcome.rolls)) ∧
      ∀ other : Report, other.outcomes.Perm report.outcomes →
        AddsExactly 0 other.subtotals ∧ other.grandTotal = report.grandTotal := by
  have hshow := canShow_of_exchanges hfaces
  obtain ⟨report, hreport⟩ : ∃ report, ((batch.roll source).run state).1 = report := ⟨_, rfl⟩
  have hspecs : report.outcomes.map Outcome.spec = batch := by
    rw [← hreport, run_roll, map_spec_deal]
  have hfits : Batch.reach (report.outcomes.map Outcome.spec) ≤ 2 ^ 63 - 1 := by rwa [hspecs]
  rw [hreport] at hshow
  refine ⟨report, _, Prod.ext hreport rfl, hspecs, fun outcome hmem => ?_,
    Report.addsExactly_subtotals hshow hfits, fun hlength => ?_,
    fun other hperm => Report.grandTotal_perm_of_reach hshow hfits hperm⟩
  · have hup := Outcome.addsUp_of_canShow (hshow outcome hmem) (Report.reach_le_of_mem hfits hmem)
    exact ⟨hup, hup.toInt_subtotal⟩
  · rw [← hspecs, List.length_map] at hlength
    refine ⟨_, Report.grandTotal_eq hlength, ?_⟩
    rw [Report.toInt_total_subtotals hshow hfits, Report.exactSum_subtotals hshow hfits, hspecs]

/-- The dice show their greatest and their least face in turn; the second roll has too many. -/
theorem roll_adds_up_mixed :
    let batch : Batch := [⟨2, 6, some (-3)⟩, ⟨5001, 4, none⟩, ⟨1, 9000000000000000000, some 5⟩]
    let source : Source (StateM Nat) := fun sides n => (if n % 2 = 0 then sides else 1, n + 1)
    batch.reach ≤ 2 ^ 63 - 1 ∧
    (∀ exchange ∈ ((batch.roll source.recorded).run (0, [])).2.2,
      Dice.HasFace exchange.1 exchange.2) ∧
    ∃ report final, (batch.roll source).run 0 = (report, final) ∧
      ∃ sum, report.grandTotal = some sum ∧
        sum.toInt = (batch.map fun spec => spec.offset.toInt).sum +
          faceSum (report.outcomes.flatMap Outcome.rolls) := by
  intro batch source
  have hreach : batch.reach ≤ 2 ^ 63 - 1 := by decide
  have hfaces : ∀ exchange ∈ ((batch.roll source.recorded).run (0, [])).2.2,
      Dice.HasFace exchange.1 exchange.2 := by
    have hexchanges : ((batch.roll source.recorded).run (0, [])).2.2 =
        [(6, 6), (6, 1), (9000000000000000000, 9000000000000000000)] := rfl
    rw [hexchanges]
    simp [Dice.HasFace]
  obtain ⟨report, final, hrun, -, -, -, htotal, -⟩ := roll_adds_up hreach hfaces
  exact ⟨hreach, hfaces, report, final, hrun, htotal (by decide)⟩

end Batch

end DiceLauncher
