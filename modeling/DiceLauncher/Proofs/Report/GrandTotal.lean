import DiceLauncher.Proofs.Saturation
import DiceLauncher.Report

/-!
# Grand totals

The grand total of a report adds its subtotals one by one with saturation, which is not
the same as clamping their exact sum: `2 ^ 63 - 1`, `1` and `-1` add up to
`2 ^ 63 - 2`. The two agree for the reports whose subtotals recover, and of these the
grand total does not depend on the order of the outcomes.

Results:
* `grandTotal_eq_clamp_iff`: when the grand total is the clamped sum of the subtotals.
* `grandTotal_perm_of_nonneg`: without negative subtotals the order does not matter.
-/

namespace DiceLauncher.Report

open Saturation

/-- What the outcomes add up to, each by itself. -/
def subtotals (report : Report) : List Int64 := report.outcomes.map Outcome.subtotal

theorem grandTotal_eq {report : Report} (h : 1 < report.outcomes.length) :
    report.grandTotal = some (total report.subtotals) := by
  rw [grandTotal, if_pos h, total, subtotals, List.foldl_map]

/-- Another order of outcomes whose subtotals recover has the same grand total if the subtotals
recover in that order too, and only then. -/
theorem grandTotal_perm_iff {report other : Report}
    (hperm : other.outcomes.Perm report.outcomes) (h : 1 < report.outcomes.length)
    (hrec : Recovers report.subtotals) :
    other.grandTotal = report.grandTotal ↔ Recovers other.subtotals := by
  have hlen : 1 < other.outcomes.length := by rw [hperm.length_eq]; exact h
  have hsum : exactSum other.subtotals = exactSum report.subtotals := exactSum_perm (hperm.map _)
  have htotal : total report.subtotals = clamp (exactSum report.subtotals) :=
    (total_eq_clamp_iff _).2 hrec
  rw [grandTotal_eq h, grandTotal_eq hlen, Option.some_inj, htotal, ← hsum, total_eq_clamp_iff]

theorem grandTotal_perm_of_nonneg {report other : Report}
    (hperm : other.outcomes.Perm report.outcomes) (h : 1 < report.outcomes.length)
    (hnonneg : ∀ subtotal ∈ report.subtotals, 0 ≤ subtotal.toInt) :
    other.grandTotal = report.grandTotal := by
  refine (grandTotal_perm_iff hperm h (.of_nonneg hnonneg)).2 (.of_nonneg fun subtotal hmem => ?_)
  exact hnonneg subtotal ((hperm.map Outcome.subtotal).mem_iff.1 hmem)

/-- A report of several outcomes has a grand total; it is the exact sum of the subtotals, clamped
once, if and only if the subtotals recover. It is then exact if that sum fits, and another order
of the outcomes has the same grand total if and only if the subtotals recover in that order. -/
theorem grandTotal_eq_clamp_iff {report : Report} (h : 1 < report.outcomes.length) :
    ∃ sum, report.grandTotal = some sum ∧
      (sum = clamp (exactSum report.subtotals) ↔ Recovers report.subtotals) ∧
      (Recovers report.subtotals →
        (least ≤ exactSum report.subtotals → exactSum report.subtotals ≤ greatest →
          sum.toInt = exactSum report.subtotals) ∧
        ∀ other : Report, other.outcomes.Perm report.outcomes →
          (other.grandTotal = some sum ↔ Recovers other.subtotals)) := by
  refine ⟨_, grandTotal_eq h, total_eq_clamp_iff _, fun hrec => ⟨fun hleast hgreatest => ?_, ?_⟩⟩
  · rw [(total_eq_clamp_iff _).2 hrec, toInt_clamp]
    omega
  · intro other hperm
    rw [← grandTotal_eq h, grandTotal_perm_iff hperm h hrec]

/-- The outcomes of `0d6+9223372036854775807 0d6+1 0d6-1`. -/
def overshooting : Report :=
  ⟨[.ofRolls ⟨0, 6, some Int64.maxValue⟩ [], .ofRolls ⟨0, 6, some 1⟩ [],
    .ofRolls ⟨0, 6, some (-1)⟩ []]⟩

/-- The subtotals do not recover in this order, and they do in the opposite one. -/
theorem grandTotal_eq_clamp_iff_overshooting :
    1 < overshooting.outcomes.length ∧ ¬ Recovers overshooting.subtotals ∧
      Recovers (subtotals ⟨overshooting.outcomes.reverse⟩) := by
  refine ⟨by decide, fun hrec => ?_, ?_⟩
  · obtain ⟨sum, hsum, hiff, -⟩ := @grandTotal_eq_clamp_iff overshooting (by decide)
    rw [← hiff] at hrec
    exact absurd (hsum.trans (congrArg some hrec)) (by decide)
  · obtain ⟨sum, hsum, hiff, -⟩ :=
      @grandTotal_eq_clamp_iff ⟨overshooting.outcomes.reverse⟩ (by decide)
    rw [← hiff, ← Option.some_inj, ← hsum]
    decide

/-- The exact sum fits, the grand total misses it, and in the opposite order it does not. -/
theorem grandTotal_overshooting :
    1 < overshooting.outcomes.length ∧ exactSum overshooting.subtotals = 2 ^ 63 - 1 ∧
      overshooting.grandTotal ≠ some (clamp (exactSum overshooting.subtotals)) ∧
      overshooting.grandTotal = some (Int64.maxValue - 1) ∧
      grandTotal ⟨overshooting.outcomes.reverse⟩ = some Int64.maxValue := by
  decide

end DiceLauncher.Report
