import DiceLauncher.Proofs.Outcome.Line
import DiceLauncher.Report

/-!
# The body of a report

The body of a report has a line for each outcome. Lines are read back from it, and an
outcome from each, so the body determines the report.

Results:
* `lines_body`, `splitOn_body`: the lines of a body.
* `not_mem_body`: characters that no body has.
* `body_injective`: reports with the same body are equal.
-/

namespace DiceLauncher

/-! ## Specification -/

/-- What stands in a body behind the lines of the outcomes: if there are several of them, an empty
line and the total. -/
def Report.totalLines (report : Report) : List String :=
  match report.grandTotal with
  | some total => ["", "Total: " ++ Decimal.renderInt total.toInt]
  | none => []

/-- The lines of a body: those of the outcomes and, for several outcomes, an empty line and the
total. -/
def Report.lines (report : Report) : List String :=
  report.outcomes.map Outcome.render ++ report.totalLines

namespace Report

/-! ## The lines of a body -/

theorem isSome_grandTotal_iff (report : Report) :
    report.grandTotal.isSome ↔ 1 < report.outcomes.length := by
  unfold grandTotal
  split_ifs with h <;> simp [h]

theorem body_eq (report : Report) : report.body = String.intercalate "\n" report.lines := by
  unfold body lines totalLines
  cases htotal : report.grandTotal with
  | none => simp
  | some total =>
    have hlen : 1 < report.outcomes.length := by
      rw [← isSome_grandTotal_iff, htotal]
      rfl
    have hne : report.outcomes.map Outcome.render ≠ [] := by
      rw [ne_eq, List.map_eq_nil_iff, ← List.length_eq_zero_iff]
      omega
    rw [String.intercalate_append_of_ne_nil hne (List.cons_ne_nil _ _),
      String.intercalate_cons_cons, String.intercalate_singleton]
    simp [← String.toList_inj]

/-- A character that is no digit and stands neither in the line of an outcome nor in the heading of
the total is in no line. -/
theorem not_mem_line {c : Char} (hdigit : c.isDigit = false)
    (hmark : c ∉ Outcome.lineMarks ++ "Total: ".toList) {report : Report} {line : String}
    (hline : line ∈ report.lines) : c ∉ line.toList := by
  rw [List.mem_append, not_or] at hmark
  unfold lines totalLines at hline
  rw [List.mem_append] at hline
  rcases hline with hline | hline
  · obtain ⟨outcome, -, rfl⟩ := List.mem_map.mp hline
    exact outcome.not_mem_render hdigit hmark.1
  · cases htotal : report.grandTotal with
    | none => simp [htotal] at hline
    | some total =>
      simp only [htotal, List.mem_cons, List.not_mem_nil, or_false] at hline
      rcases hline with rfl | rfl
      · simp
      · rw [String.toList_append, List.mem_append, not_or]
        refine ⟨hmark.2, fun hmem => ?_⟩
        rcases Outcome.isPlain_renderInt _ c hmem with h | h
        · simp [hdigit] at h
        · exact hmark.1 h

theorem not_mem_body {c : Char} (hdigit : c.isDigit = false)
    (hmark : c ∉ Outcome.lineMarks ++ "Total: ".toList) (hfeed : c ≠ '\n') (report : Report) :
    c ∉ report.body.toList := by
  intro hmem
  rw [body_eq] at hmem
  refine Text.forall_mem_intercalate (p := (· ≠ c)) ?_ (fun line hline d hd heq => ?_) c hmem rfl
  · simpa [eq_comm] using hfeed
  · exact not_mem_line hdigit hmark hline (heq ▸ hd)

theorem render_ne_empty (outcome : Outcome) : outcome.render ≠ "" := by
  intro h
  have hline := congrArg String.toList h
  simp [Outcome.toList_render] at hline

/-- A body ends in the line of an outcome or in the total, not in an empty line. -/
theorem getLast?_lines_ne (report : Report) : "" ∉ report.lines.getLast? := by
  unfold lines totalLines
  cases report.grandTotal with
  | none =>
    rw [List.append_nil]
    intro h
    obtain ⟨outcome, -, heq⟩ := List.mem_map.mp (List.mem_of_mem_getLast? h)
    exact render_ne_empty outcome heq
  | some total => simp [← String.toList_inj]

/-- What a terminal takes for the lines of a body. -/
theorem lines_body (report : Report) : Text.lines report.body = report.lines := by
  rw [body_eq]
  refine Text.lines_intercalate (fun line hline => ?_) report.getLast?_lines_ne
  exact ⟨not_mem_line (by decide) (by decide) hline, not_mem_line (by decide) (by decide) hline⟩

/-- What stands between the line feeds of a body. -/
theorem splitOn_body {report : Report} (h : report.outcomes ≠ []) :
    (report.body.toList.splitOn '\n').map String.ofList = report.lines := by
  have hfeed : "\n".toList = ['\n'] := rfl
  rw [body_eq, String.toList_intercalate, hfeed, List.splitOn_intercalate, List.map_map]
  · simp [Function.comp_def]
  · intro text htext
    obtain ⟨line, hline, rfl⟩ := List.mem_map.mp htext
    exact not_mem_line (by decide) (by decide) hline
  · simp [lines, h]

/-! ## Reading a body back -/

/-- The lines of the outcomes are those before the first empty line. -/
theorem takeWhile_lines (report : Report) :
    report.lines.takeWhile (· != "") = report.outcomes.map Outcome.render := by
  unfold lines totalLines
  rw [List.takeWhile_append_of_pos]
  · cases report.grandTotal <;> simp
  · intro line hline
    obtain ⟨outcome, -, rfl⟩ := List.mem_map.mp hline
    simpa using render_ne_empty outcome

theorem body_injective : Function.Injective body := by
  intro a b h
  have hlines : a.lines = b.lines := by rw [← lines_body, h, lines_body]
  have hrender : a.outcomes.map Outcome.render = b.outcomes.map Outcome.render := by
    rw [← takeWhile_lines, hlines, takeWhile_lines]
  have houtcomes : a.outcomes = b.outcomes :=
    List.map_injective_iff.mpr Outcome.render_injective hrender
  obtain ⟨outcomes⟩ := a
  obtain ⟨others⟩ := b
  exact congrArg mk houtcomes

end Report

end DiceLauncher
