import DiceLauncher.Proofs.Report.Body
import DiceLauncher.Terminal.Screen

/-!
# What is logged and shown of a report

A trigger logs the body of its report on one line, in which a bar stands for a line feed, and hands
it to the screen, which marks each of its lines up as code. No line of a body has a bar, so the
log loses nothing; and none has a mark, so each line is read as the one piece of code that it is.

Results:
* `oneLine_body`: a body on one line.
* `oneLine_injOn`: a text without bars is known from its form on one line.
* `Screen.markedUp_rolling`, `Screen.notificationLines_rolling`: the notification of a roll, marked
  up, and its lines in their parts.
* `Report.body_determines`: what a body, its form on one line and its notification tell about a
  report.
-/

namespace DiceLauncher

/-! ## One line -/

/-- What stands for a character when a text is put on one line. -/
def barred (c : Char) : List Char := if c == '\n' then [' ', '|', ' '] else [c]

theorem toList_oneLine (body : String) : (oneLine body).toList = body.toList.flatMap barred := by
  rw [oneLine, String.toList_ofList]
  rfl

@[simp] theorem barred_feed : barred '\n' = [' ', '|', ' '] := rfl

theorem barred_of_ne {c : Char} (h : c ≠ '\n') : barred c = [c] := by
  rw [barred, if_neg (by simpa using h)]

theorem feed_not_mem_barred (c : Char) : '\n' ∉ barred c := by
  by_cases hc : c = '\n'
  · rw [hc, barred_feed]
    decide
  · rw [barred_of_ne hc, List.mem_singleton]
    exact Ne.symm hc

/-- There is no line feed on one line. -/
theorem feed_not_mem_oneLine (body : String) : '\n' ∉ (oneLine body).toList := by
  rw [toList_oneLine, List.mem_flatMap]
  rintro ⟨c, -, hc⟩
  exact feed_not_mem_barred c hc

theorem flatMap_barred_of_not_mem {text : List Char} (h : '\n' ∉ text) :
    text.flatMap barred = text := by
  induction text with
  | nil => rfl
  | cons c text ih =>
    rw [List.mem_cons, not_or] at h
    rw [List.flatMap_cons, barred_of_ne (Ne.symm h.1), ih h.2, List.singleton_append]

/-- On one line, bars stand between lines that were joined by line feeds. -/
theorem oneLine_intercalate {lines : List String} (h : ∀ line ∈ lines, '\n' ∉ line.toList) :
    oneLine (String.intercalate "\n" lines) = String.intercalate " | " lines := by
  rw [← String.toList_inj, toList_oneLine]
  induction lines with
  | nil => rfl
  | cons line lines ih =>
    rw [List.forall_mem_cons] at h
    cases lines with
    | nil => simpa using flatMap_barred_of_not_mem h.1
    | cons other lines =>
      have hfeed : "\n".toList.flatMap barred = " | ".toList := rfl
      simp only [String.intercalate_cons_cons, String.toList_append, List.flatMap_append,
        flatMap_barred_of_not_mem h.1, hfeed, ih h.2]

theorem barred_ne_nil (c : Char) : barred c ≠ [] := by
  unfold barred
  split_ifs <;> simp

/-- A bar is always the second character of what stands for a line feed. -/
theorem flatMap_barred_ne_bar {text : List Char} (h : '|' ∉ text) (rest : List Char) :
    text.flatMap barred ≠ '|' :: rest := by
  cases text with
  | nil => simp
  | cons c text =>
    rw [List.mem_cons, not_or] at h
    by_cases hc : c = '\n'
    · simp [hc]
    · rw [List.flatMap_cons, barred_of_ne hc]
      simp [Ne.symm h.1]

theorem feed_ne_of_flatMap_barred {c : Char} {text : List Char} (h : '|' ∉ text) (hc : c ≠ '\n')
    (rest : List Char) : barred '\n' ++ rest ≠ barred c ++ text.flatMap barred := by
  rw [barred_of_ne hc, barred_feed]
  intro heq
  simp only [List.cons_append, List.nil_append, List.cons.injEq] at heq
  exact flatMap_barred_ne_bar h _ heq.2.symm

theorem flatMap_barred_injective {a b : List Char} (ha : '|' ∉ a) (hb : '|' ∉ b)
    (h : a.flatMap barred = b.flatMap barred) : a = b := by
  induction a generalizing b with
  | nil =>
    cases b with
    | nil => rfl
    | cons d b => simp [barred_ne_nil] at h
  | cons c a ih =>
    cases b with
    | nil => simp [barred_ne_nil] at h
    | cons d b =>
      rw [List.mem_cons, not_or] at ha hb
      rw [List.flatMap_cons, List.flatMap_cons] at h
      by_cases hc : c = '\n' <;> by_cases hd : d = '\n'
      · rw [hc, hd] at h ⊢
        rw [ih ha.2 hb.2 (List.append_cancel_left h)]
      · rw [hc] at h
        exact absurd h (feed_ne_of_flatMap_barred hb.2 hd _)
      · rw [hd] at h
        exact absurd h.symm (feed_ne_of_flatMap_barred ha.2 hc _)
      · rw [barred_of_ne hc, barred_of_ne hd, List.singleton_append, List.singleton_append,
          List.cons.injEq] at h
        rw [h.1, ih ha.2 hb.2 h.2]

/-- A text without bars is known from its form on one line. -/
theorem oneLine_injOn : Set.InjOn oneLine {body | '|' ∉ body.toList} := by
  intro a ha b hb h
  have hlist := congrArg String.toList h
  rw [toList_oneLine, toList_oneLine] at hlist
  exact String.toList_inj.mp (flatMap_barred_injective ha hb hlist)

/-! ## Notifications -/

namespace Screen

theorem markedLine_eq (line : String) :
    markedLine line = if line = "" then "" else "`" ++ line ++ "`" := by
  unfold markedLine
  by_cases h : line = "" <;> simp [h]

theorem toList_markedLine (line : String) :
    (markedLine line).toList = if line = "" then [] else '`' :: (line.toList ++ ['`']) := by
  rw [markedLine_eq]
  split_ifs
  · rfl
  · simp

theorem markedLine_eq_empty_iff {line : String} : markedLine line = "" ↔ line = "" := by
  rw [← String.toList_inj, toList_markedLine]
  split_ifs with h <;> simp [h]

theorem not_mem_markedLine {c : Char} (hc : c ≠ '`') {line : String} (h : c ∉ line.toList) :
    c ∉ (markedLine line).toList := by
  rw [toList_markedLine]
  split_ifs
  · exact List.not_mem_nil
  · simp [hc, h]

/-- A line without marks is one piece of code when it is marked up. -/
theorem parts_markedLine {line : String} (h : Markup.IsUnmarked line.toList) :
    Markup.parts (markedLine line).toList = if line = "" then [] else [⟨.code, line.toList⟩] := by
  rw [toList_markedLine]
  split_ifs with hempty
  · rfl
  · exact Markup.parts_code h (by simpa using hempty)

/-- The marked-up text for a roll: below the title, the lines of the body between backticks. -/
theorem markedUp_rolling (report : Report) :
    markedUp (.rolling report.body) =
      "**Rolling...**" ++ "\n" ++ String.intercalate "\n" (report.lines.map markedLine) := by
  have hheadline : "**" ++ Catalog.rolling ++ "**" = "**Rolling...**" := by decide +kernel
  rw [markedUp, Notification.title_rolling, Notification.body_rolling, report.lines_body, hheadline]

/-- Below the title, the notification of a roll has the lines of the body, each of them one piece of
code. -/
theorem notificationLines_rolling (report : Report) :
    notificationLines (.rolling report.body) =
      [⟨.bold, "Rolling...".toList⟩] ::
        report.lines.map fun line => if line = "" then [] else [⟨.code, line.toList⟩] := by
  have hchar {c : Char} (hdigit : c.isDigit = false)
      (hmark : c ∉ Outcome.lineMarks ++ "Total: ".toList) :
      ∀ line ∈ report.lines, c ∉ line.toList :=
    fun line hline => Report.not_mem_line hdigit hmark hline
  have hbelow : Text.lines (String.intercalate "\n" (report.lines.map markedLine)) =
      report.lines.map markedLine := by
    apply Text.lines_intercalate
    · intro part hpart
      obtain ⟨line, hline, rfl⟩ := List.mem_map.mp hpart
      exact ⟨not_mem_markedLine (by decide) (hchar (by decide) (by decide) line hline),
        not_mem_markedLine (by decide) (hchar (by decide) (by decide) line hline)⟩
    · rw [List.getLast?_map]
      intro hlast
      obtain ⟨line, hline, hempty⟩ := Option.map_eq_some_iff.mp hlast
      rw [markedLine_eq_empty_iff] at hempty
      exact report.getLast?_lines_ne (hempty ▸ hline)
  have hheadline : Markup.parts "**Rolling...**".toList = [⟨.bold, "Rolling...".toList⟩] := by
    have hrolling : Markup.IsUnmarked "Rolling...".toList := ⟨by decide, by decide⟩
    exact Markup.parts_bold hrolling (by decide)
  rw [notificationLines, markedUp_rolling, Text.lines_append_feed (by decide) (by decide), hbelow,
    List.map_cons, hheadline, List.map_map]
  congr 1
  refine List.map_congr_left fun line hline => ?_
  exact parts_markedLine ⟨hchar (by decide) (by decide) line hline,
    hchar (by decide) (by decide) line hline⟩

end Screen

/-! ## Reports -/

namespace Report

/-- A body on one line: its lines with bars between them. -/
theorem oneLine_body (report : Report) :
    oneLine report.body = String.intercalate " | " report.lines := by
  rw [body_eq]
  exact oneLine_intercalate fun line => not_mem_line (by decide) (by decide)

theorem oneLine_body_injective : Function.Injective fun report : Report => oneLine report.body := by
  intro a b h
  have hbar (report : Report) : report.body ∈ {body | '|' ∉ body.toList} :=
    report.not_mem_body (by decide) (by decide) (by decide)
  exact body_injective (oneLine_injOn (hbar a) (hbar b) h)

/-- The body of a report determines the report. Split at its line feeds, the body of a report with
outcomes is the lines of the outcomes, with an empty line and the total behind them exactly if there
are several. No line of an outcome is empty or has a line feed, a backtick or a bar. So the record
of a roll has all of these lines on one line, with bars between them, and determines the report as
well; and for the notification of a roll each of them is put between backticks, and then read and
printed as one piece of code. -/
theorem body_determines :
    Function.Injective body ∧
    (∀ report : Report, report.outcomes ≠ [] →
      (report.body.toList.splitOn '\n').map String.ofList = report.lines ∧
      (report.grandTotal.isSome ↔ 1 < report.outcomes.length)) ∧
    (∀ outcome : Outcome, outcome.render ≠ "" ∧ '\n' ∉ outcome.render.toList ∧
      '`' ∉ outcome.render.toList ∧ '|' ∉ outcome.render.toList) ∧
    (∀ (batch : Batch) (report : Report),
      batch.rolledRecord report.body = Log.debug ("Rolled `" ++ batch.title ++ "` into `" ++
        String.intercalate " | " report.lines ++ "`")) ∧
    (∀ report : Report, oneLine report.body = String.intercalate " | " report.lines ∧
      '\n' ∉ (oneLine report.body).toList) ∧
    (Function.Injective fun report : Report => oneLine report.body) ∧
    ∀ report : Report,
      Screen.markedUp (.rolling report.body) = "**Rolling...**" ++ "\n" ++
        String.intercalate "\n"
          (report.lines.map fun line => if line = "" then "" else "`" ++ line ++ "`") ∧
      let lines := [⟨.bold, "Rolling...".toList⟩] ::
        report.lines.map fun line => if line = "" then [] else [⟨.code, line.toList⟩]
      (Text.lines (Screen.markedUp (.rolling report.body))).map
        (fun line => Markup.parts line.toList) = lines ∧
      Screen.notification (.rolling report.body) =
        String.join (lines.map Screen.paintLine) ++ "\n" := by
  refine ⟨body_injective, fun report hne => ⟨splitOn_body hne, report.isSome_grandTotal_iff⟩,
    fun outcome => ?_, fun batch report => ?_, fun report => ?_, oneLine_body_injective,
    fun report => ⟨?_, Screen.notificationLines_rolling report, ?_⟩⟩
  · exact ⟨render_ne_empty outcome, outcome.not_mem_render (by decide) (by decide),
      outcome.not_mem_render (by decide) (by decide),
      outcome.not_mem_render (by decide) (by decide)⟩
  · rw [Batch.rolledRecord, oneLine_body]
  · exact ⟨oneLine_body report, feed_not_mem_oneLine report.body⟩
  · rw [Screen.markedUp_rolling, List.map_congr_left fun line _ => Screen.markedLine_eq line]
  · rw [Screen.notification, Screen.notificationLines_rolling]

/-- A report of two outcomes, one of them over the limit: its body, the body on one line, the text
that is marked up, and what the terminal prints. -/
theorem body_determines_over_limit :
    let report : Report := ⟨[.ofRolls ⟨2, 6, some (-1)⟩ [3, 4], ⟨⟨5001, 6, none⟩, none⟩]⟩
    let lines := ["2d6: 3, 4 (-1) = 6", "5001d6: not rolled, over 5000 dice", "", "Total: 6"]
    report.outcomes ≠ [] ∧
    report.body = "2d6: 3, 4 (-1) = 6\n5001d6: not rolled, over 5000 dice\n\nTotal: 6" ∧
    (report.body.toList.splitOn '\n').map String.ofList = lines ∧
    oneLine report.body =
      "2d6: 3, 4 (-1) = 6 | 5001d6: not rolled, over 5000 dice |  | Total: 6" ∧
    Screen.markedUp (.rolling report.body) =
      "**Rolling...**\n`2d6: 3, 4 (-1) = 6`\n`5001d6: not rolled, over 5000 dice`\n\n`Total: 6`" ∧
    Screen.notification (.rolling report.body) =
      "\x1b[38;5;11m\x1b[1mRolling...\x1b[0m\n" ++
      "\x1b[48;5;235m\x1b[38;5;13m2d6: 3, 4 (-1) = 6\x1b[49m\x1b[39m\n" ++
      "\x1b[48;5;235m\x1b[38;5;13m5001d6: not rolled, over 5000 dice\x1b[49m\x1b[39m\n" ++
      "\n" ++
      "\x1b[48;5;235m\x1b[38;5;13mTotal: 6\x1b[49m\x1b[39m\n\n" := by
  intro report lines
  obtain ⟨-, hsplit, -, -, hline, -, hshown⟩ := body_determines
  have hne : report.outcomes ≠ [] := List.cons_ne_nil _ _
  have hlines : report.lines = lines := by cbv
  refine ⟨hne, by cbv, ?_, ?_, ?_, ?_⟩
  · rw [(hsplit report hne).1, hlines]
  · rw [(hline report).1, hlines]
    decide +kernel
  · rw [(hshown report).1, hlines]
    decide +kernel
  · rw [(hshown report).2.2, hlines]
    decide +kernel

end Report

end DiceLauncher
