import DiceLauncher.Style
import Mathlib

/-!
# Coloured text, taken apart

A text without escape characters stands in its coloured form as it is, between the sequence
that turns the style on and the one that turns everything off. So both can be found again.

Results:
* `Style.reopen_of_not_mem`: such a text never turns its style off.
* `Style.unpaint_painted`: without the sequences, a red text is the text.
* `Style.redParts_painted`: and it is what the sequences enclose.
-/

namespace DiceLauncher.Style

/-! ## Specification -/

/-- A text without the sequences that turn red on and those that turn everything off. -/
def unpaint : List Char → List Char
  | '\x1b' :: '[' :: '3' :: '1' :: 'm' :: text => unpaint text
  | '\x1b' :: '[' :: '0' :: 'm' :: text => unpaint text
  | c :: text => c :: unpaint text
  | [] => []

/-- What comes before the first sequence that turns everything off, if there is one. -/
def beforeClosing? : List Char → Option (List Char)
  | '\x1b' :: '[' :: '0' :: 'm' :: _ => some []
  | c :: text => (beforeClosing? text).map (c :: ·)
  | [] => none

/-- The parts of a text that stand between a sequence that turns red on and the next one that
turns everything off, in order. -/
def redParts : List Char → List (List Char)
  | '\x1b' :: '[' :: '3' :: '1' :: 'm' :: text => (beforeClosing? text).toList ++ redParts text
  | _ :: text => redParts text
  | [] => []

/-! ## Painting -/

theorem paintChars_false (style : Style) (text : List Char) :
    style.paintChars false text = text := by
  rw [paintChars, if_neg Bool.false_ne_true]

/-- A text without escape characters never turns its style off. -/
theorem reopen_of_not_mem (style : Style) {text : List Char} (h : '\x1b' ∉ text) :
    style.reopen text = text := by
  induction text with
  | nil => rfl
  | cons c text ih =>
    have hc : c ≠ '\x1b' := (List.ne_of_not_mem_cons h).symm
    rw [reopen, ih (List.not_mem_of_not_mem_cons h)]
    simp [hc]

theorem paintChars_of_not_mem (style : Style) {text : List Char} (h : '\x1b' ∉ text) :
    style.paintChars true text = style.opening ++ text ++ closing := by
  rw [paintChars, if_pos rfl, reopen_of_not_mem style h]

/-! ## Finding the sequences again -/

theorem unpaint_cons {c : Char} (h : c ≠ '\x1b') (text : List Char) :
    unpaint (c :: text) = c :: unpaint text := by
  rw [unpaint]
  all_goals simp [h]

theorem redParts_cons {c : Char} (h : c ≠ '\x1b') (text : List Char) :
    redParts (c :: text) = redParts text := by
  rw [redParts]
  simp [h]

section Plain

variable {text : List Char} (h : '\x1b' ∉ text) (rest : List Char)
include h

theorem unpaint_append : unpaint (text ++ rest) = text ++ unpaint rest := by
  induction text with
  | nil => rfl
  | cons c text ih =>
    have hc : c ≠ '\x1b' := (List.ne_of_not_mem_cons h).symm
    rw [List.cons_append, unpaint_cons hc, ih (List.not_mem_of_not_mem_cons h), List.cons_append]

theorem redParts_append : redParts (text ++ rest) = redParts rest := by
  induction text with
  | nil => rfl
  | cons c text ih =>
    have hc : c ≠ '\x1b' := (List.ne_of_not_mem_cons h).symm
    rw [List.cons_append, redParts_cons hc, ih (List.not_mem_of_not_mem_cons h)]

theorem beforeClosing?_append : beforeClosing? (text ++ (closing ++ rest)) = some text := by
  induction text with
  | nil => rfl
  | cons c text ih =>
    have hc : c ≠ '\x1b' := (List.ne_of_not_mem_cons h).symm
    rw [List.cons_append, beforeClosing?, ih (List.not_mem_of_not_mem_cons h), Option.map_some]
    simp [hc]

/-- Without the sequences, a red text is the text. -/
theorem unpaint_painted : unpaint (red.paintChars true text ++ rest) = text ++ unpaint rest := by
  rw [paintChars_of_not_mem red h, List.append_assoc, List.append_assoc]
  calc unpaint (red.opening ++ (text ++ (closing ++ rest)))
    _ = unpaint (text ++ (closing ++ rest)) := rfl
    _ = text ++ unpaint (closing ++ rest) := unpaint_append h _
    _ = text ++ unpaint rest := rfl

/-- A red text is what the sequences enclose. -/
theorem redParts_painted :
    redParts (red.paintChars true text ++ rest) = text :: redParts rest := by
  rw [paintChars_of_not_mem red h, List.append_assoc, List.append_assoc]
  calc redParts (red.opening ++ (text ++ (closing ++ rest)))
    _ = (beforeClosing? (text ++ (closing ++ rest))).toList ++
        redParts (text ++ (closing ++ rest)) := rfl
    _ = [text] ++ redParts (closing ++ rest) := by
      rw [beforeClosing?_append h, redParts_append h, Option.toList_some]
    _ = text :: redParts rest := rfl

end Plain

end DiceLauncher.Style
