/-!
# Marked-up text

Marks in a line set parts of it off. Two stars turn bold text on and off; a backtick turns code
on and off. In code only the backtick that ends it is a mark. The launcher writes no other marks,
so no others are read.

Results:
* `parts_code`, `parts_bold`: a text without marks, between two of them, is one part.
-/

namespace DiceLauncher.Markup

/-- How a part of a line is set. -/
inductive Face
  /-- Like the text around it. -/
  | plain
  /-- Bold. -/
  | bold
  /-- As code. -/
  | code
  deriving DecidableEq, Repr

/-- A part of a line between two marks. -/
structure Part where
  /-- How it is set. -/
  face : Face
  /-- Its text. -/
  text : List Char
  deriving DecidableEq, Repr

/-- How text is set where bold text, code or both are on; code is set as code everywhere. -/
def faceOf (bold code : Bool) : Face := if code then .code else if bold then .bold else .plain

/-- The parts of a text, when `current` is what has been read of the part that it begins in, the
latest character first. -/
def partsFrom (bold code : Bool) (current : List Char) : List Char → List Part
  | [] => close current
  | '`' :: text => close current ++ partsFrom bold (!code) [] text
  | '*' :: '*' :: text =>
    if code then partsFrom bold code ('*' :: '*' :: current) text
    else close current ++ partsFrom (!bold) code [] text
  | c :: text => partsFrom bold code (c :: current) text
where
  /-- The part that ends at a mark; none without text. -/
  close (current : List Char) : List Part :=
    if current.isEmpty then [] else [⟨faceOf bold code, current.reverse⟩]

/-- The parts of a line, in order. -/
def parts (line : List Char) : List Part := partsFrom false false [] line

/-- A text in which nothing could be a mark. -/
def IsUnmarked (text : List Char) : Prop := '`' ∉ text ∧ '*' ∉ text

/-- A text without marks belongs to the part that it is read in. -/
theorem partsFrom_append (bold code : Bool) (current : List Char) {text : List Char}
    (h : IsUnmarked text) (rest : List Char) :
    partsFrom bold code current (text ++ rest) =
      partsFrom bold code (text.reverse ++ current) rest := by
  induction text generalizing current with
  | nil => rfl
  | cons c text ih =>
    obtain ⟨htick, hstar⟩ := h
    rw [List.mem_cons, not_or] at htick hstar
    have htext : IsUnmarked text := ⟨htick.2, hstar.2⟩
    rw [List.cons_append, partsFrom, ih _ htext]
    · simp
    · exact fun heq => htick.1 heq.symm
    · exact fun _ heq => absurd heq.symm hstar.1

/-- A text without marks is one part in code between two backticks. -/
theorem parts_code {text : List Char} (h : IsUnmarked text) (hne : text ≠ []) :
    parts ('`' :: (text ++ ['`'])) = [⟨.code, text⟩] := by
  have hbefore : parts ('`' :: (text ++ ['`'])) = partsFrom false true [] (text ++ ['`']) := rfl
  rw [hbefore, partsFrom_append false true [] h]
  simp [partsFrom, partsFrom.close, faceOf, hne]

/-- A text without marks is one bold part between two pairs of stars. -/
theorem parts_bold {text : List Char} (h : IsUnmarked text) (hne : text ≠ []) :
    parts ('*' :: '*' :: (text ++ ['*', '*'])) = [⟨.bold, text⟩] := by
  have hbefore : parts ('*' :: '*' :: (text ++ ['*', '*'])) =
      partsFrom true false [] (text ++ ['*', '*']) := rfl
  rw [hbefore, partsFrom_append true false [] h]
  simp [partsFrom, partsFrom.close, faceOf, hne]

end DiceLauncher.Markup
