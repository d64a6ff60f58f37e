/-!
# Visible text

Text may hold sequences of characters that control a terminal. A sequence starts with an escape
character; what follows that tells where it ends. Without its sequences and its other control
characters, line breaks and the like apart, a text can be put where no terminal reads it.

A sequence that is not ended goes on to the end of the text. A line break in it is visible where
a terminal would obey it at once; the ASCII text behind such a line break is visible too, until
another control character resumes the sequence.

Results:
* `visible_sublist`: nothing is added and nothing is reordered.
* `visible_append`: a beginning without control characters is visible, whatever follows it.
* `visible_of_forall_not_isControl`: a text without control characters is visible as a whole.
-/

namespace DiceLauncher.Text

/-- Whether a character moves the place at which a terminal writes. -/
def isLayout (c : Char) : Bool := c == '\t' || c == '\n' || c == '\x0c' || c == '\r'

/-- Whether a character is a control character of ASCII. -/
def isControl (c : Char) : Bool := c.toNat < 0x20 || c == '\x7f'

/-- Whether a character ends any sequence at once. -/
def isCancel (c : Char) : Bool := c == '\x18' || c == '\x1a'

/-- Whether a character ends the text of a control string: one of its bytes is the string
terminator. -/
def holdsTerminator (c : Char) : Bool := (String.utf8EncodeChar c).contains 0x9c

/-! ## Sequences -/

/-- How far a sequence has come. -/
inductive Sequence
  /-- To the escape character. -/
  | escape
  /-- To the intermediate characters of an escape sequence. -/
  | intermediates
  /-- To a place in a control sequence. -/
  | control
  /-- To the start of a device control string. -/
  | device
  /-- To the parameters of a device control string. -/
  | deviceParameters
  /-- To the intermediate characters of a device control string. -/
  | deviceIntermediates
  /-- To the text of a control string, or to what cannot be a device control string. -/
  | text
  /-- To the text of a command to the system of the terminal. -/
  | command
  deriving DecidableEq, Repr

namespace Sequence

/-- Whether a character is an intermediate one. -/
def isIntermediate (c : Char) : Bool := ' ' ≤ c && c ≤ '/'

/-- Whether a character separates parameters or is part of one. -/
def isParameter (c : Char) : Bool := '0' ≤ c && c ≤ ';'

/-- Whether a character tells that parameters have a meaning of their own. -/
def isPrivate (c : Char) : Bool := '<' ≤ c && c ≤ '?'

/-- Whether a character is the final one of a control sequence. -/
def isFinal (c : Char) : Bool := '@' ≤ c && c ≤ '~'

/-- How far a sequence is behind a character that follows the escape character; nothing if it is
ended by it. -/
def ofKind (c : Char) : Option Sequence :=
  if c == '[' then some control
  else if c == ']' then some command
  else if c == 'P' then some device
  else if c == 'X' || c == '^' || c == '_' then some text
  else if isIntermediate c then some intermediates
  else if isParameter c || isPrivate c || isFinal c then none
  else some escape

/-- How far a sequence is behind a character; nothing if it is ended by it. Neither an escape
character nor one that ends any sequence is looked at here. -/
def next (sequence : Sequence) (c : Char) : Option Sequence :=
  match sequence with
  | escape => ofKind c
  | intermediates =>
    if isParameter c || isPrivate c || isFinal c then none else some intermediates
  | control => if isFinal c then none else some control
  | device =>
    if isIntermediate c then some deviceIntermediates
    else if isParameter c || isPrivate c then some deviceParameters
    else if isFinal c then some text
    else some device
  | deviceParameters =>
    if isIntermediate c then some deviceIntermediates
    else if isPrivate c || isFinal c then some text
    else some deviceParameters
  | deviceIntermediates =>
    if isParameter c || isPrivate c || isFinal c then some text else some deviceIntermediates
  | text => if holdsTerminator c then none else some text
  | command => if c == '\x07' then none else some command

/-- Whether a terminal obeys a control character in a sequence at once. -/
def obeysControls : Sequence → Bool
  | escape | intermediates | control => true
  | device | deviceParameters | deviceIntermediates | text | command => false

end Sequence

/-! ## Visible characters -/

/-- Where a character of a text stands. -/
inductive Surrounding
  /-- In no sequence. -/
  | free
  /-- In a sequence. -/
  | within (sequence : Sequence)
  /-- In visible text behind a line break in a sequence. -/
  | amid (sequence : Sequence)
  deriving DecidableEq, Repr

namespace Surrounding

/-- Whether a character is visible. -/
def shows (surrounding : Surrounding) (c : Char) : Bool :=
  match surrounding with
  | free | amid _ => isLayout c || !isControl c
  | within sequence => isLayout c && sequence.obeysControls

/-- Where the character behind a character stands. -/
def next (surrounding : Surrounding) (c : Char) : Surrounding :=
  if c == '\x1b' then within .escape
  else if isCancel c then free
  else
    match surrounding with
    | free => free
    | within sequence =>
      if surrounding.shows c then amid sequence
      else (sequence.next c).elim free within
    | amid sequence =>
      if !surrounding.shows c then within sequence
      else if c.utf8Size == 1 then amid sequence
      else free

end Surrounding

/-- What is visible of a text whose first character is in a surrounding. -/
def visibleFrom (surrounding : Surrounding) : List Char → List Char
  | [] => []
  | c :: text =>
    let rest := visibleFrom (surrounding.next c) text
    if surrounding.shows c then c :: rest else rest

/-- What is visible of a text. -/
def visible (text : List Char) : List Char := visibleFrom .free text

theorem visibleFrom_sublist (surrounding : Surrounding) (text : List Char) :
    (visibleFrom surrounding text).Sublist text := by
  induction text generalizing surrounding with
  | nil => exact List.Sublist.refl []
  | cons c text ih =>
    unfold visibleFrom
    split
    · exact (ih _).cons_cons c
    · exact (ih _).cons c

/-- What is visible is the text without some of its characters. -/
theorem visible_sublist (text : List Char) : (visible text).Sublist text :=
  visibleFrom_sublist .free text

/-- Only a control character begins a sequence. -/
theorem Surrounding.next_free {c : Char} (h : isControl c = false) : free.next c = free := by
  have hc : c ≠ '\x1b' := by rintro rfl; simp [isControl] at h
  simp [next, hc]

@[simp] theorem visible_nil : visible [] = [] := rfl

/-- A beginning without control characters is visible, whatever follows it. -/
theorem visible_append {text : List Char} (h : ∀ c ∈ text, isControl c = false)
    (rest : List Char) : visible (text ++ rest) = text ++ visible rest := by
  induction text with
  | nil => rfl
  | cons c text ih =>
    have hc : isControl c = false := h c List.mem_cons_self
    have htext : visible (text ++ rest) = text ++ visible rest :=
      ih fun d hd => h d (List.mem_cons_of_mem c hd)
    unfold visible at htext ⊢
    simp [visibleFrom, Surrounding.shows, Surrounding.next_free hc, hc, htext]

/-- A text without control characters is visible as a whole. -/
theorem visible_of_forall_not_isControl {text : List Char}
    (h : ∀ c ∈ text, isControl c = false) : visible text = text := by
  simpa using visible_append h []

end DiceLauncher.Text
