import DiceLauncher.Settings.Lexeme

/-!
# Cursors

Readers of small parts see only the text that is left. Where columns can be counted twice
(`number`), a reader moves a `Cursor`: that text, and by how many columns the count is
ahead of it. A reader of text moves a cursor through `Cursor.read` and `Cursor.skip`; the
count stays ahead up to the end of the line.
-/

namespace DiceLauncher.Settings

/-- Where reading is in a file. -/
structure Cursor where
  /-- The text that is left. -/
  text : List Char
  /-- By how many columns the count is ahead of that text. -/
  ahead : Nat := 0
  deriving DecidableEq, Repr

namespace Cursor

/-- By how many columns the count is ahead when only `rest` is left: a new line sets it
right. -/
def aheadAt (cursor : Cursor) (rest : List Char) : Nat :=
  match cursor.ahead with
  | 0 => 0
  | columns + 1 =>
    if (cursor.text.take (cursor.text.length - rest.length)).contains '\n' then 0
    else columns + 1

/-- The cursor at a later text of the same file. -/
def moveTo (cursor : Cursor) (rest : List Char) : Cursor := ⟨rest, cursor.aheadAt rest⟩

@[simp] theorem text_moveTo (cursor : Cursor) (rest : List Char) :
    (cursor.moveTo rest).text = rest := rfl

/-- Stops at a cursor. -/
def stop {α : Type} (cursor : Cursor) (cause : Cause) : Except Stop α :=
  .error { cause := cause, rest := cursor.text, ahead := cursor.ahead }

/-- Where a reader of text stops that started at a cursor. -/
def stopOf (cursor : Cursor) (stop : Stop) : Stop :=
  { stop with ahead := cursor.aheadAt stop.left + stop.ahead }

/-- Moves a cursor as a reader of text reads what is left. -/
def read {α : Type} (cursor : Cursor) (reader : List Char → Reading α) :
    Except Stop (α × Cursor) :=
  match reader cursor.text with
  | .ok (value, rest) => .ok (value, cursor.moveTo rest)
  | .error stop => .error (cursor.stopOf stop)

/-- Moves a cursor behind what is only passed. -/
def skip (cursor : Cursor) (reader : List Char → Except Stop (List Char)) :
    Except Stop Cursor :=
  match reader cursor.text with
  | .ok rest => .ok (cursor.moveTo rest)
  | .error stop => .error (cursor.stopOf stop)

/-- A cursor whose count is right moves as the text alone. -/
theorem skip_of_ahead_eq_zero (text : List Char) (reader : List Char → Except Stop (List Char)) :
    skip ⟨text, 0⟩ reader =
      match reader text with
      | .ok rest => .ok ⟨rest, 0⟩
      | .error stop => .error stop := by
  unfold skip moveTo stopOf aheadAt
  cases reader text <;> simp

end Cursor

end DiceLauncher.Settings
