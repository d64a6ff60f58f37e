import DiceLauncher.Dialogue.Basic
import DiceLauncher.Editor.Line
import DiceLauncher.Editor.Typing

/-!
# Running a dialogue

A dialogue takes its lines from bytes, if its input is no terminal, or from the keys that
are typed on one. It goes on until its input ends, it is interrupted, or something goes
wrong.
-/

namespace DiceLauncher.Dialogue

variable {m : Type → Type} [Monad m]

/-- How a dialogue went. -/
structure Course where
  /-- The dialogue at its end. -/
  last : Dialogue
  /-- What was put out. -/
  outputs : List Output
  /-- Why it ended. -/
  ending : Ending
  deriving DecidableEq, Repr

/-- A course with output in front. -/
def Course.after (course : Course) (outputs : List Output) : Course :=
  { course with outputs := outputs ++ course.outputs }

/-- Runs a dialogue on lines of bytes; each is prompted for, and so is the end. -/
def runLines (source : Source m) (dialogue : Dialogue) : List (List UInt8) → m Course
  | [] => pure ⟨dialogue, [.printed dialogue.prompt], .ended⟩
  | bytes :: rest =>
    match Editor.lineOfBytes bytes with
    | .error fault => pure ⟨dialogue, [.printed dialogue.prompt], .unreadable fault⟩
    | .ok none => pure ⟨dialogue, [.printed dialogue.prompt], .broken⟩
    | .ok (some line) => do
      let (next, outputs) ← dialogue.accept source line
      let course ← next.runLines source rest
      pure (course.after (.printed dialogue.prompt :: outputs))

/-- Runs a dialogue on keys, when a part of a line is typed already. What the line editor draws
is no part of the output. -/
def runKeys (source : Source m) (dialogue : Dialogue) (typed : String) :
    List Editor.Key → m Course
  | [] => pure ⟨dialogue, [], .ended⟩
  | key :: keys =>
    match Editor.press dialogue.history typed key with
    | .pending line => dialogue.runKeys source line keys
    | .entered line => do
      let (next, outputs) ← dialogue.accept source line
      let course ← next.runKeys source "" keys
      pure (course.after outputs)
    | .interrupted => pure ⟨dialogue, [], .interrupted⟩
    | .ended => pure ⟨dialogue, [], .ended⟩
    | .broken => pure ⟨dialogue, [], .broken⟩

end DiceLauncher.Dialogue
