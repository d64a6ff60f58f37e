import DiceLauncher.Disk.Fault
import DiceLauncher.Text.Bytes
import DiceLauncher.Text.Cluster

/-!
# Lines that are not typed on a terminal

A line that comes through a pipe is a line of bytes. If it is text, it is taken as if it
had been typed: a backspace removes the cluster before it, if there is one.

How many bytes a cluster has is kept in a single byte. So of a cluster of 256 bytes or
more, a backspace removes only a part, which must end between two characters.
-/

namespace DiceLauncher.Editor

/-- What was typed before a backspace. -/
structure Typed where
  /-- The text, last character first. -/
  text : List Char := []
  /-- How many bytes a backspace removes, the last first. -/
  sizes : List Nat := []
  deriving DecidableEq, Repr

/-- How many bytes a backspace removes for a cluster. -/
def erasedBytes (cluster : List Char) : Nat := Text.byteLength cluster % 256

/-- What was typed after a further cluster, unless a backspace cuts a character. -/
def Typed.add? (typed : Typed) (cluster : List Char) : Option Typed :=
  if cluster = ['\x08'] then
    match typed.sizes with
    | [] => some typed
    | size :: sizes => (Text.from? size typed.text).map fun text => ⟨text, sizes⟩
  else some ⟨cluster.reverse ++ typed.text, erasedBytes cluster :: typed.sizes⟩

/-- What is left of a text when its backspaces have removed what they remove; nothing if one of
them cuts a character. -/
def applyBackspaces? (text : List Char) : Option (List Char) :=
  ((Text.clusters text).foldlM Typed.add? {}).map fun typed => typed.text.reverse

/-- The line that bytes stand for, if they are text; nothing if a backspace cuts a
character. -/
def lineOfBytes (bytes : List UInt8) : Except FileFault (Option String) := do
  let text ← textOfBytes ⟨bytes.toArray⟩
  .ok ((applyBackspaces? text.toList).map String.ofList)

end DiceLauncher.Editor
