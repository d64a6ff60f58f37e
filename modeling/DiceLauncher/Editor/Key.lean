/-!
# Keys

What is typed on a terminal arrives as characters. Control characters, and sequences
that start with an escape character, stand for keys with a meaning of their own.
-/

namespace DiceLauncher.Editor

/-- A key of the line editor. -/
inductive Key
  /-- A character to insert. -/
  | character (c : Char)
  /-- The line is entered. -/
  | enter
  /-- The word before the cursor is completed. -/
  | complete
  /-- The hint is accepted. -/
  | right
  /-- The cluster before the cursor is removed. -/
  | erase
  /-- The session is interrupted. -/
  | interrupt
  /-- The input ends, if nothing is typed. -/
  | endOfInput
  /-- Nothing happens. -/
  | idle
  deriving DecidableEq, Repr

namespace Key

/-- The key of a single character. -/
def ofChar (c : Char) : Key :=
  if c = '\r' || c = '\n' then enter
  else if c = '\t' then complete
  else if c = '\x7f' || c = '\x08' then erase
  else if c = '\x03' then interrupt
  else if c = '\x04' then endOfInput
  else if c.toNat < 0x20 || (0x80 ≤ c.toNat && c.toNat ≤ 0x9f) then idle
  else character c

/-- The keys that characters stand for, in order. -/
def decode : List Char → List Key
  | [] => []
  | '\x1b' :: '[' :: c :: typed => (if c = 'C' then right else idle) :: decode typed
  | c :: typed => ofChar c :: decode typed

end Key

end DiceLauncher.Editor
