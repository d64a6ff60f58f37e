import DiceLauncher.Disk.Directory
import DiceLauncher.Disk.Fault

/-!
# Fixtures

Some files are there on every system: devices, programs, the lists of users and groups. What can
be read from one of them, or what keeps it from being read, is the same wherever the
launcher runs, as far as the launcher looks.
-/

namespace DiceLauncher

/-- A file that every system has. -/
inductive Fixture
  /-- The null device: it is empty, and takes everything that is written. -/
  | null
  /-- The standard input of the launcher. -/
  | input
  /-- The terminal that started the launcher; there is none. -/
  | terminal
  /-- A program. -/
  | program
  /-- A list with a text at its start. -/
  | list (start : String)
  deriving DecidableEq, Repr

namespace Fixture

/-- The fixtures, by the names on the way to them from the root. -/
def all : List (List String × Fixture) :=
  [(["dev", "null"], null),
    (["dev", "stdin"], input),
    (["proc", "self", "fd", "0"], input),
    (["dev", "tty"], terminal),
    (["etc", "passwd"], list "root:x:0:0:root:/root:/bin/bash\n"),
    (["etc", "group"], list "root:x:0:\n")] ++
  ["bash", "cat", "echo", "env", "false", "ls", "sh", "true"].map fun name =>
    (["usr", "bin", name], program)

/-- The fixture with a name in a directory. -/
def find? : Directory → String → Option Fixture
  | .home, _ => none
  | .outside names, name => all.lookup (names ++ [name])

/-- The text of a fixture, when nothing waits on standard input. -/
def text : Fixture → Except FileFault String
  | null | input => .ok ""
  | terminal => .error .noDevice
  | program => .error .notText
  | list start => .ok start

/-- What keeps a fixture from getting another text in place of the one that it has. -/
def rewriteFault? : Fixture → Option FileFault
  | null | input => some .invalidArgument
  | terminal => some .noDevice
  | program => some .notText
  | list _ => none

/-- What keeps a fixture from taking a text. -/
def createFault? : Fixture → Option FileFault
  | terminal => some .noDevice
  | _ => none

end Fixture

end DiceLauncher
