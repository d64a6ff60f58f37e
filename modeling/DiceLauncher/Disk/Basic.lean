import DiceLauncher.Disk.Fixture
import DiceLauncher.Text.Bytes

/-!
# The disk

Files: text under the paths of the files. The launcher runs in one directory; the files in it
are those whose paths have no slash.

Results:
* `Disk.read` gives the text of a file, or what keeps it from being read.
* `Disk.create` gives the disk with a file added or made anew, or what keeps it from being made.
* `Disk.rewrite` gives the disk with another text in a file, or what keeps it from being changed.
-/

namespace DiceLauncher

/-- The files of a disk. -/
structure Disk where
  /-- The paths of the files, each with its text. -/
  files : List (String × String) := []
  deriving DecidableEq, Repr

namespace Disk

/-- The greatest number of bytes in a name. -/
def nameLimit : Nat := 255

/-- The greatest number of bytes in a path. -/
def pathLimit : Nat := 4095

/-- Where a path leads. -/
inductive Place
  /-- To the path of a file, which may be there or not. -/
  | file (path : String)
  /-- To a file that every system has. -/
  | fixture (fixture : Fixture)
  /-- To a directory. -/
  | directory
  /-- To a name that only a directory could have, where there is none; reading meets this
  fault. -/
  | noDirectory (fault : FileFault)
  /-- Nowhere. -/
  | nowhere (fault : FileFault)
  deriving DecidableEq, Repr

/-- The text of the file with a path. -/
def lookup (disk : Disk) (path : String) : Option String := disk.files.lookup path

/-- The files in the directory in which the launcher runs. -/
def homeFiles (disk : Disk) : List (String × String) :=
  disk.files.filter fun (path, _) => !path.contains '/'

/-! ## Paths -/

/-- The steps of a path. -/
def steps (path : List Char) : List String :=
  ((path.splitOn '/').filter fun step => !step.isEmpty).map String.ofList

/-- Whether a name is longer than any name can be. -/
def isTooLong (name : String) : Bool := nameLimit < Text.byteLength name.toList

/-- What keeps a name in a directory from being that of a directory. -/
def faultOf (disk : Disk) (directory : Directory) (name : String) : FileFault :=
  if isTooLong name then .nameTooLong
  else if (Fixture.find? directory name).isSome then .notADirectory
  else if (disk.lookup (directory.path name)).isSome then .notADirectory
  else .notFound

/-- Where the last name of a path leads, behind which a slash stands or not. -/
def arrive (disk : Disk) (slash : Bool) (directory : Directory) (name : String) : Place :=
  if (directory.child? name).isSome then .directory
  else if slash then .noDirectory (disk.faultOf directory name)
  else if isTooLong name then .nowhere .nameTooLong
  else
    match Fixture.find? directory name with
    | some fixture => .fixture fixture
    | none => if directory.takesFiles then .file (directory.path name) else .nowhere .notFound

/-- Where the steps of a path lead from a directory. -/
def follow (disk : Disk) (slash : Bool) (directory : Directory) : List String → Place
  | [] => .directory
  | step :: more =>
    if step = "." then disk.follow slash directory more
    else if step = ".." then disk.follow slash directory.parent more
    else if more.isEmpty then disk.arrive slash directory step
    else
      match directory.child? step with
      | some child => disk.follow slash child more
      | none => .nowhere (disk.faultOf directory step)

/-- Where a path leads. -/
def resolve (disk : Disk) (path : String) : Place :=
  let path := path.toList
  if path.contains '\x00' then .nowhere .nulInPath
  else if path.isEmpty then .nowhere .notFound
  else if pathLimit < Text.byteLength path then .nowhere .nameTooLong
  else
    disk.follow (path.getLast? == some '/') (if path.head? == some '/' then .root else .home)
      (steps path)

/-! ## Files -/

/-- The text of the file that a path leads to. -/
def read (disk : Disk) (path : String) : Except FileFault String :=
  match disk.resolve path with
  | .file path =>
    match disk.lookup path with
    | some text => .ok text
    | none => .error .notFound
  | .fixture fixture => fixture.text
  | .directory => .error .isADirectory
  | .noDirectory fault => .error fault
  | .nowhere fault => .error fault

/-- The files with the text of one of them replaced, or with that file added. -/
def put (path text : String) : List (String × String) → List (String × String)
  | [] => [(path, text)]
  | (other, kept) :: files =>
    if other = path then (path, text) :: files else (other, kept) :: put path text files

/-- The disk with a text in the file that a path leads to, if a fixture can take it. What is
written to a fixture is not seen. -/
def store (disk : Disk) (path text : String) (fault? : Fixture → Option FileFault) :
    Except FileFault Disk :=
  match disk.resolve path with
  | .file path => .ok ⟨put path text disk.files⟩
  | .fixture fixture =>
    match fault? fixture with
    | some fault => .error fault
    | none => .ok disk
  | .directory => .error .isADirectory
  | .noDirectory _ => .error .isADirectory
  | .nowhere fault => .error fault

/-- The disk with a file made anew. -/
def create (disk : Disk) (path text : String) : Except FileFault Disk :=
  disk.store path text Fixture.createFault?

/-- The disk with another text in a file that is there. -/
def rewrite (disk : Disk) (path text : String) : Except FileFault Disk :=
  disk.store path text Fixture.rewriteFault?

end Disk

end DiceLauncher
