/-!
# Directories

The launcher runs in one directory, which holds nothing but files. A path can also leave it: to
the directories above it, and from the root to the directories that every system has. Of
those nothing is known but that they are there, and which files each of them is bound to
hold.

Results:
* `Directory.parent` and `Directory.child?` are the steps of a path.
* `Directory.path` names what a directory holds.
-/

namespace DiceLauncher

/-- A directory that a path passes. -/
inductive Directory
  /-- The directory in which the launcher runs. -/
  | home
  /-- Another one, by the names on the way to it from the root. -/
  | outside (names : List String)
  deriving DecidableEq, Repr

namespace Directory

/-- The root. -/
def root : Directory := outside []

/-- The names of the directories that every system has in a directory. -/
def subdirectories : List String → List String
  | [] => ["boot", "dev", "etc", "home", "media", "mnt", "opt", "proc", "root", "run", "srv", "sys",
      "tmp", "usr", "var"]
  | ["dev"] => ["pts", "shm"]
  | ["etc"] => ["default", "init.d", "opt", "profile.d", "security", "skel"]
  | ["proc"] => ["bus", "fs", "irq", "self", "sys", "tty"]
  | ["proc", "self"] => ["fd", "fdinfo", "net", "ns", "task"]
  | ["proc", "sys"] => ["fs", "kernel", "net", "vm"]
  | ["run"] => ["lock"]
  | ["sys"] => ["block", "bus", "class", "dev", "devices", "firmware", "fs", "kernel", "module"]
  | ["usr"] => ["bin", "games", "include", "lib", "libexec", "local", "sbin", "share", "src"]
  | ["usr", "local"] => ["bin", "etc", "games", "include", "lib", "sbin", "share", "src"]
  | ["usr", "share"] => ["doc", "info", "man", "misc"]
  | ["var"] => ["cache", "lib", "local", "log", "mail", "opt", "spool", "tmp"]
  | ["var", "lib"] => ["misc"]
  | _ => []

/-- The names that lead to a directory that is elsewhere. -/
def links : List (List String × Directory) :=
  [(["bin"], outside ["usr", "bin"]),
    (["lib"], outside ["usr", "lib"]),
    (["lib64"], outside ["usr", "lib64"]),
    (["sbin"], outside ["usr", "sbin"]),
    (["dev", "fd"], outside ["proc", "self", "fd"]),
    (["proc", "net"], outside ["proc", "self", "net"]),
    (["proc", "self", "cwd"], home),
    (["proc", "self", "root"], root),
    (["usr", "local", "man"], outside ["usr", "local", "share", "man"]),
    (["var", "lock"], outside ["run", "lock"]),
    (["var", "run"], outside ["run"])]

/-- The directory above a directory. The launcher runs among the temporary files. -/
def parent : Directory → Directory
  | home => outside ["tmp"]
  | outside names => outside names.dropLast

/-- The directory with a name in a directory, if it is known to be there. -/
def child? : Directory → String → Option Directory
  | home, _ => none
  | outside names, name =>
    let way := names ++ [name]
    match links.lookup way with
    | some directory => some directory
    | none => if (subdirectories names).contains name then some (outside way) else none

/-- Whether a file can be made in a directory: in those that tell about processes there are only
the files that the system shows. -/
def takesFiles : Directory → Bool
  | outside ("proc" :: _) => false
  | _ => true

/-- The shortest path to a name in a directory. A name in the directory in which the launcher runs
is its own path; every other path starts with a slash. -/
def path : Directory → String → String
  | home, name => name
  | outside names, name => String.join (names.map ("/" ++ ·)) ++ "/" ++ name

end Directory

end DiceLauncher
