import DiceLauncher.Disk.Fault
import DiceLauncher.History.Basic
import DiceLauncher.Log
import DiceLauncher.Text.Lines

/-!
# The history file

A history file starts with a line that marks its form, and holds one entry to a line,
the oldest first. In an entry a line feed is written `\n` and a backslash is written
twice. A file without the mark holds its entries as they are.

When a session ends, the file is brought up to date with as little change as possible:
new entries are appended if the file is in good form, holds nothing that was ignored,
and has room for them; otherwise it is written anew. What it holds by then is kept as far
as there is room, so it is read once more, unless the new entries alone fill a history.

Results:
* `HistoryFile.read` gives the entries of a file.
* `HistoryFile.update` tells what becomes of the file after a session.
-/

namespace DiceLauncher.HistoryFile

/-- The first line of a history file. -/
def mark : String := "#V2"

/-! ## Written entries -/

/-- The written form of an entry. -/
def escape : List Char → List Char
  | [] => []
  | '\n' :: entry => '\\' :: 'n' :: escape entry
  | '\\' :: entry => '\\' :: '\\' :: escape entry
  | c :: entry => c :: escape entry

/-- Reads the written form of an entry; a backslash must stand before an `n` or another
backslash. -/
def unescape : List Char → Option (List Char)
  | [] => some []
  | '\\' :: 'n' :: line => (unescape line).map ('\n' :: ·)
  | '\\' :: '\\' :: line => (unescape line).map ('\\' :: ·)
  | '\\' :: _ => none
  | c :: line => (unescape line).map (c :: ·)

/-- Entries, one to a line. -/
def renderEntries (entries : List String) : String :=
  String.ofList (entries.flatMap fun entry => escape entry.toList ++ ['\n'])

/-- A history file with the given entries. -/
def render (entries : List String) : String := mark ++ "\n" ++ renderEntries entries

/-! ## Reading -/

/-- What is read from a history file. -/
structure Reading where
  /-- The history, in which nothing is new. -/
  history : History
  /-- Whether the file is in good form and every entry in it was kept. -/
  complete : Bool
  /-- The records that reading leaves. -/
  log : List Log.Record
  deriving DecidableEq, Repr

/-- The record that an entry cannot be read. -/
def malformedRecord (line : String) : Log.Record := Log.warn ("bad escaped line: " ++ line)

/-- The entry that a line of a marked file holds; the line itself if it cannot be read. -/
def entryOf (line : String) : String :=
  match unescape line.toList with
  | some entry => String.ofList entry
  | none => line

/-- The records that reading a line of a marked file leaves. -/
def recordsOf (line : String) : List Log.Record :=
  if (unescape line.toList).isSome then [] else [malformedRecord line]

/-- The history of the given entries, in which nothing is new, and whether all of them were
kept. -/
def gather (entries : List String) : History × Bool :=
  let (history, kept) := History.addAll {} entries
  ({ history with fresh := 0 }, kept.all id)

/-- Reads the lines of a history file. -/
def readLines : List String → Reading
  | [] => ⟨{}, false, []⟩
  | first :: rest =>
    let rest := rest.filter fun line => !line.isEmpty
    if first = mark then
      let (history, all) := gather (rest.map entryOf)
      ⟨history, all, rest.flatMap recordsOf⟩
    else ⟨(gather (first :: rest)).1, false, []⟩

/-- Reads a history file. -/
def read (text : String) : Reading := readLines (Text.lines text)

/-! ## Bringing the file up to date -/

/-- The entries that are new in this run. -/
def newEntries (history : History) : List String :=
  history.entries.drop (history.entries.length - history.fresh)

/-- Whether entries can be appended to a file that held `stored` entries when it was read; there
is no such number if it could not be read or was not complete. -/
def roomFor (stored : Option Nat) (fresh : Nat) : Bool :=
  match stored with
  | some stored => stored + fresh ≤ historyLimit
  | none => false

/-- What becomes of a history file. -/
inductive Update
  /-- It stays as it is. -/
  | keep
  /-- It is made anew, whether it is there or not. -/
  | create (text : String)
  /-- It is there, and gets another text. -/
  | rewrite (text : String)
  /-- It is there, but holds nothing to which entries could be added. -/
  | refuse (fault : FileFault)
  deriving DecidableEq, Repr

/-- What becomes of the history file after a session, and the records that this leaves. The text
that the file has now, or what keeps it from being read, is given. -/
def update (stored : Option Nat) (history : History) (present : Except FileFault String) :
    Update × List Log.Record :=
  if history.fresh = 0 then (.keep, [])
  else if history.fresh = historyLimit then (.create (render history.entries), [])
  else
    match present with
    | .error .notText => (.refuse .notText, [])
    | .error _ => (.create (render history.entries), [])
    | .ok text =>
      if roomFor stored history.fresh then
        (.rewrite (text ++ renderEntries (newEntries history)), [])
      else
        let reading := read text
        let merged := (reading.history.addAll (newEntries history)).1
        (.rewrite (render merged.entries), reading.log)

end DiceLauncher.HistoryFile
