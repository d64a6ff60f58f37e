import DiceLauncher.Launcher.Query

/-!
# Commands

What an input line asks for, after its blanks at both ends are dropped: `?` asks for
the help, `!` with a number for a roll of the entry with that number, and any other
line is a query.
-/

namespace DiceLauncher

/-- What one input line asks for. -/
inductive Command
  /-- To show the help. -/
  | help
  /-- To list the entries of a query. -/
  | query (query : Query)
  /-- To trigger an entry of the last listing. -/
  | trigger (index : Nat)
  deriving DecidableEq, Repr

namespace Command

/-- Reads the number of an entry: digits, possibly behind a plus sign, that stand for a
number below `2^64`. -/
def index? (text : List Char) : Option Nat :=
  let digits :=
    match text with
    | '+' :: digits => digits
    | _ => text
  match Decimal.read? digits with
  | some index => if index < UInt64.size then some index else none
  | none => none

/-- Reads a line whose blanks at both ends are dropped. -/
def ofTrimmed (line : List Char) : Command :=
  if line = ['?'] then .help
  else
    match line with
    | '!' :: rest =>
      match index? (Text.trim rest) with
      | some index => .trigger index
      | none => .query (Query.ofSearch (String.ofList line))
    | _ => .query (Query.ofSearch (String.ofList line))

/-- Reads an input line. -/
def parse (line : String) : Command := ofTrimmed (Text.trim line.toList)

end Command

end DiceLauncher
