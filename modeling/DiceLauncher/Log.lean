import DiceLauncher.Decimal

/-!
# Log records

What the launcher tells about its work, apart from what it shows: records of three
levels. `Record.line` writes a record the way it appears on the error stream, with a
faint time stamp and the level in its colour, five characters wide.
-/

namespace DiceLauncher.Log

/-- How much a record matters. -/
inductive Level
  /-- Of interest when something is looked into. -/
  | debug
  /-- Worth knowing. -/
  | info
  /-- Something was not as it should be. -/
  | warn
  deriving DecidableEq, Repr

/-- A message of some level. -/
structure Record where
  /-- The level. -/
  level : Level
  /-- What happened. -/
  message : String
  deriving DecidableEq, Repr

/-- A debug record. -/
def debug (message : String) : Record := ⟨.debug, message⟩

/-- An informational record. -/
def info (message : String) : Record := ⟨.info, message⟩

/-- A warning. -/
def warn (message : String) : Record := ⟨.warn, message⟩

/-- The name of a level. -/
def Level.name : Level → String
  | .debug => "DEBUG"
  | .info => "INFO"
  | .warn => "WARN"

/-- The level as it stands in a log line: coloured, and aligned to the right. -/
def Level.badge : Level → String
  | .debug => "\x1b[34mDEBUG\x1b[0m"
  | .info => "\x1b[32m INFO\x1b[0m"
  | .warn => "\x1b[33m WARN\x1b[0m"

/-! ## Lines -/

/-- The lowercase hexadecimal digits of a number, without leading zeros. -/
def hex (n : Nat) : List Char := Nat.toDigits 16 n

/-- Whether a character could start or make up a terminal control sequence. -/
def isControl (c : Char) : Bool :=
  c == '\x1b' || c == '\x07' || c == '\x08' || c == '\x0c' || c == '\x7f' ||
    (0x80 ≤ c.toNat && c.toNat ≤ 0x9f)

/-- A character as a log line shows it: control characters appear as escapes. -/
def showChar (c : Char) : List Char :=
  if isControl c then
    if c.toNat < 0x10 then ['\\', 'x', '0'] ++ hex c.toNat
    else if c.toNat < 0x80 then ['\\', 'x'] ++ hex c.toNat
    else ['\\', 'u', '\x7b'] ++ hex c.toNat ++ ['\x7d']
  else [c]

/-- The record as a line of the error stream, stamped with a time. -/
def Record.line (record : Record) (time : String) : String :=
  "\x1b[2m" ++ time ++ "\x1b[0m " ++ record.level.badge ++ " " ++
    String.ofList (record.message.toList.flatMap showChar) ++ "\n"

/-! ## Time stamps -/

/-- A number with zeros in front, up to a number of digits. -/
def padded (width n : Nat) : String :=
  let digits := Decimal.digits n
  String.ofList (List.replicate (width - digits.length) '0' ++ digits)

/-- The stamp of a moment of universal time, to the microsecond. -/
def stamp (year month day hour minute second microsecond : Nat) : String :=
  padded 4 year ++ "-" ++ padded 2 month ++ "-" ++ padded 2 day ++ "T" ++ padded 2 hour ++ ":" ++
    padded 2 minute ++ ":" ++ padded 2 second ++ "." ++ padded 6 microsecond ++ "Z"

end DiceLauncher.Log
