/-!
# Faults of files

Why a file cannot be read or written. `FileFault.message` is the wording for readers of
the log; `FileFault.details` is the fuller form for the last words of a run that fails.
-/

namespace DiceLauncher

/-- Why a file cannot be read or written. -/
inductive FileFault
  /-- There is no such file. -/
  | notFound
  /-- A part of the path that should be a directory is none. -/
  | notADirectory
  /-- The path leads to a directory. -/
  | isADirectory
  /-- A name in the path, or the path, is too long. -/
  | nameTooLong
  /-- The system cannot do this with the file. -/
  | invalidArgument
  /-- There is no device behind the file. -/
  | noDevice
  /-- The path holds the null character. -/
  | nulInPath
  /-- The file is not UTF-8 text. -/
  | notText
  /-- Something else is wrong with the file, in the words of the system. -/
  | other (words : String)
  deriving DecidableEq, Repr

namespace FileFault

/-- What is wrong about bytes that are not UTF-8. -/
def notTextWords : String := "stream did not contain valid UTF-8"

/-- What is wrong about a path with the null character. -/
def nulInPathWords : String := "file name contained an unexpected NUL byte"

/-- The wording of the fault. -/
def message : FileFault → String
  | notFound => "No such file or directory (os error 2)"
  | notADirectory => "Not a directory (os error 20)"
  | isADirectory => "Is a directory (os error 21)"
  | nameTooLong => "File name too long (os error 36)"
  | invalidArgument => "Invalid argument (os error 22)"
  | noDevice => "No such device or address (os error 6)"
  | nulInPath => nulInPathWords
  | notText => notTextWords
  | other words => words

/-- The details of a fault that the system reports. -/
def systemDetails (code kind words : String) : String :=
  "Io(Os \x7b code: " ++ code ++ ", kind: " ++ kind ++ ", message: \"" ++ words ++ "\" \x7d)"

/-- The details of a fault that is found before the system is asked, or in what it answered. -/
def contentDetails (kind words : String) : String :=
  "Io(Error \x7b kind: " ++ kind ++ ", message: \"" ++ words ++ "\" \x7d)"

/-- The details of the fault. -/
def details : FileFault → String
  | notFound => systemDetails "2" "NotFound" "No such file or directory"
  | notADirectory => systemDetails "20" "NotADirectory" "Not a directory"
  | isADirectory => systemDetails "21" "IsADirectory" "Is a directory"
  | nameTooLong => systemDetails "36" "InvalidFilename" "File name too long"
  | invalidArgument => systemDetails "22" "InvalidInput" "Invalid argument"
  | noDevice => systemDetails "6" "Uncategorized" "No such device or address"
  | nulInPath => contentDetails "InvalidInput" nulInPathWords
  | notText => contentDetails "InvalidData" notTextWords
  | other words => contentDetails "Other" words

/-- The fault that the system reports by a number, with words of its own. -/
def ofCode (code : Nat) (words : String) : FileFault :=
  match code with
  | 2 => notFound
  | 6 => noDevice
  | 20 => notADirectory
  | 21 => isADirectory
  | 22 => invalidArgument
  | 36 => nameTooLong
  | _ => other words

end FileFault

/-- The text of bytes that are UTF-8. -/
def textOfBytes (bytes : ByteArray) : Except FileFault String :=
  match String.fromUTF8? bytes with
  | some text => .ok text
  | none => .error .notText

end DiceLauncher
