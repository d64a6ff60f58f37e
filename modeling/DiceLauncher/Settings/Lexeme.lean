import DiceLauncher.Settings.Failure

/-!
# The smallest parts of a settings file

Readers for blanks and comments, names, strings, truth values and characters. A reader
gets the text that is left and gives back what it read, with the text behind it, or stops.
A reader that stops leaves open how much it had read; only the `Stop` says where it was.
-/

namespace DiceLauncher.Settings

/-- What a reader gives: a value and the text behind it, or why and where it stopped. -/
abbrev Reading (α : Type) := Except Stop (α × List Char)

/-- Stops in front of a text. -/
def stopAt {α : Type} (cause : Cause) (rest : List Char) : Except Stop α :=
  .error { cause := cause, rest := rest }

/-- Stops behind the first byte of a text. -/
def stopPartway {α : Type} (cause : Cause) (rest : List Char) : Except Stop α :=
  .error { cause := cause, rest := rest, partway := true }

/-- The first byte of a character, as the character with its number. -/
def firstByte (c : Char) : Char :=
  let n := c.toNat
  match c.utf8Size with
  | 1 => c
  | 2 => Char.ofNat (0xc0 + n / 0x40)
  | 3 => Char.ofNat (0xe0 + n / 0x1000)
  | _ => Char.ofNat (0xf0 + n / 0x40000)

/-! ## Blanks and comments -/

/-- Whether a character separates other parts without meaning. -/
def isSpace (c : Char) : Bool := c == ' ' || c == '\t' || c == '\r' || c == '\n'

/-- What surrounds a character between two parts. -/
inductive Blank
  /-- It stands free. -/
  | free
  /-- It is in a comment that goes to the end of the line. -/
  | line
  /-- It is in a block comment, with this many further ones around that. -/
  | block (outer : Nat)

/-- The text behind blanks and comments, when the character before it was in `blank`. -/
def skipFrom : Blank → List Char → Except Stop (List Char)
  | .free, [] => .ok []
  | .free, '/' :: '/' :: text => skipFrom .line text
  | .free, '/' :: '*' :: text => skipFrom (.block 0) text
  | .free, ['/'] => stopAt .unexpectedEnd []
  | .free, '/' :: c :: text => stopPartway (.unexpectedByte (firstByte c)) (c :: text)
  | .free, c :: text => if isSpace c then skipFrom .free text else .ok (c :: text)
  | .line, [] => .ok []
  | .line, c :: text => if c = '\n' then skipFrom .free text else skipFrom .line text
  | .block _, [] => stopAt .unclosedComment []
  | .block outer, '/' :: '*' :: text => skipFrom (.block (outer + 1)) text
  | .block 0, '*' :: '/' :: text => skipFrom .free text
  | .block (outer + 1), '*' :: '/' :: text => skipFrom (.block outer) text
  | .block outer, _ :: text => skipFrom (.block outer) text

/-- The text behind blanks and comments. -/
def skipBlank (text : List Char) : Except Stop (List Char) := skipFrom .free text

/-! ## Names -/

/-- A name that starts with a plain character; characters of raw names may not follow it. -/
def plainIdentifier (text : List Char) : Reading (List Char) :=
  let name := text.takeWhile isNameChar
  let raw := text.takeWhile isRawNameChar
  if name.length < raw.length then stopAt (.invalidIdentifier raw) text
  else .ok (name, text.dropWhile isNameChar)

/-- A name. Behind `r#` a name may be made of more characters; an `r` that begins a raw string
begins no name, and what an `r` at the very end begins is not known. -/
def identifier : List Char → Reading (List Char)
  | [] => stopAt .unexpectedEnd []
  | ['r'] => stopAt .unexpectedEnd ['r']
  | 'r' :: '"' :: text => stopAt .expectedIdentifier ('r' :: '"' :: text)
  | 'r' :: '#' :: text =>
    if (text.head?.map isRawNameChar).getD false then
      .ok (text.takeWhile isRawNameChar, text.dropWhile isRawNameChar)
    else stopAt .expectedIdentifier ('r' :: '#' :: text)
  | c :: text =>
    if isNameStart c then plainIdentifier (c :: text)
    else if isRawNameChar c then
      stopAt (.invalidIdentifier ((c :: text).takeWhile isRawNameChar)) (c :: text)
    else stopAt .expectedIdentifier (c :: text)

/-- The text behind a literal text, if it begins with that. -/
def literal? (expected text : List Char) : Option (List Char) :=
  if expected.isPrefixOf text then some (text.drop expected.length) else none

/-- The text behind a keyword, if it begins with that and no longer name does. -/
def keyword? (expected text : List Char) : Option (List Char) :=
  match literal? expected text with
  | some rest => if (rest.head?.map isNameChar).getD false then none else some rest
  | none => none

/-! ## Escapes -/

/-- The value of a hexadecimal digit. -/
def hexValue? (c : Char) : Option Nat :=
  if '0' ≤ c ∧ c ≤ '9' then some (c.toNat - '0'.toNat)
  else if 'a' ≤ c ∧ c ≤ 'f' then some (c.toNat - 'a'.toNat + 10)
  else if 'A' ≤ c ∧ c ≤ 'F' then some (c.toNat - 'A'.toNat + 10)
  else none

/-- Reads a given number of hexadecimal digits onto a value. -/
def hexDigits (value : Nat) : Nat → List Char → Reading Nat
  | 0, text => .ok (value, text)
  | _ + 1, [] => stopAt .unexpectedEnd []
  | digits + 1, c :: text =>
    match hexValue? c with
    | some digit => hexDigits (value * 16 + digit) digits text
    | none => stopPartway (.invalidEscape .noHexDigit) (c :: text)

/-- The character with a code point; nothing for numbers that are no code points of characters. -/
def charOf? (n : Nat) : Option Char :=
  if h : n.isValidChar then some (Char.ofNatAux n h) else none

/-- Reads the digits and the closing brace of a code point; `read` digits of at most six are
read already. -/
def codePointFrom (value read : Nat) : List Char → Reading Char
  | [] => stopAt .unexpectedEnd []
  | c :: text =>
    if c = '\x7d' then
      if read = 0 then stopAt (.invalidEscape .noDigits) (c :: text)
      else
        match charOf? value with
        | some decoded => .ok (decoded, text)
        | none => stopAt (.invalidEscape .noChar) text
    else if 6 ≤ read then stopPartway (.invalidEscape .noClosingBrace) (c :: text)
    else
      match hexValue? c with
      | some digit => codePointFrom (value * 16 + digit) (read + 1) text
      | none => stopPartway (.invalidEscape .noHexDigit) (c :: text)

/-- Reads what follows a backslash. -/
def escaped : List Char → Reading Char
  | [] => stopAt .unexpectedEnd []
  | '\'' :: text => .ok ('\'', text)
  | '"' :: text => .ok ('"', text)
  | '\\' :: text => .ok ('\\', text)
  | 'n' :: text => .ok ('\n', text)
  | 'r' :: text => .ok ('\r', text)
  | 't' :: text => .ok ('\t', text)
  | '0' :: text => .ok ('\x00', text)
  | 'x' :: text =>
    match hexDigits 0 2 text with
    | .ok (value, rest) => .ok (Char.ofNat value, rest)
    | .error stop => .error stop
  | 'u' :: text =>
    match text with
    | [] => stopAt .unexpectedEnd []
    | c :: digits =>
      if c = '\x7b' then codePointFrom 0 0 digits
      else stopPartway (.invalidEscape .noOpeningBrace) text
  | c :: text => stopPartway (.invalidEscape .unknown) (c :: text)

theorem length_of_hexDigits {digits value : Nat} {text : List Char} {read : Nat × List Char}
    (h : hexDigits value digits text = .ok read) : read.2.length ≤ text.length := by
  induction digits generalizing value text with
  | zero => simp only [hexDigits, Except.ok.injEq] at h; subst h; simp
  | succ digits ih =>
    cases text with
    | nil => simp [hexDigits, stopAt] at h
    | cons c text =>
      simp only [hexDigits] at h
      split at h
      · have := ih h; simp only [List.length_cons]; omega
      · simp [stopPartway] at h

theorem length_of_codePointFrom {text : List Char} {value count : Nat} {read : Char × List Char}
    (h : codePointFrom value count text = .ok read) : read.2.length < text.length := by
  induction text generalizing value count with
  | nil => simp [codePointFrom, stopAt] at h
  | cons c text ih =>
    simp only [codePointFrom] at h
    split at h
    · split at h
      · simp [stopAt] at h
      · split at h
        · simp only [Except.ok.injEq] at h; subst h; simp
        · simp [stopAt] at h
    · split at h
      · simp [stopPartway] at h
      · split at h
        · have := ih h; simp only [List.length_cons]; omega
        · simp [stopPartway] at h

/-- Reading an escape reads something. -/
theorem length_of_escaped {text : List Char} {read : Char × List Char}
    (h : escaped text = .ok read) : read.2.length < text.length := by
  unfold escaped at h
  split at h
  case h_9 text =>
    split at h
    case h_1 value rest hd =>
      have := length_of_hexDigits hd
      simp only [Except.ok.injEq] at h
      subst h; simp only [List.length_cons] at *; omega
    case h_2 => simp at h
  case h_10 text =>
    split at h
    · simp [stopAt] at h
    · split at h
      · have := length_of_codePointFrom h; simp only [List.length_cons]; omega
      · simp [stopPartway] at h
  all_goals first
    | (simp only [Except.ok.injEq] at h; subst h; simp)
    | simp [stopAt, stopPartway] at h

/-! ## Strings -/

/-- Reads a string up to the quote that closes it. Where that is missing, reading stops at
`segment`, the text behind the opening quote or behind the last escape. -/
def stringFrom (segment : List Char) : List Char → Reading (List Char)
  | [] => stopAt .expectedStringEnd segment
  | c :: text =>
    if c = '"' then .ok ([], text)
    else if c = '\\' then
      match h : escaped text with
      | .error stop => .error stop
      | .ok (decoded, rest) =>
        have : rest.length < text.length := length_of_escaped h
        match stringFrom rest rest with
        | .error stop => .error stop
        | .ok (value, rest) => .ok (decoded :: value, rest)
    else
      match stringFrom segment text with
      | .error stop => .error stop
      | .ok (value, rest) => .ok (c :: value, rest)
termination_by text => text.length
decreasing_by all_goals (simp only [List.length_cons]; omega)

/-- Reads a raw string up to its ending, if there is one. -/
def rawFrom (ending : List Char) : List Char → Option (List Char × List Char)
  | [] => none
  | c :: text =>
    if ending.isPrefixOf (c :: text) then some ([], (c :: text).drop ending.length)
    else (rawFrom ending text).map fun (value, rest) => (c :: value, rest)

/-- Reads a raw string behind its `r`: as many hashes as the ending has, and a quote. -/
def rawString (text : List Char) : Reading (List Char) :=
  let hashes := text.takeWhile (· == '#')
  match text.dropWhile (· == '#') with
  | '"' :: body =>
    match rawFrom ('"' :: hashes) body with
    | some read => .ok read
    | none => stopAt .expectedStringEnd body
  | rest => stopAt .expectedString rest

/-- Reads a string. -/
def string : List Char → Reading (List Char)
  | '"' :: text => stringFrom text text
  | 'r' :: text => rawString text
  | text => stopAt .expectedString text

/-- Reads a truth value; what follows it is not looked at. -/
def boolean (text : List Char) : Reading Bool :=
  match literal? ['t', 'r', 'u', 'e'] text with
  | some rest => .ok (true, rest)
  | none =>
    match literal? ['f', 'a', 'l', 's', 'e'] text with
    | some rest => .ok (false, rest)
    | none => stopAt .expectedBoolean text

/-! ## Characters -/

/-- The text behind a character in single quotes, when the opening quote is read. -/
def skipChar : List Char → Except Stop (List Char)
  | [] => stopAt .unexpectedEnd []
  | '\\' :: text => do
    let (_, rest) ← escaped text
    match rest with
    | '\'' :: rest => .ok rest
    | _ => stopAt .expectedChar rest
  | c :: '\'' :: rest => if c = '\'' then stopAt .expectedChar (c :: c :: rest) else .ok rest
  | text => stopAt .expectedChar text

end DiceLauncher.Settings
