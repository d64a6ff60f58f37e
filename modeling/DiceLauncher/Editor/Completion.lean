import DiceLauncher.Launcher.Catalog
import DiceLauncher.RollSpec.Term
import DiceLauncher.Text.Blank
import DiceLauncher.Text.Bytes

/-!
# Completion

A word that ends in the separator of a dice term, or in the first digits of its
sides, is completed to the sizes of the quick rolls.

The word to complete is taken to start one byte behind the last blank before the
cursor. Behind a blank of several bytes that is no boundary of the line, and then
there is no completion at all.
-/

namespace DiceLauncher.Editor

/-- A possible completion. -/
structure Candidate where
  /-- What is shown in the list of candidates. -/
  display : String
  /-- What takes the place of the word. -/
  replacement : String
  deriving DecidableEq, Repr

/-- Where the word to complete starts, and its candidates. -/
structure Completion where
  /-- The position of the first byte of the word. -/
  start : Nat
  /-- The candidates, smallest size first. -/
  candidates : List Candidate
  deriving DecidableEq, Repr

/-- The candidates for a word whose count is `count`, typed up to the separator and the first
digits of the sides. -/
def sizeCandidates (count : List Char) (separator : Char) (typed : List Char) :
    List Candidate :=
  let sizes := Catalog.quickRolls.map fun (size, _) => Decimal.digits size.toNat
  (sizes.filter fun size => typed.isPrefixOf size).map fun size =>
    ⟨String.ofList (count ++ 'd' :: size), String.ofList (count ++ separator :: size)⟩

/-- The candidates for a word, split at its first separator. -/
def candidates (word : List Char) : List Candidate :=
  let count := word.takeWhile fun c => !DiceTerm.isSeparator c
  match word.dropWhile fun c => !DiceTerm.isSeparator c with
  | [] => []
  | separator :: typed =>
    if !count.isEmpty && count.all Char.isDigit && typed.all Char.isDigit then
      sizeCandidates count separator typed
    else []

/-- Where the word at the end of a text is taken to start: one byte behind the last blank. -/
def wordStart (text : List Char) : Nat :=
  match text.reverse.dropWhile fun c => !Text.isBlank c with
  | [] => 0
  | _ :: earlier => Text.byteLength earlier + 1

/-- Completes the word before the cursor; nothing if the cursor or the start of the word is no
boundary of the line. -/
def complete (line : String) (cursor : Nat) : Option Completion := do
  let typed ← Text.before? cursor line.toList
  let start := wordStart typed
  let word ← Text.from? start typed
  some ⟨start, candidates word⟩

end DiceLauncher.Editor
