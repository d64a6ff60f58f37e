import DiceLauncher.Proofs.RollSpec.Reading

/-!
# Where a text stops being a dice term

A text that is not written as a roll goes wrong in one of five ways. `FailsAt` states them for
a whole text, without the scanner, each with the column at which the text goes wrong and the
name of what is missing there.

Results:
* `written_or_failsAt`: a text is written as a roll or goes wrong in one of the five ways.
* `FailsAt.exists_scan_eq`: the scanner fails where the text goes wrong.
* `FailsAt.unique`: a text goes wrong in one way only.
* `FailsAt.exists_before`: what stands before the fault.
-/

namespace DiceLauncher.DiceTerm

/-! ## Specification -/

/-- A text does not begin with a digit, so that a run of digits before it ends there. -/
def EndsRun (text : List Char) : Prop := ∀ c ∈ text.head?, c.isDigit = false

/-- A text begins with a sign and a digit. -/
def BeginsAdjustment (text : List Char) : Prop :=
  ∃ sign digit rest, text = sign :: digit :: rest ∧ (sign = '+' ∨ sign = '-') ∧ digit.isDigit

/-- A text is no dice term: the column at which it goes wrong, and what is missing there. -/
inductive FailsAt : List Char → Nat → String → Prop
  /-- The text does not begin with a digit. -/
  | count {text : List Char} (hstart : EndsRun text) : FailsAt text 1 "count"
  /-- No separator follows the digits at the start. -/
  | roll {count rest : List Char} (hcount : Decimal.IsRun count) (hends : EndsRun rest)
      (hrest : ∀ c ∈ rest.head?, c ≠ 'd' ∧ c ≠ 'D') : FailsAt (count ++ rest) 1 "notation"
  /-- No digit follows the separator. -/
  | sides {count rest : List Char} {separator : Char} (hcount : Decimal.IsRun count)
      (hseparator : separator = 'd' ∨ separator = 'D') (hends : EndsRun rest) :
      FailsAt (count ++ separator :: rest) (count.length + 2) "sides"
  /-- Something that does not begin a modifier follows the sides. -/
  | endOrModifier {count sides rest : List Char} {separator : Char}
      (hcount : Decimal.IsRun count) (hseparator : separator = 'd' ∨ separator = 'D')
      (hsides : Decimal.IsRun sides) (hends : EndsRun rest) (hne : rest ≠ [])
      (hrest : ¬ BeginsAdjustment rest) :
      FailsAt (count ++ separator :: (sides ++ rest)) (count.length + sides.length + 2)
        "EOI or modifier"
  /-- Something follows the modifier. -/
  | endOfTerm {count sides digits rest : List Char} {separator sign : Char}
      (hcount : Decimal.IsRun count) (hseparator : separator = 'd' ∨ separator = 'D')
      (hsides : Decimal.IsRun sides) (hsign : sign = '+' ∨ sign = '-')
      (hdigits : Decimal.IsRun digits) (hends : EndsRun rest) (hne : rest ≠ []) :
      FailsAt (count ++ separator :: (sides ++ sign :: (digits ++ rest)))
        (count.length + sides.length + digits.length + 3) "EOI"

/-! ## The ways a text goes wrong -/

/-- A text does not begin with a digit, or it begins with a run of digits that ends somewhere. -/
theorem endsRun_or_exists_run (text : List Char) :
    EndsRun text ∨ ∃ run rest, text = run ++ rest ∧ Decimal.IsRun run ∧ EndsRun rest := by
  have hends : EndsRun (text.dropWhile Char.isDigit) := by
    intro c hc
    have hhead := List.head?_dropWhile_not Char.isDigit text
    rwa [Option.mem_def.mp hc] at hhead
  have hcut : text.takeWhile Char.isDigit ++ text.dropWhile Char.isDigit = text :=
    List.takeWhile_append_dropWhile
  by_cases hnil : text.takeWhile Char.isDigit = []
  · rw [hnil, List.nil_append] at hcut
    exact .inl (hcut ▸ hends)
  · exact .inr ⟨_, _, hcut.symm, isRun_takeWhile hnil, hends⟩

/-- A modifier reaches as far as its digits. -/
theorem BeginsAdjustment.exists_run {text : List Char} (h : BeginsAdjustment text) :
    ∃ sign digits rest, text = sign :: (digits ++ rest) ∧ (sign = '+' ∨ sign = '-') ∧
      Decimal.IsRun digits ∧ EndsRun rest := by
  obtain ⟨sign, digit, rest, rfl, hsign, hdigit⟩ := h
  obtain hends | ⟨digits, rest', hrest, hdigits, hends⟩ := endsRun_or_exists_run (digit :: rest)
  · simp [EndsRun, hdigit] at hends
  · exact ⟨sign, digits, rest', by rw [hrest], hsign, hdigits, hends⟩

/-- What follows the sides of a term ends it, or goes wrong at once or behind a modifier. -/
theorem written_or_failsAt_behind_sides {count sides rest : List Char} {separator : Char}
    (hcount : Decimal.IsRun count) (hseparator : separator = 'd' ∨ separator = 'D')
    (hsides : Decimal.IsRun sides) (hends : EndsRun rest) :
    (∃ term : DiceTerm, term.WellFormed ∧
        count ++ separator :: (sides ++ rest) = term.written) ∨
      ∃ column expected, FailsAt (count ++ separator :: (sides ++ rest)) column expected := by
  rcases eq_or_ne rest [] with rfl | hne
  · exact .inl ⟨⟨count, separator, sides, none⟩, ⟨hcount, hseparator, hsides, by simp⟩, rfl⟩
  by_cases hbegins : BeginsAdjustment rest
  · obtain ⟨sign, digits, rest, rfl, hsign, hdigits, hends⟩ := hbegins.exists_run
    rcases eq_or_ne rest [] with rfl | hne
    · refine .inl ⟨⟨count, separator, sides, some ⟨sign == '-', digits⟩⟩,
        ⟨hcount, hseparator, hsides, by simpa using hdigits⟩, ?_⟩
      rcases hsign with rfl | rfl <;> simp [written, writtenTail, Adjustment.written]
    · exact .inr ⟨_, _, .endOfTerm hcount hseparator hsides hsign hdigits hends hne⟩
  · exact .inr ⟨_, _, .endOrModifier hcount hseparator hsides hends hne hbegins⟩

/-- A text is written as a roll or goes wrong somewhere. -/
theorem written_or_failsAt (text : List Char) :
    (∃ term : DiceTerm, term.WellFormed ∧ text = term.written) ∨
      ∃ column expected, FailsAt text column expected := by
  -- the text is cut from left to right, and every run is cut off where it ends
  obtain hstart | ⟨count, rest, rfl, hcount, hends⟩ := endsRun_or_exists_run text
  · exact .inr ⟨_, _, .count hstart⟩
  by_cases hrest : ∀ c ∈ rest.head?, c ≠ 'd' ∧ c ≠ 'D'
  · exact .inr ⟨_, _, .roll hcount hends hrest⟩
  obtain ⟨separator, rest, rfl, hseparator⟩ :
      ∃ separator rest', rest = separator :: rest' ∧ (separator = 'd' ∨ separator = 'D') := by
    cases rest with
    | nil => simp at hrest
    | cons c rest =>
      refine ⟨c, rest, rfl, ?_⟩
      by_contra hc
      rw [not_or] at hc
      exact hrest (by simpa using hc)
  obtain hends | ⟨sides, rest, rfl, hsides, hends⟩ := endsRun_or_exists_run rest
  · exact .inr ⟨_, _, .sides hcount hseparator hends⟩
  · exact written_or_failsAt_behind_sides hcount hseparator hsides hends

/-! ## Where the scanner fails -/

theorem endsRun_sign {sign : Char} (hsign : sign = '+' ∨ sign = '-') (rest : List Char) :
    EndsRun (sign :: rest) := by
  rcases hsign with rfl | rfl <;> simp [EndsRun]

theorem EndsRun.takeWhile_eq_nil {text : List Char} (h : EndsRun text) :
    text.takeWhile Char.isDigit = [] := by
  cases text with
  | nil => rfl
  | cons c text =>
    have hc : c.isDigit = false := h c rfl
    simp [hc]

theorem scanAdjustment_of_not_begins {text : List Char} (matched : Nat) (hne : text ≠ [])
    (h : ¬ BeginsAdjustment text) :
    scanAdjustment matched text = .error ⟨matched, .endOrModifier⟩ := by
  cases text with
  | nil => exact absurd rfl hne
  | cons sign rest =>
    rw [scanAdjustment, if_neg]
    intro hsign
    simp only [Bool.and_eq_true, isSign, Bool.or_eq_true, beq_iff_eq, Bool.not_eq_true',
      List.isEmpty_eq_false_iff] at hsign
    cases rest with
    | nil => simp at hsign
    | cons digit rest =>
      refine h ⟨sign, digit, rest, rfl, hsign.1, ?_⟩
      by_contra hdigit
      simp [hdigit] at hsign

theorem scanAdjustment_behind_digits {digits rest : List Char} {sign : Char} (matched : Nat)
    (hsign : sign = '+' ∨ sign = '-') (hdigits : Decimal.IsRun digits) (hends : EndsRun rest)
    (hne : rest ≠ []) :
    scanAdjustment matched (sign :: (digits ++ rest)) =
      .error ⟨matched + 1 + digits.length, .endOfTerm⟩ := by
  have hspan := (span_run hdigits rest hends).1
  have hisSign : isSign sign = true := by rcases hsign with rfl | rfl <;> rfl
  rw [scanAdjustment]
  simp [hspan, hisSign, hdigits.ne_nil, hne]

/-- The scanner fails where the text goes wrong, and names what is missing there. -/
theorem FailsAt.exists_scan_eq {text : List Char} {column : Nat} {expected : String}
    (h : FailsAt text column expected) :
    ∃ fault, scan text = .error fault ∧ column = fault.matched + 1 ∧
      expected = fault.expected.name := by
  cases h with
  | count hstart => exact ⟨⟨0, .count⟩, by simp [scan, hstart.takeWhile_eq_nil], rfl, rfl⟩
  | @roll count rest hcount hends hrest =>
    refine ⟨⟨0, .roll⟩, ?_, rfl, rfl⟩
    obtain ⟨htake, hdrop⟩ := span_run hcount rest hends
    simp only [scan, htake, hdrop]
    cases rest with
    | nil => simp [hcount.ne_nil]
    | cons c rest =>
      have hc : isSeparator c = false := by simpa [isSeparator] using hrest
      simp [hcount.ne_nil, hc]
  | @sides count rest separator hcount hseparator hends =>
    refine ⟨⟨count.length + 1, .sides⟩, ?_, rfl, rfl⟩
    have hsep : isSeparator separator = true := (isSeparator_iff _).mpr hseparator
    obtain ⟨htake, hdrop⟩ := span_run hcount (separator :: rest)
      (by simpa using isDigit_separator hseparator)
    simp only [scan, htake, hdrop]
    simp [hcount.ne_nil, hsep, hends.takeWhile_eq_nil]
  | @endOrModifier count sides rest separator hcount hseparator hsides hends hne hrest =>
    refine ⟨⟨count.length + 1 + sides.length, .endOrModifier⟩, ?_, by dsimp only; omega, rfl⟩
    rw [scan_append hcount hseparator hsides hends, scanAdjustment_of_not_begins _ hne hrest]
    rfl
  | @endOfTerm count sides digits rest separator sign hcount hseparator hsides hsign hdigits hends
      hne =>
    refine ⟨⟨count.length + 1 + sides.length + 1 + digits.length, .endOfTerm⟩, ?_,
      by dsimp only; omega, rfl⟩
    rw [scan_append hcount hseparator hsides (endsRun_sign hsign _),
      scanAdjustment_behind_digits _ hsign hdigits hends hne]
    rfl

/-- A text goes wrong at one column only, where one thing is missing. -/
theorem FailsAt.unique {text : List Char} {column column' : Nat} {expected expected' : String}
    (h : FailsAt text column expected) (h' : FailsAt text column' expected') :
    column = column' ∧ expected = expected' := by
  obtain ⟨fault, hscan, rfl, rfl⟩ := h.exists_scan_eq
  obtain ⟨fault', hscan', rfl, rfl⟩ := h'.exists_scan_eq
  obtain rfl : fault = fault' := Except.error.inj (hscan.symm.trans hscan')
  exact ⟨rfl, rfl⟩

/-- A text goes wrong somewhere exactly if it is not written as a roll. -/
theorem exists_failsAt_iff {text : String} :
    (∃ column expected, FailsAt text.toList column expected) ↔
      ¬ ∃ term : DiceTerm, term.Spells text := by
  constructor
  · rintro ⟨column, expected, h⟩ ⟨term, hterm⟩
    obtain ⟨fault, hscan, -⟩ := h.exists_scan_eq
    rw [spells_iff.mp hterm] at hscan
    exact absurd hscan (by simp)
  · intro h
    obtain ⟨term, hwf, htext⟩ | hfails := written_or_failsAt text.toList
    · exact absurd ⟨term, hwf, htext⟩ h
    · exact hfails

/-! ## Before the fault -/

theorem not_isBreak_of_isDigit {c : Char} (h : c.isDigit) : Malformed.isBreak c = false := by
  by_contra hbreak
  simp only [Malformed.isBreak, Bool.not_eq_false, Bool.or_eq_true, beq_iff_eq] at hbreak
  rcases hbreak with rfl | rfl <;> exact absurd h (by decide)

/-- A text goes wrong behind characters that are no line breaks. -/
theorem FailsAt.exists_before {text : List Char} {column : Nat} {expected : String}
    (h : FailsAt text column expected) :
    ∃ before rest, text = before ++ rest ∧ column = before.length + 1 ∧
      ∀ c ∈ before, Malformed.isBreak c = false := by
  have hrun {run : List Char} (h : Decimal.IsRun run) : ∀ c ∈ run, Malformed.isBreak c = false :=
    fun c hc => not_isBreak_of_isDigit (h.isDigit c hc)
  have hsep {c : Char} (h : c = 'd' ∨ c = 'D') : Malformed.isBreak c = false := by
    rcases h with rfl | rfl <;> rfl
  cases h with
  | count hstart => exact ⟨[], text, rfl, rfl, by simp⟩
  | roll hcount hends hrest => exact ⟨[], _, rfl, rfl, by simp⟩
  | @sides count rest separator hcount hseparator hends =>
    refine ⟨count ++ [separator], rest, by simp, by simp, ?_⟩
    simp only [List.forall_mem_append, List.forall_mem_cons]
    exact ⟨hrun hcount, hsep hseparator, by simp⟩
  | @endOrModifier count sides rest separator hcount hseparator hsides hends hne hrest =>
    refine ⟨count ++ separator :: sides, rest, by simp, by simp; omega, ?_⟩
    simp only [List.forall_mem_append, List.forall_mem_cons]
    exact ⟨hrun hcount, hsep hseparator, hrun hsides⟩
  | @endOfTerm count sides digits rest separator sign hcount hseparator hsides hsign hdigits hends
      hne =>
    have hsignBreak : Malformed.isBreak sign = false := by rcases hsign with rfl | rfl <;> rfl
    refine ⟨count ++ separator :: (sides ++ sign :: digits), rest, by simp, by simp; omega, ?_⟩
    simp only [List.forall_mem_append, List.forall_mem_cons]
    exact ⟨hrun hcount, hsep hseparator, hrun hsides, hsignBreak, hrun hdigits⟩

end DiceLauncher.DiceTerm
