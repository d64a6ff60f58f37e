import DiceLauncher.Proofs.RollSpec.RoundTrip
import DiceLauncher.Session.Command

/-!
# Reading an input line

A line is taken for what it is without the blanks around it. `IsTrigger` says how a trigger is
written, without the reader.

Results:
* `Command.parse_cases`: the three ways a line is read.
* `Command.parse_eq_help_iff`: the line that asks for the help.
* `Command.index?_eq_some_iff`, `Command.parse_eq_trigger_iff`: the lines that are triggers.
* `Command.parse_sign_append`: the trigger sign with a number.
* `Command.terms_of_parse`: the terms of a query are the words of its line.
* `Command.parse_classifies`: which line is read as what.
-/

namespace DiceLauncher.Command

/-! ## Specification -/

/-- A text is the number of an entry: a run of digits, possibly behind a plus sign, that stands for
a number below `2^64`. -/
def IsIndex (text : List Char) (index : Nat) : Prop :=
  ∃ plus digits, text = plus ++ digits ∧ (plus = [] ∨ plus = ['+']) ∧
    Decimal.IsRun digits ∧ Decimal.value digits = index ∧ index < 2 ^ 64

/-- A text is a trigger: the trigger sign, any blanks, and the number of an entry. -/
def IsTrigger (text : List Char) (index : Nat) : Prop :=
  ∃ blanks number, text = '!' :: (blanks ++ number) ∧ (∀ c ∈ blanks, Text.isBlank c) ∧
    IsIndex number index

/-! ## The three ways -/

/-- A line is the help sign, or the trigger sign with a number, or else a query. -/
theorem parse_cases (line : String) :
    (Text.trim line.toList = ['?'] ∧ parse line = .help) ∨
    (∃ rest index, Text.trim line.toList = '!' :: rest ∧
      index? (Text.trim rest) = some index ∧ parse line = .trigger index) ∨
    (Text.trim line.toList ≠ ['?'] ∧
      (∀ rest, Text.trim line.toList = '!' :: rest → index? (Text.trim rest) = none) ∧
      parse line = .query (Query.ofSearch (String.ofList (Text.trim line.toList)))) := by
  rw [parse]
  generalize Text.trim line.toList = trimmed
  fun_cases ofTrimmed trimmed with
  | case1 => exact .inl ⟨rfl, rfl⟩
  | case2 rest index hindex => exact .inr (.inl ⟨rest, index, rfl, hindex, rfl⟩)
  | case3 rest hindex =>
    refine .inr (.inr ⟨by simp, fun rest' hrest => ?_, rfl⟩)
    rwa [← (List.cons.inj hrest).2]
  | case4 trimmed hhelp hsign =>
    exact .inr (.inr ⟨hhelp, fun rest hrest => absurd hrest (hsign rest), rfl⟩)

theorem parse_eq_help_iff {line : String} :
    parse line = .help ↔ Text.trim line.toList = ['?'] := by
  obtain ⟨htrim, hparse⟩ | ⟨rest, index, htrim, -, hparse⟩ | ⟨htrim, -, hparse⟩ :=
    parse_cases line <;> simp [htrim, hparse]

theorem parse_of_index? {line : String} {rest : List Char} {index : Nat}
    (htrim : Text.trim line.toList = '!' :: rest) (hindex : index? (Text.trim rest) = some index) :
    parse line = .trigger index := by
  rw [parse, htrim, ofTrimmed, if_neg (by simp)]
  simp only [hindex]

/-- The terms of a query are the words of its line, whatever blanks stand around them. -/
theorem terms_of_parse {line : String} {query : Query} (h : parse line = .query query) :
    query.terms = (Text.words line.toList).map String.ofList := by
  obtain ⟨-, hparse⟩ | ⟨rest, index, -, -, hparse⟩ | ⟨-, -, hparse⟩ := parse_cases line
  · simp [hparse] at h
  · simp [hparse] at h
  · obtain rfl : Query.ofSearch (String.ofList (Text.trim line.toList)) = query := by
      simpa [hparse] using h
    rw [Query.ofSearch, String.toList_ofList, Text.words_trim]

/-! ## Numbers of entries -/

theorem not_isDigit_plus {digits rest : List Char} (h : Decimal.IsRun digits) :
    digits ≠ '+' :: rest := by
  rintro rfl
  exact absurd (h.isDigit '+' List.mem_cons_self) (by decide)

theorem index?_plus (digits : List Char) :
    index? ('+' :: digits) = (Decimal.read? digits).filter (· < UInt64.size) := by
  unfold index?
  cases hread : Decimal.read? digits <;> simp [Option.filter, hread]

theorem index?_of_ne_plus {text : List Char} (h : ∀ digits, text ≠ '+' :: digits) :
    index? text = (Decimal.read? text).filter (· < UInt64.size) := by
  unfold index?
  split
  · next digits => exact absurd rfl (h digits)
  · cases hread : Decimal.read? text <;> simp [Option.filter, hread]

theorem index?_eq_some_iff {text : List Char} {index : Nat} :
    index? text = some index ↔ IsIndex text index := by
  have hread (digits : List Char) :
      (Decimal.read? digits).filter (· < UInt64.size) = some index ↔
        Decimal.IsRun digits ∧ Decimal.value digits = index ∧ index < 2 ^ 64 := by
    rw [Option.filter_eq_some_iff, Decimal.read?_eq_some_iff, decide_eq_true_iff, and_assoc]
    rfl
  unfold IsIndex
  by_cases hplus : ∃ digits, text = '+' :: digits
  · obtain ⟨digits, rfl⟩ := hplus
    rw [index?_plus, hread]
    constructor
    · intro h
      exact ⟨['+'], digits, rfl, .inr rfl, h⟩
    · rintro ⟨plus, run, htext, rfl | rfl, hrun, hvalue⟩
      · exact absurd htext.symm (not_isDigit_plus hrun)
      · rw [(List.cons.inj htext).2]
        exact ⟨hrun, hvalue⟩
  · have hne : ∀ digits, text ≠ '+' :: digits := not_exists.mp hplus
    rw [index?_of_ne_plus hne, hread]
    constructor
    · intro h
      exact ⟨[], text, rfl, .inl rfl, h⟩
    · rintro ⟨plus, run, rfl, rfl | rfl, hrun, hvalue⟩
      · exact ⟨hrun, hvalue⟩
      · exact absurd rfl (hne run)

theorem IsIndex.isWord {text : List Char} {index : Nat} (h : IsIndex text index) :
    Text.IsWord text := by
  obtain ⟨plus, digits, rfl, hplus, hrun, -⟩ := h
  refine ⟨by simp [hrun.ne_nil], fun c hc => ?_⟩
  rcases List.mem_append.mp hc with hc | hc
  · obtain rfl | rfl := hplus
    · simp at hc
    · rw [List.mem_singleton.mp hc]
      rfl
  · exact Text.not_isBlank_of_isDigit (hrun.isDigit c hc)

theorem isIndex_digits_iff {index other : Nat} :
    IsIndex (Decimal.digits index) other ↔ index = other ∧ index < 2 ^ 64 := by
  constructor
  · rintro ⟨plus, digits, hform, rfl | rfl, -, hvalue, hlt⟩
    · rw [List.nil_append] at hform
      rw [← hform, Decimal.value_digits] at hvalue
      exact ⟨hvalue, hvalue ▸ hlt⟩
    · exact absurd hform (not_isDigit_plus (Decimal.isRun_digits index))
  · rintro ⟨rfl, hlt⟩
    exact ⟨[], _, rfl, .inl rfl, Decimal.isRun_digits index, Decimal.value_digits index, hlt⟩

/-! ## Triggers -/

/-- Behind the sign of a trimmed line, what trimming drops are the blanks in front of the number. -/
theorem isTrigger_trim_iff {line rest : List Char} {index : Nat}
    (h : Text.trim line = '!' :: rest) :
    IsTrigger ('!' :: rest) index ↔ IsIndex (Text.trim rest) index := by
  constructor
  · rintro ⟨blanks, number, hform, hblank, hnumber⟩
    have htrim : Text.trim (blanks ++ number ++ []) = Text.trim number :=
      Text.trim_blanks_append_blanks hblank (by simp) number
    rw [List.append_nil, hnumber.isWord.trim_eq] at htrim
    rw [(List.cons.inj hform).2, htrim]
    exact hnumber
  · intro hnumber
    obtain ⟨before, after, hrest, hbefore, hafter⟩ := Text.exists_blanks_trim rest
    -- a blank behind the number would be the last character of the trimmed line
    have hnil : after = [] := by
      by_contra hne
      obtain ⟨start, blank, rfl⟩ := (List.eq_nil_or_concat after).resolve_left hne
      have hlast : (Text.trim line).getLast? = some blank := by
        rw [h, hrest, List.concat_eq_append, ← List.append_assoc, ← List.cons_append,
          List.getLast?_concat]
      have hblank : Text.isBlank blank := hafter blank (by simp)
      simp [Text.not_isBlank_of_getLast?_trim hlast] at hblank
    rw [hnil, List.append_nil] at hrest
    exact ⟨before, _, by rw [← hrest], hbefore, hnumber⟩

theorem parse_eq_trigger_iff {line : String} {index : Nat} :
    parse line = .trigger index ↔ IsTrigger (Text.trim line.toList) index := by
  obtain ⟨htrim, hparse⟩ | ⟨rest, other, htrim, hindex, hparse⟩ | ⟨-, hnone, hparse⟩ :=
    parse_cases line
  · rw [hparse, htrim]
    simp [IsTrigger]
  · rw [hparse, htrim, isTrigger_trim_iff htrim, ← index?_eq_some_iff, hindex]
    simp
  · have hnot : ¬ IsTrigger (Text.trim line.toList) index := by
      intro htrigger
      obtain ⟨blanks, number, hform, -⟩ := id htrigger
      rw [hform, isTrigger_trim_iff hform, ← index?_eq_some_iff, hnone _ hform] at htrigger
      simp at htrigger
    simp [hparse, hnot]

/-- A line is a query if it is neither the help sign nor a trigger. -/
theorem parse_eq_query_iff {line : String} {query : Query} :
    parse line = .query query ↔ Text.trim line.toList ≠ ['?'] ∧
      (∀ index, ¬ IsTrigger (Text.trim line.toList) index) ∧
      query = ⟨String.ofList (Text.trim line.toList),
        (Text.words line.toList).map String.ofList⟩ := by
  simp only [ne_eq, ← parse_eq_help_iff, ← parse_eq_trigger_iff]
  obtain ⟨-, hparse⟩ | ⟨rest, other, -, -, hparse⟩ | ⟨-, -, hparse⟩ := parse_cases line
  · simp [hparse]
  · simp [hparse]
  · simp [hparse, Query.ofSearch, eq_comm]

/-! ## What stands behind the sign -/

theorem isWord_sign_digits (index : Nat) : Text.IsWord ('!' :: Decimal.digits index) := by
  have hrun := Decimal.isRun_digits index
  refine ⟨List.cons_ne_nil _ _, List.forall_mem_cons.mpr ⟨rfl, fun c hc => ?_⟩⟩
  exact Text.not_isBlank_of_isDigit (hrun.isDigit c hc)

theorem toList_sign_append (index : Nat) :
    ("!" ++ Decimal.render index).toList = '!' :: Decimal.digits index := by
  simp [Decimal.render]

/-- The trigger sign with the decimal text of a number is a trigger if that is below `2^64`, and
else a query. -/
theorem parse_sign_render (index : Nat) :
    parse ("!" ++ Decimal.render index) =
      if index < 2 ^ 64 then .trigger index
      else .query ⟨"!" ++ Decimal.render index, ["!" ++ Decimal.render index]⟩ := by
  have hword := isWord_sign_digits index
  have hdigits : Text.IsWord (Decimal.digits index) :=
    ⟨(Decimal.isRun_digits index).ne_nil, fun c hc => hword.not_blank c (List.mem_cons_of_mem _ hc)⟩
  have htrigger (other : Nat) :
      IsTrigger ('!' :: Decimal.digits index) other ↔ index = other ∧ index < 2 ^ 64 := by
    rw [isTrigger_trim_iff hword.trim_eq, hdigits.trim_eq, isIndex_digits_iff]
  split_ifs with hlt
  · rw [parse_eq_trigger_iff, toList_sign_append, hword.trim_eq, htrigger]
    exact ⟨rfl, hlt⟩
  · rw [parse_eq_query_iff, toList_sign_append, hword.trim_eq, hword.words_eq,
      ← toList_sign_append]
    refine ⟨?_, fun other => ?_, by simp⟩
    · rw [toList_sign_append]
      simp [hdigits.ne_nil]
    · rw [toList_sign_append, htrigger]
      exact fun h => hlt h.2

/-- The trigger sign and anything that begins no number make a query. -/
theorem exists_query_of_sign {line : String} {blanks rest : List Char} {c : Char}
    (hline : line.toList = '!' :: (blanks ++ c :: rest)) (hblanks : ∀ b ∈ blanks, Text.isBlank b)
    (hblank : Text.isBlank c = false) (hplus : c ≠ '+') (hdigit : c.isDigit = false) :
    ∃ query, parse line = .query query := by
  have htrim : Text.trim line.toList = '!' :: (blanks ++ c :: Text.trimEnd rest) := by
    rw [hline, Text.trim, Text.trimStart_cons (by decide), ← List.cons_append,
      Text.trimEnd_append_cons _ hblank, List.cons_append]
  have hnot (index : Nat) : ¬ IsTrigger ('!' :: (blanks ++ c :: Text.trimEnd rest)) index := by
    rintro ⟨others, number, hform, hothers, hnumber⟩
    -- without the blanks on both sides, the number begins with the character
    have hbehind := congrArg Text.trimStart (List.cons.inj hform).2
    rw [Text.trimStart_blanks_append hblanks, Text.trimStart_blanks_append hothers,
      Text.trimStart_cons hblank, hnumber.isWord.trimStart_eq] at hbehind
    obtain ⟨plus, digits, rfl, rfl | rfl, hrun, -⟩ := hnumber
    · rw [List.nil_append] at hbehind
      have hfirst : c.isDigit := hrun.isDigit c (by simp [← hbehind])
      simp [hdigit] at hfirst
    · exact hplus (List.cons.inj hbehind).1
  refine ⟨_, parse_eq_query_iff.mpr ⟨?_, ?_, rfl⟩⟩
  · simp [htrim]
  · rw [htrim]
    exact hnot

/-! ## Every line -/

/-- **What a line asks for.** It is read without the blanks around it: `?` is the help sign, the
trigger sign with a number below `2^64` behind any blanks is a trigger, and every other line is a
query, with the trimmed line for its text and the words of the line for its terms. So the trigger
sign makes a query with a greater number, and with anything that neither is blank nor begins a
number, such as a minus sign. -/
theorem parse_classifies :
    (∀ line before after : String, (∀ c ∈ before.toList, Text.isBlank c) →
      (∀ c ∈ after.toList, Text.isBlank c) → parse (before ++ line ++ after) = parse line) ∧
    (∀ line, parse line = .help ↔ Text.trim line.toList = ['?']) ∧
    (∀ line index, parse line = .trigger index ↔ IsTrigger (Text.trim line.toList) index) ∧
    (∀ line query, parse line = .query query ↔ Text.trim line.toList ≠ ['?'] ∧
      (∀ index, ¬ IsTrigger (Text.trim line.toList) index) ∧
      query = ⟨String.ofList (Text.trim line.toList),
        (Text.words line.toList).map String.ofList⟩) ∧
    (∀ index, parse ("!" ++ Decimal.render index) =
      if index < 2 ^ 64 then .trigger index
      else .query ⟨"!" ++ Decimal.render index, ["!" ++ Decimal.render index]⟩) ∧
    ∀ (line : String) (blanks rest : List Char) (c : Char),
      line.toList = '!' :: (blanks ++ c :: rest) → (∀ b ∈ blanks, Text.isBlank b) →
      Text.isBlank c = false → c ≠ '+' → c.isDigit = false →
      ∃ query, parse line = .query query := by
  refine ⟨fun line before after hbefore hafter => ?_, fun _ => parse_eq_help_iff,
    fun _ _ => parse_eq_trigger_iff, fun _ _ => parse_eq_query_iff, parse_sign_render,
    fun _ _ _ _ => exists_query_of_sign⟩
  rw [parse, String.toList_append, String.toList_append,
    Text.trim_blanks_append_blanks hbefore hafter, parse]

/-- A padded trigger with a plus sign and leading zeros, and a minus sign behind a blank. -/
theorem parse_classifies_padded :
    (∀ c ∈ "\u3000".toList, Text.isBlank c) ∧ (∀ c ∈ "\t ".toList, Text.isBlank c) ∧
    parse ("\u3000" ++ "!\u2003+007" ++ "\t ") = .trigger 7 ∧
    "! -7".toList = '!' :: ([' '] ++ '-' :: ['7']) ∧ (∀ b ∈ [' '], Text.isBlank b) ∧
    Text.isBlank '-' = false ∧ '-' ≠ '+' ∧ '-'.isDigit = false ∧
    ∃ query, parse "! -7" = .query query := by
  obtain ⟨hpadded, -, htrigger, -, -, hother⟩ := parse_classifies
  have hbefore : ∀ c ∈ "\u3000".toList, Text.isBlank c := by simp [Text.isBlank]
  have hafter : ∀ c ∈ "\t ".toList, Text.isBlank c := by simp [Text.isBlank]
  have hblanks : ∀ b ∈ [' '], Text.isBlank b := by simp [Text.isBlank]
  have hline : "! -7".toList = '!' :: ([' '] ++ '-' :: ['7']) := rfl
  refine ⟨hbefore, hafter, ?_, hline, hblanks, by decide, by decide, by decide,
    hother _ _ _ _ hline hblanks (by decide) (by decide) (by decide)⟩
  rw [hpadded _ _ _ hbefore hafter, htrigger]
  have hindex : IsIndex ['+', '0', '0', '7'] 7 :=
    ⟨['+'], ['0', '0', '7'], rfl, .inr rfl, ⟨by simp, by simp⟩, by decide, by decide⟩
  exact ⟨['\u2003'], _, by decide +kernel, by simp [Text.isBlank], hindex⟩

end DiceLauncher.Command
