import DiceLauncher.Decimal
import Mathlib

/-!
# Reading and writing digits

Results:
* `isRun_digits`: the digits of a number are a run of digits.
* `value_digits`: they stand for that number.
* `read?_eq_some_iff`: the texts that are read as numbers.
* `toNat_word`: a value below `2^64` is unchanged as a word.
* `digits_value`: the digits of the value of a run are the run without leading zeros.
-/

namespace DiceLauncher.Decimal

/-- A non-empty run of decimal digits. It may have any length, and zeros may lead. -/
structure IsRun (run : List Char) : Prop where
  ne_nil : run ≠ []
  isDigit : ∀ c ∈ run, c.isDigit

theorem isRun_digits (n : Nat) : IsRun (digits n) :=
  ⟨Nat.toDigits_ne_nil, fun _ hc => Nat.isDigit_of_mem_toDigits (by decide) (by decide) hc⟩

theorem value_digits (n : Nat) : value (digits n) = n := Nat.ofDigitChars_ten_toDigits

/-- Runs of digits are read, and nothing else. -/
theorem read?_eq_some_iff {text : List Char} {n : Nat} :
    read? text = some n ↔ IsRun text ∧ value text = n := by
  constructor
  · intro h
    unfold read? at h
    split_ifs at h with hrun
    exact ⟨⟨hrun.1, List.all_eq_true.mp hrun.2⟩, Option.some.inj h⟩
  · rintro ⟨hrun, rfl⟩
    rw [read?, if_pos ⟨hrun.ne_nil, List.all_eq_true.mpr hrun.isDigit⟩]

/-- The digits are the characters from `0` to `9`. -/
theorem toNat_of_isDigit {c : Char} (h : c.isDigit) : 48 ≤ c.toNat ∧ c.toNat ≤ 57 := by
  simpa [Char.isDigit, UInt32.le_iff_toNat_le] using h

theorem word?_eq (run : List Char) :
    word? run = if value run < 2 ^ 64 then some (UInt64.ofNat (value run)) else none := rfl

theorem toNat_word {run : List Char} (h : value run < 2 ^ 64) :
    (UInt64.ofNat (value run)).toNat = value run :=
  UInt64.toNat_ofNat_of_lt (by simpa [UInt64.size] using h)

/-! ## Leading zeros -/

/-- A run of digits without the zeros in front of it. Of a run of zeros one is kept. -/
def trimZeros (run : List Char) : List Char :=
  match run.dropWhile (· == '0') with
  | [] => ['0']
  | c :: rest => c :: rest

/-- A run of digits has no redundant zeros: it is a single zero, or it begins with another
digit. -/
def IsNormal (run : List Char) : Prop := run = ['0'] ∨ run.head? ≠ some '0'

theorem value_concat (run : List Char) (c : Char) :
    value (run ++ [c]) = 10 * value run + (c.toNat - 48) := by
  rw [value, Nat.ofDigitChars_append]
  rfl

theorem digits_toNat_sub {c : Char} (h : c.isDigit) : digits (c.toNat - 48) = [c] := by
  have hrange := toNat_of_isDigit h
  have hlt : c.toNat - 48 < 10 := by omega
  have hchar : (c.toNat - 48).digitChar = c := by
    rw [← Char.toNat_inj, Nat.toNat_digitChar_of_lt_ten hlt]
    omega
  rw [digits, Nat.toDigits_of_lt_base hlt, hchar]

/-- A run without redundant zeros is the decimal text of its value. -/
theorem digits_value_of_isNormal {run : List Char} (hrun : IsRun run) (hnormal : IsNormal run) :
    digits (value run) = run := by
  induction run using List.reverseRecOn with
  | nil => exact absurd rfl hrun.ne_nil
  | append_singleton run c ih =>
    have hc : c.isDigit := hrun.isDigit c (by simp)
    have hrange := toNat_of_isDigit hc
    rw [value_concat]
    rcases eq_or_ne run [] with rfl | hne
    · simpa [value] using digits_toNat_sub hc
    · have hzero : run.head? ≠ some '0' := by
        rcases hnormal with heq | hhead
        · simp [hne, List.append_eq_singleton_iff] at heq
        · rwa [List.head?_append_of_ne_nil _ hne] at hhead
      have hdigits : digits (value run) = run :=
        ih ⟨hne, fun d hd => hrun.isDigit d (by simp [hd])⟩ (.inr hzero)
      have hpos : 0 < value run := by
        refine Nat.pos_of_ne_zero fun hvalue => hzero ?_
        rw [← hdigits, hvalue]
        rfl
      calc digits (10 * value run + (c.toNat - 48))
        _ = digits (value run) ++ digits (c.toNat - 48) :=
          (Nat.toDigits_append_toDigits (by decide) hpos (by omega)).symm
        _ = run ++ [c] := by rw [hdigits, digits_toNat_sub hc]

theorem value_dropWhile_zero (run : List Char) :
    value (run.dropWhile (· == '0')) = value run := by
  induction run with
  | nil => rfl
  | cons c run ih =>
    by_cases hc : c = '0'
    · rw [List.dropWhile_cons_of_pos (by simp [hc]), ih, hc, value, value, Nat.ofDigitChars_cons]
      rfl
    · rw [List.dropWhile_cons_of_neg (by simp [hc])]

theorem isNormal_trimZeros (run : List Char) : IsNormal (trimZeros run) := by
  unfold trimZeros
  cases hdrop : run.dropWhile (· == '0') with
  | nil => exact .inl rfl
  | cons c rest =>
    have hhead := List.head?_dropWhile_not (· == '0') run
    rw [hdrop] at hhead
    exact .inr (by simpa using hhead)

/-- The decimal text of the value of a run is the run without its redundant zeros. -/
theorem digits_value {run : List Char} (hrun : IsRun run) :
    digits (value run) = trimZeros run := by
  have hnormal := isNormal_trimZeros run
  have hvalue := value_dropWhile_zero run
  have hsub := (List.dropWhile_sublist (l := run) (· == '0')).subset
  unfold trimZeros at hnormal ⊢
  cases hdrop : run.dropWhile (· == '0') with
  | nil =>
    rw [hdrop] at hvalue
    rw [← hvalue]
    rfl
  | cons c rest =>
    rw [hdrop] at hvalue hsub hnormal
    rw [← hvalue]
    exact digits_value_of_isNormal
      ⟨List.cons_ne_nil c rest, fun d hd => hrun.isDigit d (hsub hd)⟩ hnormal

theorem trimZeros_eq_self_iff {run : List Char} (hrun : IsRun run) :
    trimZeros run = run ↔ IsNormal run := by
  refine ⟨fun h => h ▸ isNormal_trimZeros run, fun h => ?_⟩
  rw [← digits_value hrun, digits_value_of_isNormal hrun h]

end DiceLauncher.Decimal
