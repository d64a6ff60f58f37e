import DiceLauncher.Settings.Lexeme
import Mathlib

/-!
# Quoted texts are read back

Every character inside quotes stands for itself, or a backslash stands before it and what follows
tells the character. What is written for a character is one of the two, and no form runs into the
text behind it: a code point ends at its brace. So a quoted text is read back whatever its
characters are, and reading stops right behind its closing quote.

Results:
* `codePointFrom_toDigits`: the hexadecimal digits of a code point.
* `escapeChar_cases`: what is written for a character, and how it is read.
* `string_quoted`: a quoted text is read back.
-/

namespace DiceLauncher.Settings

/-! ## Code points -/

theorem hexValue?_digitChar {digit : Nat} (h : digit < 16) :
    hexValue? digit.digitChar = some digit := by
  revert digit
  decide

theorem digitChar_ne_brace (digit : Nat) : digit.digitChar ≠ '\x7d' :=
  Nat.digitChar_ne _ (by decide)

/-- One more digit of a code point. -/
theorem codePointFrom_digitChar {value count digit : Nat} (hcount : count < 6) (hdigit : digit < 16)
    (rest : List Char) :
    codePointFrom value count (digit.digitChar :: rest) =
      codePointFrom (value * 16 + digit) (count + 1) rest := by
  rw [codePointFrom, if_neg (digitChar_ne_brace digit), if_neg (by omega),
    hexValue?_digitChar hdigit]

/-- The digits of a number are read as that number, if they are no more than six. -/
theorem codePointFrom_toDigits {n : Nat} (h : (Nat.toDigits 16 n).length ≤ 6) (rest : List Char) :
    codePointFrom 0 0 (Nat.toDigits 16 n ++ rest) =
      codePointFrom n (Nat.toDigits 16 n).length rest := by
  induction n using Nat.strongRecOn generalizing rest with
  | ind n ih =>
    by_cases hlt : n < 16
    · rw [Nat.toDigits_of_lt_base hlt, List.singleton_append,
        codePointFrom_digitChar (by decide) hlt, Nat.zero_mul, Nat.zero_add]
      rfl
    · have hdigits : Nat.toDigits 16 n = Nat.toDigits 16 (n / 16) ++ [(n % 16).digitChar] :=
        Nat.toDigits_of_base_le (by decide) (by omega)
      rw [hdigits, List.length_append, List.length_singleton] at h ⊢
      rw [List.append_assoc, ih (n / 16) (by omega) (by omega), List.singleton_append,
        codePointFrom_digitChar (by omega) (Nat.mod_lt n (by decide))]
      congr 1
      omega

theorem charOf?_toNat (c : Char) : charOf? c.toNat = some c := by
  have hvalid : c.toNat.isValidChar := c.valid
  rw [charOf?, dif_pos hvalid]
  rfl

theorem length_toDigits_toNat (c : Char) : (Nat.toDigits 16 c.toNat).length ≤ 6 := by
  have hlt : c.toNat < 16 ^ 6 := by
    have hvalid : c.toNat.isValidChar := c.valid
    unfold Nat.isValidChar at hvalid
    omega
  exact (Nat.length_toDigits_le_iff (by decide) (by decide)).mpr hlt

/-! ## Characters -/

theorem escaped_codePoint (c : Char) (rest : List Char) :
    escaped ((Text.codePoint c.toNat).tail ++ rest) = .ok (c, rest) := by
  have hpos : (Nat.toDigits 16 c.toNat).length ≠ 0 := Nat.length_toDigits_pos.ne'
  have hform : (Text.codePoint c.toNat).tail ++ rest =
      'u' :: '\x7b' :: (Nat.toDigits 16 c.toNat ++ '\x7d' :: rest) := by
    simp [Text.codePoint]
  rw [hform, escaped, if_pos rfl, codePointFrom_toDigits (length_toDigits_toNat c), codePointFrom,
    if_pos rfl, if_neg hpos, charOf?_toNat]

/-- A character is written as it is, if it neither closes the text nor begins an escape, or behind
a backslash by what is read as that character. -/
theorem escapeChar_cases (c : Char) :
    (Text.escapeChar c = [c] ∧ c ≠ '"' ∧ c ≠ '\\') ∨
    ∃ form, Text.escapeChar c = '\\' :: form ∧ ∀ rest, escaped (form ++ rest) = .ok (c, rest) := by
  fun_cases Text.escapeChar c with
  | case1 hc => exact .inr ⟨['0'], rfl, fun rest => hc ▸ rfl⟩
  | case2 _ hc => exact .inr ⟨['t'], rfl, fun rest => hc ▸ rfl⟩
  | case3 _ _ hc => exact .inr ⟨['r'], rfl, fun rest => hc ▸ rfl⟩
  | case4 _ _ _ hc => exact .inr ⟨['n'], rfl, fun rest => hc ▸ rfl⟩
  | case5 _ _ _ _ hquote =>
    refine .inr ⟨[c], rfl, fun rest => ?_⟩
    rcases hquote with rfl | rfl | rfl <;> rfl
  | case6 _ _ _ _ hquote =>
    rw [not_or, not_or] at hquote
    exact .inl ⟨rfl, hquote.2⟩
  | case7 => exact .inr ⟨_, rfl, escaped_codePoint c⟩

/-! ## Texts -/

theorem stringFrom_quote (segment rest : List Char) :
    stringFrom segment ('"' :: rest) = .ok ([], rest) := by
  rw [stringFrom, if_pos rfl]

theorem stringFrom_of_ne {c : Char} (hquote : c ≠ '"') (hescape : c ≠ '\\')
    {segment text rest value : List Char} (h : stringFrom segment text = .ok (value, rest)) :
    stringFrom segment (c :: text) = .ok (c :: value, rest) := by
  rw [stringFrom, if_neg hquote, if_neg hescape, h]

theorem stringFrom_of_escaped {c : Char} {segment text behind rest value : List Char}
    (hescaped : escaped text = .ok (c, behind))
    (h : stringFrom behind behind = .ok (value, rest)) :
    stringFrom segment ('\\' :: text) = .ok (c :: value, rest) := by
  rw [stringFrom, if_neg (by decide), if_pos rfl]
  split
  · next hstop => simp [hescaped] at hstop
  · next hread =>
    rw [hescaped, Except.ok.injEq, Prod.mk.injEq] at hread
    obtain ⟨rfl, rfl⟩ := hread
    rw [h]

/-- What is written for a text is read as that text, up to the quote behind it. -/
theorem stringFrom_escape (segment text rest : List Char) :
    stringFrom segment (Text.escape text ++ '"' :: rest) = .ok (text, rest) := by
  induction text generalizing segment with
  | nil => exact stringFrom_quote segment rest
  | cons c text ih =>
    have hcons : Text.escape (c :: text) = Text.escapeChar c ++ Text.escape text :=
      List.flatMap_cons ..
    rw [hcons]
    obtain ⟨hform, hquote, hescape⟩ | ⟨form, hform, hread⟩ := escapeChar_cases c
    · rw [hform]
      exact stringFrom_of_ne hquote hescape (ih segment)
    · rw [hform, List.append_assoc, List.cons_append]
      exact stringFrom_of_escaped (hread _) (ih _)

/-- A quoted text is read back, and what stands behind it is left. -/
theorem string_quoted (text : String) (rest : List Char) :
    string ((Text.quoted text).toList ++ rest) = .ok (text.toList, rest) := by
  have hform : (Text.quoted text).toList ++ rest =
      '"' :: (Text.escape text.toList ++ '"' :: rest) := by
    simp [Text.quoted]
  rw [hform]
  exact stringFrom_escape _ _ _

end DiceLauncher.Settings
