import DiceLauncher.Text.Blank
import Mathlib

/-!
# The words of a text

Results:
* `words_append_blank`: a text falls apart at a blank, and its words with it.
* `words_intercalate_eq_flatMap`: the words of texts that are joined by single spaces.
* `words_intercalate`: words without blanks, joined by single spaces, are read back.
* `words_trim`: the blanks at the ends of a text do not matter for its words.
* `trim_blanks_append_blanks`, `exists_blanks_trim`: a text and its trimmed form.
* `exists_words_cons`: a text that does not begin with a blank begins with its first word.
-/

namespace DiceLauncher.Text

/-- A non-empty text without blanks: it can stand as a word. -/
structure IsWord (word : List Char) : Prop where
  ne_nil : word ≠ []
  not_blank : ∀ c ∈ word, isBlank c = false

@[simp] theorem words_nil : words [] = [] := rfl

/-- A text falls apart at a blank, and its words with it. -/
theorem words_append_blank (before after : List Char) {blank : Char} (h : isBlank blank) :
    words (before ++ blank :: after) = words before ++ words after := by
  rw [words, List.splitOnP_append_cons before after h, List.filter_append]
  rfl

theorem IsWord.words_eq {word : List Char} (h : IsWord word) : words word = [word] := by
  rw [words, List.splitOnP_eq_singleton h.not_blank]
  simp [h.ne_nil]

theorem words_cons_blank {blank : Char} (h : isBlank blank) (text : List Char) :
    words (blank :: text) = words text :=
  words_append_blank [] text h

theorem words_blanks_append {blanks : List Char} (h : ∀ c ∈ blanks, isBlank c)
    (text : List Char) : words (blanks ++ text) = words text := by
  induction blanks with
  | nil => rfl
  | cons c blanks ih =>
    rw [List.cons_append, words_cons_blank (h c List.mem_cons_self)]
    exact ih fun d hd => h d (List.mem_cons_of_mem c hd)

/-- A text of blanks only has no words. -/
theorem words_eq_nil {text : List Char} (h : ∀ c ∈ text, isBlank c) : words text = [] := by
  simpa using words_blanks_append h []

theorem words_append_blanks (text : List Char) {blanks : List Char}
    (h : ∀ c ∈ blanks, isBlank c) : words (text ++ blanks) = words text := by
  cases blanks with
  | nil => rw [List.append_nil]
  | cons c blanks =>
    rw [words_append_blank text blanks (h c List.mem_cons_self),
      words_eq_nil fun d hd => h d (List.mem_cons_of_mem c hd), List.append_nil]

/-- A text that does not begin with a blank begins with its first word. -/
theorem exists_words_cons {c : Char} (h : isBlank c = false) (text : List Char) :
    ∃ word rest, words (c :: text) = (c :: word) :: rest := by
  obtain ⟨word, pieces, hsplit⟩ :=
    List.exists_cons_of_ne_nil (List.splitOnP_ne_nil isBlank text)
  refine ⟨word, pieces.filter fun piece => !piece.isEmpty, ?_⟩
  rw [words, List.splitOnP_cons_eq_if_modifyHead, hsplit]
  simp [h]

/-- Texts with blanks between them have their words one after the other. -/
theorem words_append_blanks_append (before after : List Char) {blanks : List Char}
    (h : ∀ c ∈ blanks, isBlank c) (hne : blanks ≠ []) :
    words (before ++ blanks ++ after) = words before ++ words after := by
  obtain ⟨c, blanks, rfl⟩ := List.exists_cons_of_ne_nil hne
  rw [List.append_assoc, List.cons_append, words_append_blank before _ (h c List.mem_cons_self),
    words_blanks_append fun d hd => h d (List.mem_cons_of_mem c hd)]

/-- A text behind nothing or behind a blank has its words behind those before it. -/
theorem words_append_of_getLast? {before : List Char} (h : ∀ c ∈ before.getLast?, isBlank c)
    (after : List Char) : words (before ++ after) = words before ++ words after := by
  rcases List.eq_nil_or_concat before with rfl | ⟨start, blank, rfl⟩
  · rfl
  · rw [List.concat_eq_append] at h ⊢
    have hblank : isBlank blank := h blank List.getLast?_concat
    rw [List.append_assoc, List.singleton_append, words_append_blank start after hblank,
      words_append_blank start [] hblank, words_nil, List.append_nil]

/-- Texts that are joined by single spaces have their words one after the other. -/
theorem words_intercalate_eq_flatMap (texts : List (List Char)) :
    words ([' '].intercalate texts) = texts.flatMap words := by
  induction texts with
  | nil => rfl
  | cons text texts ih =>
    cases texts with
    | nil => rw [List.intercalate_singleton, List.flatMap_singleton]
    | cons other texts =>
      rw [List.intercalate_cons_cons, List.append_assoc, List.singleton_append,
        words_append_blank _ _ (by decide), ih, ← List.flatMap_cons]

/-- Words that are joined by single spaces are read back. -/
theorem words_intercalate {ws : List (List Char)} (h : ∀ w ∈ ws, IsWord w) :
    words ([' '].intercalate ws) = ws := by
  calc words ([' '].intercalate ws)
    _ = ws.flatMap words := words_intercalate_eq_flatMap ws
    _ = ws.flatMap fun w => [w] := List.flatMap_congr fun w hw => (h w hw).words_eq
    _ = ws := List.flatMap_singleton' ws

/-! ## Trimming -/

theorem forall_mem_takeWhile_blank (text : List Char) :
    ∀ c ∈ text.takeWhile isBlank, isBlank c :=
  fun _ hc => List.mem_takeWhile_imp hc

/-- The blanks at the start of a text do not matter for its words. -/
@[simp] theorem words_trimStart (text : List Char) : words (trimStart text) = words text := by
  have hcut : words (text.takeWhile isBlank ++ trimStart text) = words (trimStart text) :=
    words_blanks_append (forall_mem_takeWhile_blank text) _
  rwa [trimStart, List.takeWhile_append_dropWhile, eq_comm] at hcut

/-- The blanks at the end of a text do not matter for its words. -/
@[simp] theorem words_trimEnd (text : List Char) : words (trimEnd text) = words text := by
  have hblank : ∀ c ∈ (text.reverse.takeWhile isBlank).reverse, isBlank c := by
    intro c hc
    exact forall_mem_takeWhile_blank _ c (List.mem_reverse.mp hc)
  have hcut : trimEnd text ++ (text.reverse.takeWhile isBlank).reverse = text := by
    rw [trimEnd, ← List.reverse_append, List.takeWhile_append_dropWhile, List.reverse_reverse]
  calc words (trimEnd text)
    _ = words (trimEnd text ++ (text.reverse.takeWhile isBlank).reverse) :=
      (words_append_blanks _ hblank).symm
    _ = words text := by rw [hcut]

@[simp] theorem words_trim (text : List Char) : words (trim text) = words text := by
  rw [trim, words_trimEnd, words_trimStart]

theorem IsWord.trimStart_eq {word : List Char} (h : IsWord word) : trimStart word = word :=
  List.dropWhile_eq_self_iff.mpr fun hlength => by simp [h.not_blank]

/-- A word has no blanks to drop. -/
theorem IsWord.trim_eq {word : List Char} (h : IsWord word) : trim word = word := by
  have hend : word.reverse.dropWhile isBlank = word.reverse :=
    List.dropWhile_eq_self_iff.mpr fun hlength => by simp [h.not_blank]
  rw [trim, h.trimStart_eq, trimEnd, hend, List.reverse_reverse]

/-- Only blanks behind the last other character are dropped. -/
theorem trimEnd_append_cons (before : List Char) {c : Char} (h : isBlank c = false)
    (after : List Char) : trimEnd (before ++ c :: after) = before ++ c :: trimEnd after := by
  rw [trimEnd, List.reverse_append, List.reverse_cons, List.append_assoc, List.dropWhile_append]
  split_ifs with hnil
  · simp [trimEnd, List.isEmpty_iff.mp hnil, h]
  · simp [trimEnd]

theorem trimEnd_cons {c : Char} (h : isBlank c = false) (text : List Char) :
    trimEnd (c :: text) = c :: trimEnd text :=
  trimEnd_append_cons [] h text

/-- A trimmed text does not begin with a blank. -/
theorem not_isBlank_of_head?_trimStart {c : Char} {text : List Char}
    (h : (trimStart text).head? = some c) : isBlank c = false := by
  have hhead := List.head?_dropWhile_not isBlank text
  rwa [show (text.dropWhile isBlank).head? = some c from h] at hhead

/-- Dropping the blanks at the end keeps what a text begins with. -/
theorem head?_trim (text : List Char) : (trim text).head? = (trimStart text).head? := by
  rw [trim]
  cases htrim : trimStart text with
  | nil => rfl
  | cons c rest =>
    have hc : isBlank c = false := not_isBlank_of_head?_trimStart (by rw [htrim, List.head?_cons])
    rw [trimEnd_cons hc, List.head?_cons, List.head?_cons]

theorem trimStart_blanks_append {blanks : List Char} (h : ∀ c ∈ blanks, isBlank c)
    (text : List Char) : trimStart (blanks ++ text) = trimStart text := by
  rw [trimStart, List.dropWhile_append_of_pos h, ← trimStart]

theorem trimStart_cons {c : Char} (h : isBlank c = false) (text : List Char) :
    trimStart (c :: text) = c :: text := by
  rw [trimStart, List.dropWhile_cons_of_neg (by simp [h])]

theorem trimEnd_append_blanks (text : List Char) {blanks : List Char}
    (h : ∀ c ∈ blanks, isBlank c) : trimEnd (text ++ blanks) = trimEnd text := by
  rw [trimEnd, List.reverse_append, List.dropWhile_append_of_pos, ← trimEnd]
  intro c hc
  exact h c (List.mem_reverse.mp hc)

/-- Blanks around a text make no difference when it is trimmed. -/
theorem trim_blanks_append_blanks {before after : List Char} (hbefore : ∀ c ∈ before, isBlank c)
    (hafter : ∀ c ∈ after, isBlank c) (text : List Char) :
    trim (before ++ text ++ after) = trim text := by
  rw [trim, List.append_assoc, trimStart_blanks_append hbefore, trimStart, List.dropWhile_append]
  split_ifs with hempty
  · -- the text has blanks only, and so have both sides
    have hnil : after.dropWhile isBlank = [] := List.dropWhile_eq_nil_iff.mpr hafter
    rw [hnil, trim, trimStart, List.isEmpty_iff.mp hempty]
  · rw [trimEnd_append_blanks _ hafter]
    rfl

/-- What a trimmed text lacks are blanks. -/
theorem exists_blanks_trim (text : List Char) :
    ∃ before after, text = before ++ trim text ++ after ∧ (∀ c ∈ before, isBlank c) ∧
      ∀ c ∈ after, isBlank c := by
  refine ⟨text.takeWhile isBlank, (trimStart text).rtakeWhile isBlank, ?_,
    forall_mem_takeWhile_blank text, fun c hc => List.mem_rtakeWhile_imp hc⟩
  have hend : trim text ++ (trimStart text).rtakeWhile isBlank = trimStart text :=
    List.rdropWhile_append_rtakeWhile
  rw [List.append_assoc, hend, trimStart, List.takeWhile_append_dropWhile]

/-- A trimmed text does not end in a blank. -/
theorem not_isBlank_of_getLast?_trim {c : Char} {text : List Char}
    (h : (trim text).getLast? = some c) : isBlank c = false := by
  obtain ⟨hne, rfl⟩ := List.mem_getLast?_eq_getLast h
  exact Bool.eq_false_of_not_eq_true (List.rdropWhile_last_not isBlank (trimStart text) hne)

end DiceLauncher.Text
