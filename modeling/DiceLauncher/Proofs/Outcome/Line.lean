import DiceLauncher.Outcome
import DiceLauncher.Proofs.RollSpec.RoundTrip
import DiceLauncher.Proofs.Text.Lines

/-!
# The line of an outcome

An outcome is written on one line, in parts that may each be missing: the dice, the
faces or the words that they were refused, the modifier, the subtotal. Where a part
ends can be told from the first characters of the next one, so the line determines
the outcome.

Results:
* `not_mem_render`: the characters that can stand in the line.
* `render_injective`: outcomes that are written in the same way are equal.
-/

namespace DiceLauncher

/-! ## Runs of digits in front of other text -/

theorem Decimal.head?_cons_of_not_isDigit {c : Char} (hc : c.isDigit = false) (rest : List Char) :
    ∀ d ∈ (c :: rest).head?, d.isDigit = false := by
  rintro d ⟨⟩
  exact hc

/-- The number in front of a text that does not go on with a digit. -/
theorem Decimal.digits_append_inj {m n : Nat} {x y : List Char}
    (hx : ∀ c ∈ x.head?, c.isDigit = false) (hy : ∀ c ∈ y.head?, c.isDigit = false)
    (h : digits m ++ x = digits n ++ y) : m = n ∧ x = y := by
  obtain ⟨hm, hxm⟩ := DiceTerm.span_run (isRun_digits m) x hx
  obtain ⟨hn, hyn⟩ := DiceTerm.span_run (isRun_digits n) y hy
  rw [h] at hm hxm
  have hdigits : digits m = digits n := hm.symm.trans hn
  exact ⟨by rw [← value_digits m, hdigits, value_digits], hxm.symm.trans hyn⟩

theorem Decimal.toList_renderWord (w : UInt64) : (renderWord w).toList = digits w.toNat := by
  simp [renderWord, render]

theorem Decimal.toList_renderSigned (z : Int) :
    (renderSigned z).toList = (if z < 0 then '-' else '+') :: digits z.natAbs := by
  simp only [renderSigned, render]
  split_ifs <;> simp

/-- The first digit of a number is a digit. -/
theorem Decimal.exists_digits_eq_cons (n : Nat) : ∃ c rest, digits n = c :: rest ∧ c.isDigit := by
  obtain ⟨hne, hdigit⟩ := isRun_digits n
  cases hn : digits n with
  | nil => exact absurd hn hne
  | cons c rest => exact ⟨c, rest, rfl, hdigit c (by simp [hn])⟩

theorem Decimal.renderSigned_append_inj {m n : Int} {x y : List Char}
    (hx : ∀ c ∈ x.head?, c.isDigit = false) (hy : ∀ c ∈ y.head?, c.isDigit = false)
    (h : (renderSigned m).toList ++ x = (renderSigned n).toList ++ y) : m = n ∧ x = y := by
  rw [toList_renderSigned, toList_renderSigned, List.cons_append, List.cons_append,
    List.cons.injEq] at h
  obtain ⟨hsign, htail⟩ := h
  obtain ⟨habs, hrest⟩ := digits_append_inj hx hy htail
  refine ⟨?_, hrest⟩
  split_ifs at hsign with hm hn hn
  · omega
  · exact absurd hsign (by decide)
  · exact absurd hsign (by decide)
  · omega

namespace Outcome

/-! ## The characters of a line -/

/-- The characters other than digits that stand in the line of an outcome. -/
def lineMarks : List Char := "d: not rolled, over dice (+-) = ".toList

/-- A text is made of digits and the characters of a line. -/
def IsPlain (text : String) : Prop := ∀ c ∈ text.toList, c.isDigit ∨ c ∈ lineMarks

theorem IsPlain.append {a b : String} (ha : IsPlain a) (hb : IsPlain b) : IsPlain (a ++ b) := by
  intro c hc
  rw [String.toList_append, List.mem_append] at hc
  exact hc.elim (ha c) (hb c)

theorem isPlain_of_subset {text : String} (h : text.toList ⊆ lineMarks) : IsPlain text :=
  fun _ hc => .inr (h hc)

theorem isPlain_render (n : Nat) : IsPlain (Decimal.render n) := by
  intro c hc
  rw [Decimal.render, String.toList_ofList] at hc
  exact .inl ((Decimal.isRun_digits n).isDigit c hc)

theorem isPlain_renderInt (z : Int) : IsPlain (Decimal.renderInt z) := by
  unfold Decimal.renderInt
  split_ifs
  · exact (isPlain_of_subset (by decide)).append (isPlain_render _)
  · exact isPlain_render _

theorem isPlain_renderSigned (z : Int) : IsPlain (Decimal.renderSigned z) := by
  unfold Decimal.renderSigned
  split_ifs <;> exact (isPlain_of_subset (by decide)).append (isPlain_render _)

theorem isPlain_renderDice (spec : RollSpec) : IsPlain spec.renderDice :=
  ((isPlain_render _).append (isPlain_of_subset (by decide))).append (isPlain_render _)

theorem isPlain_renderRolls (outcome : Outcome) : IsPlain outcome.renderRolls := by
  unfold renderRolls
  split
  · exact ((isPlain_of_subset (by decide)).append (isPlain_render _)).append
      (isPlain_of_subset (by decide))
  · exact isPlain_of_subset (by decide)
  · refine (isPlain_of_subset (by decide)).append
      (Text.forall_mem_intercalate (isPlain_of_subset (by decide)) fun text htext => ?_)
    obtain ⟨face, -, rfl⟩ := List.mem_map.mp htext
    exact isPlain_render _

theorem isPlain_renderModifier (outcome : Outcome) : IsPlain outcome.renderModifier := by
  unfold renderModifier
  split
  · exact ((isPlain_of_subset (by decide)).append (isPlain_renderSigned _)).append
      (isPlain_of_subset (by decide))
  · exact isPlain_of_subset (by decide)

/-- The line of an outcome is made of digits and the characters of a line. -/
theorem isPlain_line (outcome : Outcome) : IsPlain outcome.render := by
  have hdice := isPlain_renderDice outcome.spec
  have hcolon : IsPlain ":" := isPlain_of_subset (by decide)
  refine (((hdice.append hcolon).append outcome.isPlain_renderRolls).append
    outcome.isPlain_renderModifier).append ?_
  split_ifs
  · exact (isPlain_of_subset (by decide)).append (isPlain_renderInt _)
  · exact isPlain_of_subset (by decide)

/-- No other character stands in the line, such as a line feed, a bar or a backtick. -/
theorem not_mem_render {c : Char} (hdigit : c.isDigit = false) (hmark : c ∉ lineMarks)
    (outcome : Outcome) : c ∉ outcome.render.toList := by
  intro hmem
  rcases outcome.isPlain_line c hmem with h | h
  · exact absurd h (by simp [hdigit])
  · exact hmark h

/-! ## The parts of a line -/

/-- The subtotal, as it is written at the end of a line. -/
def lineTotal (outcome : Outcome) : List Char :=
  (if outcome.showsSubtotal then " = " ++ Decimal.renderInt outcome.subtotal.toInt else "").toList

/-- What stands behind the faces of a line: the modifier and the subtotal. -/
def lineEnd (outcome : Outcome) : List Char := outcome.renderModifier.toList ++ outcome.lineTotal

/-- What stands behind the colon of a line. -/
def lineTail (outcome : Outcome) : List Char := outcome.renderRolls.toList ++ outcome.lineEnd

/-- The faces behind the first one. -/
def otherFaces (faces : List UInt64) : List Char :=
  faces.flatMap fun face => ',' :: ' ' :: Decimal.digits face.toNat

theorem toList_render (outcome : Outcome) :
    outcome.render.toList = Decimal.digits outcome.spec.count.toNat ++
      'd' :: (Decimal.digits outcome.spec.sides.toNat ++
        ':' :: outcome.lineTail) := by
  simp [render, RollSpec.renderDice, Decimal.toList_renderWord, lineTail, lineEnd, lineTotal]

theorem toList_intercalate_faces (face : UInt64) (faces : List UInt64) :
    (String.intercalate ", " ((face :: faces).map Decimal.renderWord)).toList =
      Decimal.digits face.toNat ++ otherFaces faces := by
  induction faces generalizing face with
  | nil => simp [otherFaces, Decimal.toList_renderWord]
  | cons other faces ih =>
    simp only [List.map_cons] at ih ⊢
    rw [String.intercalate_cons_cons, String.toList_append, String.toList_append, ih,
      Decimal.toList_renderWord]
    simp [otherFaces]

theorem toList_renderRolls_none {outcome : Outcome} (h : outcome.thrown = none) :
    outcome.renderRolls.toList =
      ' ' :: 'n' ::
        ("ot rolled, over " ++ Decimal.renderWord Dice.diceLimit ++ " dice").toList := by
  simp [renderRolls, h]

theorem toList_renderRolls_nil {outcome : Outcome} (h : outcome.thrown = some []) :
    outcome.renderRolls.toList = [] := by
  simp [renderRolls, h]

theorem toList_renderRolls_cons {outcome : Outcome} {face : UInt64} {faces : List UInt64}
    (h : outcome.thrown = some (face :: faces)) :
    outcome.renderRolls.toList = ' ' :: (Decimal.digits face.toNat ++ otherFaces faces) := by
  simp only [renderRolls, h]
  rw [String.toList_append, toList_intercalate_faces]
  rfl

theorem lineTotal_cases (outcome : Outcome) :
    outcome.lineTotal = [] ∨ ∃ rest, outcome.lineTotal = ' ' :: '=' :: rest := by
  unfold lineTotal
  split_ifs
  · exact .inr ⟨' ' :: (Decimal.renderInt outcome.subtotal.toInt).toList, by simp⟩
  · exact .inl (by simp)

/-- The end of a line begins with its modifier if there is one. -/
theorem lineEnd_of_some {outcome : Outcome} {modifier : Int64}
    (h : outcome.spec.modifier = some modifier) :
    outcome.lineEnd = ' ' :: '(' ::
      ((Decimal.renderSigned modifier.toInt).toList ++ ')' :: outcome.lineTotal) := by
  simp [lineEnd, renderModifier, h]

theorem lineEnd_of_none {outcome : Outcome} (h : outcome.spec.modifier = none) :
    outcome.lineEnd = outcome.lineTotal := by
  simp [lineEnd, renderModifier, h]

/-- The end of a line goes on neither with a face nor with the words of a refusal. -/
theorem lineEnd_cases (outcome : Outcome) :
    outcome.lineEnd = [] ∨
      ∃ c rest, outcome.lineEnd = ' ' :: c :: rest ∧ c.isDigit = false ∧ c ≠ 'n' := by
  cases hmod : outcome.spec.modifier with
  | some modifier => exact .inr ⟨_, _, lineEnd_of_some hmod, by decide, by decide⟩
  | none =>
    rw [lineEnd_of_none hmod]
    rcases outcome.lineTotal_cases with h | ⟨rest, h⟩
    · exact .inl h
    · exact .inr ⟨'=', rest, h, by decide, by decide⟩

/-! ## Reading a line back -/

theorem modifier_eq_of_lineEnd_eq {a b : Outcome} (h : a.lineEnd = b.lineEnd) :
    a.spec.modifier = b.spec.modifier := by
  cases ha : a.spec.modifier with
  | none =>
    cases hb : b.spec.modifier with
    | none => rfl
    | some n =>
      rw [lineEnd_of_none ha, lineEnd_of_some hb] at h
      rcases a.lineTotal_cases with htotal | ⟨_, htotal⟩ <;> simp [htotal] at h
  | some m =>
    cases hb : b.spec.modifier with
    | none =>
      rw [lineEnd_of_some ha, lineEnd_of_none hb] at h
      rcases b.lineTotal_cases with htotal | ⟨_, htotal⟩ <;> simp [htotal] at h
    | some n =>
      rw [lineEnd_of_some ha, lineEnd_of_some hb, List.cons.injEq, List.cons.injEq] at h
      have hclose := Decimal.head?_cons_of_not_isDigit (c := ')') rfl
      obtain ⟨hvalue, -⟩ := Decimal.renderSigned_append_inj (hclose _) (hclose _) h.2.2
      rw [Int64.toInt_inj.mp hvalue]

theorem head?_otherFaces {x : List Char} (hx : ∀ c ∈ x.head?, c.isDigit = false)
    (faces : List UInt64) : ∀ c ∈ (otherFaces faces ++ x).head?, c.isDigit = false := by
  cases faces with
  | nil => exact hx
  | cons face faces => exact Decimal.head?_cons_of_not_isDigit rfl _

/-- Faces are read up to where no comma follows. -/
theorem otherFaces_append_inj {faces others : List UInt64} {x y : List Char}
    (hx : ∀ c ∈ x.head?, c.isDigit = false ∧ c ≠ ',')
    (hy : ∀ c ∈ y.head?, c.isDigit = false ∧ c ≠ ',')
    (h : otherFaces faces ++ x = otherFaces others ++ y) : faces = others ∧ x = y := by
  induction faces generalizing others with
  | nil =>
    cases others with
    | nil => exact ⟨rfl, h⟩
    | cons other others =>
      obtain rfl : x = _ := h
      exact absurd rfl (hx ',' rfl).2
  | cons face faces ih =>
    cases others with
    | nil =>
      obtain rfl : _ = y := h
      exact absurd rfl (hy ',' rfl).2
    | cons other others =>
      simp only [otherFaces, List.flatMap_cons, List.cons_append, List.append_assoc,
        List.cons.injEq, true_and] at h
      obtain ⟨hface, hrest⟩ := Decimal.digits_append_inj
        (head?_otherFaces (fun c hc => (hx c hc).1) faces)
        (head?_otherFaces (fun c hc => (hy c hc).1) others) h
      obtain ⟨rfl, hxy⟩ := ih hrest
      exact ⟨by rw [UInt64.toNat_inj.mp hface], hxy⟩

/-- No face and no comma leads to the end of a line. -/
theorem head?_lineEnd (outcome : Outcome) :
    ∀ c ∈ outcome.lineEnd.head?, c.isDigit = false ∧ c ≠ ',' := by
  rcases outcome.lineEnd_cases with h | ⟨_, _, h, -, -⟩
  · simp [h]
  · rw [h]
    rintro c ⟨⟩
    decide

/-! The second character behind the colon tells whether the dice were refused, showed faces, or
neither. -/

theorem second_of_none {outcome : Outcome} (h : outcome.thrown = none) :
    outcome.lineTail[1]? = some 'n' := by
  simp [lineTail, toList_renderRolls_none h]

theorem second_of_nil {outcome : Outcome} (h : outcome.thrown = some []) :
    ∀ c ∈ outcome.lineTail[1]?, c.isDigit = false ∧ c ≠ 'n' := by
  rw [lineTail, toList_renderRolls_nil h, List.nil_append]
  rcases outcome.lineEnd_cases with hend | ⟨c, rest, hend, hc⟩
  · simp [hend]
  · simpa [hend] using hc

theorem second_of_cons {outcome : Outcome} {face : UInt64} {faces : List UInt64}
    (h : outcome.thrown = some (face :: faces)) :
    ∃ c ∈ outcome.lineTail[1]?, c.isDigit := by
  obtain ⟨c, rest, hdigits, hc⟩ := Decimal.exists_digits_eq_cons face.toNat
  exact ⟨c, by simp [lineTail, toList_renderRolls_cons h, hdigits], hc⟩

theorem thrown_eq_none_iff {outcome : Outcome} :
    outcome.thrown = none ↔ outcome.lineTail[1]? = some 'n' := by
  refine ⟨second_of_none, fun hsecond => ?_⟩
  cases h : outcome.thrown with
  | none => rfl
  | some faces =>
    cases faces with
    | nil => exact absurd rfl (second_of_nil h 'n' hsecond).2
    | cons face faces =>
      obtain ⟨c, hc, hdigit⟩ := second_of_cons h
      obtain rfl : 'n' = c := by simpa [hsecond] using hc
      exact absurd hdigit (by decide)

theorem thrown_eq_cons_iff {outcome : Outcome} :
    (∃ face faces, outcome.thrown = some (face :: faces)) ↔
      ∃ c ∈ outcome.lineTail[1]?, c.isDigit := by
  refine ⟨fun ⟨_, _, h⟩ => second_of_cons h, fun ⟨c, hc, hdigit⟩ => ?_⟩
  cases h : outcome.thrown with
  | none =>
    obtain rfl : 'n' = c := by simpa [second_of_none h] using hc
    exact absurd hdigit (by decide)
  | some faces =>
    cases faces with
    | nil => simp [(second_of_nil h c hc).1] at hdigit
    | cons face faces => exact ⟨face, faces, rfl⟩

/-- What stands behind the colon determines the dice that were thrown. -/
theorem thrown_eq_of_lineTail_eq {a b : Outcome} (h : a.lineTail = b.lineTail) :
    a.thrown = b.thrown ∧ a.lineEnd = b.lineEnd := by
  cases ha : a.thrown with
  | none =>
    have hb : b.thrown = none := by rwa [thrown_eq_none_iff, ← h, ← thrown_eq_none_iff]
    rw [lineTail, lineTail, toList_renderRolls_none ha, toList_renderRolls_none hb] at h
    exact ⟨hb.symm, List.append_cancel_left h⟩
  | some faces =>
    cases faces with
    | nil =>
      have hb : b.thrown = some [] := by
        cases hb : b.thrown with
        | none => simp [thrown_eq_none_iff.mpr (h ▸ thrown_eq_none_iff.mp hb)] at ha
        | some others =>
          cases others with
          | nil => rfl
          | cons other others =>
            obtain ⟨_, _, h'⟩ := thrown_eq_cons_iff.mpr (h ▸ thrown_eq_cons_iff.mp ⟨_, _, hb⟩)
            simp [h'] at ha
      rw [lineTail, lineTail, toList_renderRolls_nil ha, toList_renderRolls_nil hb] at h
      exact ⟨hb.symm, h⟩
    | cons face faces =>
      obtain ⟨other, others, hb⟩ := thrown_eq_cons_iff.mpr (h ▸ thrown_eq_cons_iff.mp ⟨_, _, ha⟩)
      rw [lineTail, lineTail, toList_renderRolls_cons ha, toList_renderRolls_cons hb] at h
      simp only [List.cons_append, List.cons.injEq, true_and, List.append_assoc] at h
      obtain ⟨hface, hrest⟩ := Decimal.digits_append_inj
        (head?_otherFaces (fun c hc => (a.head?_lineEnd c hc).1) faces)
        (head?_otherFaces (fun c hc => (b.head?_lineEnd c hc).1) others) h
      obtain ⟨rfl, hend⟩ := otherFaces_append_inj a.head?_lineEnd b.head?_lineEnd hrest
      exact ⟨by rw [hb, UInt64.toNat_inj.mp hface], hend⟩

/-- Outcomes that are written in the same way are equal. -/
theorem render_injective : Function.Injective render := by
  intro a b h
  have hline := congrArg String.toList h
  have hd := Decimal.head?_cons_of_not_isDigit (c := 'd') rfl
  have hcolon := Decimal.head?_cons_of_not_isDigit (c := ':') rfl
  rw [toList_render, toList_render] at hline
  obtain ⟨hcount, hline⟩ := Decimal.digits_append_inj (hd _) (hd _) hline
  obtain ⟨hsides, hline⟩ :=
    Decimal.digits_append_inj (hcolon _) (hcolon _) (List.cons.inj hline).2
  obtain ⟨hthrown, hend⟩ := thrown_eq_of_lineTail_eq (List.cons.inj hline).2
  have hmodifier := modifier_eq_of_lineEnd_eq hend
  obtain ⟨⟨_, _, _⟩, _⟩ := a
  obtain ⟨⟨_, _, _⟩, _⟩ := b
  simp only [UInt64.toNat_inj] at hcount hsides hthrown hmodifier
  rw [hcount, hsides, hthrown, hmodifier]

end Outcome

end DiceLauncher
