import DiceLauncher.Proofs.Dice.Fair

/-!
# Every face has the same number of words

A word shows a face if its product with the sides lies in the block of `2 ^ 64` numbers that
belongs to the face, among the first ones of it. As many numbers are taken of each block, and
they are a multiple of the sides, so the words of a face are as many for each face, one behind
the other. The blocks are taken to more than their half, and so are the words.

Results:
* `le_acceptanceBound`, `acceptanceBound_lt`: how much of a block is taken.
* `exists_face?_eq_some_iff`: the words of a face are consecutive.
* `ncard_wordsOf`, `ncard_accepted`, `ncard_rejected`: how many words there are of each kind.
* `run_fair_take`: a die takes the words up to the first accepted one from a stream.
* `fair_uniform`: no face is preferred, and drawing a die comes to an end.
-/

namespace DiceLauncher.Dice

/-! ## Specification -/

/-- The words that show a face. -/
def wordsOf (sides face : UInt64) : Set UInt64 := {word | face? sides word = some face}

/-- The words that show some face. -/
def accepted (sides : UInt64) : Set UInt64 := {word | (face? sides word).isSome}

/-- The words that show nothing and are dropped. -/
def rejected (sides : UInt64) : Set UInt64 := {word | face? sides word = none}

/-! ## Blocks of products -/

theorem acceptanceBound_eq (sides : UInt64) :
    acceptanceBound sides = sides.toNat * 2 ^ leadingZeros sides := Nat.shiftLeft_eq ..

section

variable {sides : UInt64} (hsides : sides ≠ 0)

include hsides

theorem toNat_pos : 0 < sides.toNat := UInt64.pos_iff_ne_zero.mpr hsides

/-- The leading zeros are what the length of the number lacks. -/
theorem leadingZeros_add_log2 : leadingZeros sides + sides.toNat.log2 = 63 := by
  have hpos := toNat_pos hsides
  have hlog : sides.toNat.log2 < 64 := (Nat.log2_lt (by omega)).mpr sides.toNat_lt
  rw [leadingZeros, if_neg hsides]
  omega

/-- Shifted by its leading zeros a number has its top bit set, so at least half of each block is
taken. -/
theorem le_acceptanceBound : 2 ^ 63 ≤ acceptanceBound sides := by
  have hpos := toNat_pos hsides
  calc 2 ^ 63
    _ = 2 ^ sides.toNat.log2 * 2 ^ leadingZeros sides := by
      rw [← pow_add, Nat.add_comm, leadingZeros_add_log2 hsides]
    _ ≤ sides.toNat * 2 ^ leadingZeros sides :=
      Nat.mul_le_mul_right _ (Nat.log2_self_le (by omega))
    _ = acceptanceBound sides := (acceptanceBound_eq sides).symm

theorem acceptanceBound_lt : acceptanceBound sides < 2 ^ 64 := by
  calc acceptanceBound sides
    _ = sides.toNat * 2 ^ leadingZeros sides := acceptanceBound_eq sides
    _ < 2 ^ (sides.toNat.log2 + 1) * 2 ^ leadingZeros sides :=
      Nat.mul_lt_mul_of_pos_right Nat.lt_log2_self (Nat.two_pow_pos _)
    _ = 2 ^ 64 := by
      rw [← pow_add, Nat.add_right_comm, Nat.add_comm _ (leadingZeros sides),
        leadingZeros_add_log2 hsides]

end

/-! ## The words of a face -/

/-- The multiples of `n` that are among `n * count` numbers are `count` consecutive ones. -/
theorem mul_mem_block_iff {start n first : Nat} (hstart : start ≤ n * first)
    (hfirst : n * first < start + n) (count w : Nat) :
    start ≤ w * n ∧ w * n < start + n * count ↔ first ≤ w ∧ w < first + count := by
  have hmono {a b : Nat} (h : a ≤ b) : n * a ≤ n * b := Nat.mul_le_mul_left n h
  rw [Nat.mul_comm w n]
  constructor
  · rintro ⟨hlow, hhigh⟩
    constructor
    · by_contra hlt
      have := hmono (show w + 1 ≤ first by omega)
      rw [Nat.mul_succ] at this
      omega
    · by_contra hge
      have := hmono (show first + count ≤ w by omega)
      rw [Nat.mul_add] at this
      omega
  · rintro ⟨hlow, hhigh⟩
    have hle := hmono hlow
    have hlt := hmono (show w + 1 ≤ first + count by omega)
    rw [Nat.mul_succ, Nat.mul_add] at hlt
    exact ⟨by omega, by omega⟩

/-- A word shows a face if its product is among those that are taken of the block of the face. -/
theorem face?_eq_some_iff_block {sides face : UInt64} (hface : HasFace sides face)
    (word : UInt64) :
    face? sides word = some face ↔
      (face.toNat - 1) * 2 ^ 64 ≤ word.toNat * sides.toNat ∧
        word.toNat * sides.toNat < (face.toNat - 1) * 2 ^ 64 + acceptanceBound sides := by
  obtain ⟨hone, hle⟩ := hface
  have hsides : sides ≠ 0 := UInt64.pos_iff_ne_zero.mp (Nat.lt_of_lt_of_le hone hle)
  have hbound := acceptanceBound_lt hsides
  rw [face?_eq_some_iff]
  omega

/-- The words of a face stand one behind the other. -/
theorem exists_face?_eq_some_iff {sides face : UInt64} (hface : HasFace sides face) :
    ∃ first, first + 2 ^ leadingZeros sides ≤ 2 ^ 64 ∧
      ∀ word, face? sides word = some face ↔
        first ≤ word.toNat ∧ word.toNat < first + 2 ^ leadingZeros sides := by
  have hblock := face?_eq_some_iff_block hface
  obtain ⟨hone, hle⟩ := hface
  have hpos : 0 < sides.toNat := Nat.lt_of_lt_of_le hone hle
  have hbound := acceptanceBound_lt (UInt64.pos_iff_ne_zero.mp hpos)
  rw [acceptanceBound_eq] at hbound hblock
  obtain ⟨first, hstart, hfirst⟩ := exists_mul_between ((face.toNat - 1) * 2 ^ 64) hpos
  refine ⟨first, ?_, fun word => ?_⟩
  · -- the last multiple in the block of the face is below the end of the last block
    have hlast : sides.toNat * (first + 2 ^ leadingZeros sides) < sides.toNat * (2 ^ 64 + 1) := by
      have hface : (face.toNat - 1 + 1) * 2 ^ 64 ≤ sides.toNat * 2 ^ 64 :=
        Nat.mul_le_mul_right _ (by omega)
      rw [Nat.mul_add, Nat.mul_add, Nat.mul_one]
      omega
    have := Nat.lt_of_mul_lt_mul_left hlast
    omega
  · rw [hblock, mul_mem_block_iff hstart hfirst]

/-! ## How many words -/

/-- Consecutive numbers below `2 ^ 64` are as many words. -/
theorem ncard_consecutive {first count : Nat} (h : first + count ≤ 2 ^ 64) :
    {word : UInt64 | first ≤ word.toNat ∧ word.toNat < first + count}.ncard = count := by
  have himage : UInt64.toNat '' {word | first ≤ word.toNat ∧ word.toNat < first + count} =
      Finset.Ico first (first + count) := by
    ext n
    simp only [Set.mem_image, Set.mem_ofPred_eq, Finset.coe_Ico, Set.mem_Ico]
    constructor
    · rintro ⟨word, hword, rfl⟩
      exact hword
    · intro hn
      have hword : (UInt64.ofNat n).toNat = n := toNat_ofNat_of_lt (by omega)
      exact ⟨UInt64.ofNat n, by rwa [hword], hword⟩
  rw [← Set.ncard_image_of_injective _ (fun a b => UInt64.toNat_inj.mp), himage,
    Set.ncard_coe_finset, Nat.card_Ico, Nat.add_sub_cancel_left]

theorem natCard_words : Nat.card UInt64 = 2 ^ 64 := by
  have hall : {word : UInt64 | 0 ≤ word.toNat ∧ word.toNat < 0 + 2 ^ 64} = Set.univ :=
    Set.eq_univ_of_forall fun word => ⟨Nat.zero_le _, by simpa using word.toNat_lt⟩
  rw [← Set.ncard_univ, ← hall, ncard_consecutive (by omega)]

theorem ncard_faces (sides : UInt64) : {face | HasFace sides face}.ncard = sides.toNat := by
  have hlt := sides.toNat_lt
  have hfaces : {face | HasFace sides face} =
      {face | 1 ≤ face.toNat ∧ face.toNat < 1 + sides.toNat} := by
    ext face
    simp only [HasFace, Set.mem_ofPred_eq]
    omega
  rw [hfaces, ncard_consecutive (by omega)]

theorem ncard_wordsOf {sides face : UInt64} (hface : HasFace sides face) :
    (wordsOf sides face).ncard = 2 ^ leadingZeros sides := by
  obtain ⟨first, hfits, hwords⟩ := exists_face?_eq_some_iff hface
  rw [wordsOf, Set.ext hwords]
  exact ncard_consecutive hfits

/-- Each accepted word is one of the words of one face. -/
theorem ncard_accepted (sides : UInt64) :
    (accepted sides).ncard = sides.toNat * 2 ^ leadingZeros sides := by
  have hfaces := Set.toFinite {face | HasFace sides face}
  have hwords := Set.toFinite (accepted sides)
  have hshown : Set.MapsTo (fun word => (face? sides word).getD 0) hwords.toFinset
      hfaces.toFinset := by
    intro word hword
    obtain ⟨face, hface⟩ := Option.isSome_iff_exists.mp (hwords.mem_toFinset.mp hword)
    simpa [hface] using hasFace_of_face? hface
  rw [Set.ncard_eq_toFinset_card _ hwords, Finset.card_eq_sum_card_fiberwise hshown,
    Finset.sum_const_nat (m := 2 ^ leadingZeros sides), ← Set.ncard_eq_toFinset_card _ hfaces,
    ncard_faces]
  intro face hmem
  have hface : HasFace sides face := hfaces.mem_toFinset.mp hmem
  rw [← ncard_wordsOf hface, ← Set.ncard_coe_finset]
  congr 1
  ext word
  simp only [Finset.coe_filter, Set.Finite.mem_toFinset, Set.mem_ofPred_eq, wordsOf, accepted]
  cases face? sides word <;> simp

theorem ncard_rejected (sides : UInt64) :
    (rejected sides).ncard = 2 ^ 64 - sides.toNat * 2 ^ leadingZeros sides := by
  have hcompl : (accepted sides)ᶜ = rejected sides := by
    ext word
    simp [accepted, rejected]
  rw [← hcompl, Set.ncard_compl, natCard_words, ncard_accepted]

/-! ## Streams of words -/

/-- A die takes the words up to the first accepted one, and leaves all words behind it. -/
theorem run_fair_take {sides face : UInt64} {stream : Stream' UInt64} {n : Nat}
    (hrejected : ∀ i < n, stream.get i ∈ rejected sides)
    (hword : stream.get n ∈ wordsOf sides face) (m : Nat) :
    (fair sides).run (stream.take (n + 1 + m)) = .ok (face, (stream.drop (n + 1)).take m) := by
  have hsides : sides ≠ 0 := by
    rintro rfl
    exact absurd (face?_eq_some_iff.mp hword).1 (by simp)
  have htake : stream.take (n + 1 + m) =
      stream.take n ++ stream.get n :: (stream.drop (n + 1)).take m := by
    rw [Stream'.take_add, Stream'.take_succ', List.append_assoc, List.singleton_append]
  have hbefore : ∀ word ∈ stream.take n, face? sides word = none := by
    intro word hmem
    obtain ⟨i, hi, rfl⟩ := List.mem_iff_getElem.mp hmem
    have hlt : i < n := by simpa using hi
    have hget : (stream.take n)[i] = stream.get i :=
      Option.some.inj ((List.getElem?_eq_getElem hi).symm.trans (Stream'.getElem?_take hlt))
    rw [hget]
    exact hrejected i hlt
  calc (fair sides).run (stream.take (n + 1 + m))
    _ = draw sides (stream.take n ++ stream.get n :: (stream.drop (n + 1)).take m) := by
      rw [← htake]
      rfl
    _ = .ok (face, (stream.drop (n + 1)).take m) := by
      rw [draw_of_ne_zero hsides, firstFace_append _ _ hbefore hword, Option.elim_some]

/-- A stream with an accepted word has a first one. -/
theorem exists_first_accepted {sides : UInt64} {stream : Stream' UInt64}
    (h : ∃ i, stream.get i ∈ accepted sides) :
    ∃ n face, (∀ i < n, stream.get i ∈ rejected sides) ∧ stream.get n ∈ wordsOf sides face := by
  classical
  obtain ⟨face, hface⟩ := Option.isSome_iff_exists.mp (Nat.find_spec h)
  refine ⟨Nat.find h, face, fun i hi => ?_, hface⟩
  exact Option.not_isSome_iff_eq_none.mp (Nat.find_min h hi)

/-- Each face of a die has `2 ^ z` words, for `z` leading zeros of the number of its sides; no other
face has any, and all other words are rejected. So at least half of all words are accepted. On a
stream that has an accepted word the die shows the face of the first one, and all words behind it
are left, however many of them there are. -/
theorem fair_uniform {sides : UInt64} (hsides : sides ≠ 0) :
    (2 ^ 63 ≤ sides.toNat * 2 ^ leadingZeros sides ∧
      sides.toNat * 2 ^ leadingZeros sides < 2 ^ 64) ∧
    (∀ face, HasFace sides face → (wordsOf sides face).ncard = 2 ^ leadingZeros sides) ∧
    (∀ word face, word ∈ wordsOf sides face → HasFace sides face) ∧
    (∀ word, (∀ face, HasFace sides face → word ∉ wordsOf sides face) → word ∈ rejected sides) ∧
    (accepted sides).ncard = sides.toNat * 2 ^ leadingZeros sides ∧
    (rejected sides).ncard = 2 ^ 64 - sides.toNat * 2 ^ leadingZeros sides ∧
    Nat.card UInt64 ≤ 2 * (accepted sides).ncard ∧
    ∀ stream : Stream' UInt64, (∃ i, stream.get i ∈ accepted sides) →
      ∃ n face, (∀ i < n, stream.get i ∈ rejected sides) ∧ stream.get n ∈ wordsOf sides face ∧
        ∀ m, (fair sides).run (stream.take (n + 1 + m)) =
          .ok (face, (stream.drop (n + 1)).take m) := by
  have hle := le_acceptanceBound hsides
  have hlt := acceptanceBound_lt hsides
  rw [acceptanceBound_eq] at hle hlt
  refine ⟨⟨hle, hlt⟩, fun face => ncard_wordsOf, fun word face => hasFace_of_face?, ?_,
    ncard_accepted sides, ncard_rejected sides, ?_, fun stream hstream => ?_⟩
  · intro word hother
    cases hword : face? sides word with
    | none => exact hword
    | some face => exact absurd hword (hother face (hasFace_of_face? hword))
  · rw [natCard_words, ncard_accepted]
    omega
  · obtain ⟨n, face, hrejected, hword⟩ := exists_first_accepted hstream
    exact ⟨n, face, hrejected, hword, run_fair_take hrejected hword⟩

/-- A die with one side more than `2 ^ 63` has a single word for each face. It rejects the word
`1`, and a stream of zeros behind that is left but for its first word. -/
theorem fair_uniform_halves :
    let sides : UInt64 := 0x8000000000000001
    let stream : Stream' UInt64 := .cons 1 (.const 0)
    sides ≠ 0 ∧ HasFace sides 2 ∧ (wordsOf sides 2).ncard = 1 ∧ stream.get 0 ∉ accepted sides ∧
    stream.get 1 ∈ accepted sides ∧
    ∃ n face, stream.get n ∈ wordsOf sides face ∧
      ∀ m, (fair sides).run (stream.take (n + 1 + m)) =
        .ok (face, (stream.drop (n + 1)).take m) := by
  intro sides stream
  have hsides : sides ≠ 0 := by decide
  have hface : HasFace sides 2 := by
    unfold HasFace
    decide
  have haccepted : stream.get 1 ∈ accepted sides := by
    change (face? sides 0).isSome
    decide
  obtain ⟨-, hwords, -, -, -, -, -, hstream⟩ := fair_uniform hsides
  obtain ⟨n, face, -, hword, hrun⟩ := hstream stream ⟨1, haccepted⟩
  refine ⟨hsides, hface, ?_, ?_, haccepted, n, face, hword, hrun⟩
  · have hzeros : leadingZeros sides = 0 := by decide
    rw [hwords 2 hface, hzeros, pow_zero]
  · change ¬ (face? sides 1).isSome
    decide

end DiceLauncher.Dice
