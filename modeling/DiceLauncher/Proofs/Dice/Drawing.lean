import DiceLauncher.Proofs.Dice.Fair
import DiceLauncher.Proofs.Dice.Requests

/-!
# Rolling with random words

A batch that is rolled with words off a tape draws one die after the other. `Dice.Draws`
states which words answer which requests, and by which faces, without the tape: for each
request some words that are rejected, and then one that is accepted. A tape gives the
same faces as any other that begins with these words, so an endless stream of words is
known by its beginnings.

Results:
* `run_mapM_fair_eq_ok_iff`: a tape answers requests by the words at its beginning.
* `Draws.hasFace`, `exists_draws`: the faces that words can answer by.
* `Batch.roll_fair_possible`: no die without faces is ever drawn, and the reports of a
  batch are those whose dice are as many as are thrown and show faces of theirs.
-/

namespace DiceLauncher

/-! ## Specification -/

/-- Words that answer requests for dice by faces, up to and including the last word needed. -/
inductive Dice.Draws : (requests words faces : List UInt64) → Prop
  /-- Nothing is asked for. -/
  | nil : Draws [] [] []
  /-- Words are dropped up to the first one that is accepted. -/
  | cons {sides word face : UInt64} {rejected requests words faces : List UInt64} :
    (∀ w ∈ rejected, face? sides w = none) → face? sides word = some face →
      Draws requests words faces →
        Draws (sides :: requests) (rejected ++ word :: words) (face :: faces)

/-- Drawing the dice that are asked for comes to an end on an endless stream of words. -/
def Dice.EndsOn (requests : List UInt64) (stream : Stream' UInt64) : Prop :=
  ∃ n faces, Draws requests (stream.take n) faces

/-- Faces that the dice of a roll can show. -/
structure RollSpec.CanShow (spec : RollSpec) (faces : List UInt64) : Prop where
  /-- All dice are thrown, unless they are too many or have no faces. -/
  length : faces.length =
    if spec.count.toNat ≤ 5000 ∧ 0 < spec.sides.toNat then spec.count.toNat else 0
  /-- Each shows one of its faces. -/
  range : ∀ face ∈ faces, 1 ≤ face.toNat ∧ face.toNat ≤ spec.sides.toNat

namespace Dice

/-! ## Answers to requests -/

theorem Draws.hasFace {requests words faces : List UInt64} (h : Draws requests words faces) :
    List.Forall₂ HasFace requests faces := by
  induction h with
  | nil => exact .nil
  | cons _ hword _ ih => exact .cons (hasFace_of_face? hword) ih

/-- A word that is accepted at once. -/
theorem Draws.cons_accepted {sides word face : UInt64} {requests words faces : List UInt64}
    (hword : face? sides word = some face) (h : Draws requests words faces) :
    Draws (sides :: requests) (word :: words) (face :: faces) :=
  have hrejected : ∀ w ∈ ([] : List UInt64), face? sides w = none := by simp
  .cons hrejected hword h

/-- Words can be found for any faces of the dice. -/
theorem exists_draws {requests faces : List UInt64} (h : List.Forall₂ HasFace requests faces) :
    ∃ words, Draws requests words faces := by
  induction h with
  | nil => exact ⟨[], .nil⟩
  | cons hface _ ih =>
    obtain ⟨word, hword⟩ := exists_face?_eq_some hface
    obtain ⟨words, hwords⟩ := ih
    exact ⟨word :: words, .cons_accepted hword hwords⟩

/-! ## Taking the answers off a tape -/

theorem run_mapM_fair_cons (sides : UInt64) (requests words : List UInt64) :
    ((sides :: requests).mapM fair).run words = (do
      let (face, words) ← draw sides words
      let (faces, words) ← (requests.mapM fair).run words
      pure (face :: faces, words)) := by
  simp only [List.mapM_cons, StateT.run_bind]
  rfl

/-- A tape answers requests by the words at its beginning and keeps the others. -/
theorem run_mapM_fair_eq_ok_iff {requests words faces rest : List UInt64}
    (hrequests : ∀ sides ∈ requests, sides ≠ 0) :
    (requests.mapM fair).run words = .ok (faces, rest) ↔
      ∃ used, words = used ++ rest ∧ Draws requests used faces := by
  induction requests generalizing words faces with
  | nil =>
    constructor
    · rintro ⟨⟩
      exact ⟨[], rfl, .nil⟩
    · rintro ⟨used, rfl, ⟨⟩⟩
      rfl
  | cons sides requests ih =>
    have hsides : sides ≠ 0 := hrequests sides List.mem_cons_self
    have hothers : ∀ s ∈ requests, s ≠ 0 := fun s hs => hrequests s (List.mem_cons_of_mem _ hs)
    rw [run_mapM_fair_cons, draw_of_ne_zero hsides]
    constructor
    · intro h
      cases hfirst : firstFace sides words with
      | none => simp [hfirst, bind, Except.bind] at h
      | some drawn =>
        obtain ⟨face, left⟩ := drawn
        obtain ⟨rejected, word, rfl, hrejected, hword⟩ := firstFace_eq_some_iff.mp hfirst
        cases hrun : (requests.mapM fair).run left with
        | error fault => simp [hfirst, hrun, bind, Except.bind] at h
        | ok result =>
          obtain ⟨others, last⟩ := result
          simp only [hfirst, Option.elim_some, hrun, bind, Except.bind, pure, Except.pure,
            Except.ok.injEq, Prod.mk.injEq] at h
          obtain ⟨rfl, rfl⟩ := h
          obtain ⟨used, rfl, hdraws⟩ := (ih hothers).mp hrun
          exact ⟨rejected ++ word :: used, by simp, .cons hrejected hword hdraws⟩
    · rintro ⟨used, rfl, hdraws⟩
      cases hdraws with
      | @cons _ word face rejected _ used others hrejected hword hdraws =>
        have hrun := (ih hothers).mpr ⟨used, rfl, hdraws⟩
        rw [List.append_assoc, List.cons_append, firstFace_append rejected _ hrejected hword]
        simp [hrun, bind, Except.bind, pure, Except.pure]

/-- Dice with faces are drawn without a fault, unless the words run out. -/
theorem run_mapM_fair_ne_noFaces {requests : List UInt64}
    (hrequests : ∀ sides ∈ requests, sides ≠ 0) (words : List UInt64) :
    (requests.mapM fair).run words ≠ .error .noFaces := by
  induction requests generalizing words with
  | nil => exact nofun
  | cons sides requests ih =>
    have hsides : sides ≠ 0 := hrequests sides List.mem_cons_self
    have hothers : ∀ s ∈ requests, s ≠ 0 := fun s hs => hrequests s (List.mem_cons_of_mem _ hs)
    rw [run_mapM_fair_cons, draw_of_ne_zero hsides]
    cases hfirst : firstFace sides words with
    | none => simp [bind, Except.bind]
    | some drawn =>
      have hrun := ih hothers drawn.2
      cases hrest : (requests.mapM fair).run drawn.2 with
      | error fault =>
        rw [hrest] at hrun
        simpa [hrest, bind, Except.bind] using hrun
      | ok result => simp [hrest, bind, Except.bind, pure, Except.pure]

end Dice

/-! ## The faces of a batch -/

theorem RollSpec.ne_zero_of_mem_requests {spec : RollSpec} {sides : UInt64}
    (h : sides ∈ spec.requests) : sides ≠ 0 := by
  unfold requests at h
  split_ifs at h with hthrown
  · obtain ⟨-, rfl⟩ := List.mem_replicate.mp h
    intro hzero
    simp [hzero] at hthrown
  · simp at h

theorem RollSpec.length_requests (spec : RollSpec) :
    spec.requests.length =
      if spec.count.toNat ≤ 5000 ∧ 0 < spec.sides.toNat then spec.count.toNat else 0 := by
  unfold requests
  split_ifs <;> simp

/-- The faces that a roll can show are those of the dice it asks for. -/
theorem RollSpec.canShow_iff {spec : RollSpec} {faces : List UInt64} :
    spec.CanShow faces ↔ List.Forall₂ Dice.HasFace spec.requests faces := by
  have hmem : ∀ sides ∈ spec.requests, sides = spec.sides := by
    unfold requests
    split_ifs
    · simp
    · simp
  rw [List.forall₂_iff_zip]
  constructor
  · rintro ⟨hlength, hrange⟩
    refine ⟨by rw [hlength, length_requests], fun {sides face} hzip => ?_⟩
    rw [hmem sides (List.of_mem_zip hzip).1]
    exact hrange face (List.of_mem_zip hzip).2
  · rintro ⟨hlength, hzip⟩
    refine ⟨by rw [← hlength, length_requests], fun face hface => ?_⟩
    obtain ⟨i, hi, rfl⟩ := List.mem_iff_getElem.mp hface
    have hi' : i < spec.requests.length := by omega
    have hpair : (spec.requests[i], faces[i]) ∈ spec.requests.zip faces :=
      List.mem_iff_getElem.mpr ⟨i, by simp; omega, by simp⟩
    have := hzip hpair
    rwa [hmem _ (List.getElem_mem hi')] at this

namespace Batch

theorem ne_zero_of_mem_requests {batch : Batch} {sides : UInt64} (h : sides ∈ batch.requests) :
    sides ≠ 0 := by
  obtain ⟨spec, -, hmem⟩ := List.mem_flatMap.mp h
  exact RollSpec.ne_zero_of_mem_requests hmem

/-- Each roll is dealt faces that its dice can show. -/
theorem canShow_of_mem_deal {batch : Batch} {faces : List UInt64}
    (h : List.Forall₂ Dice.HasFace batch.requests faces) {outcome : Outcome}
    (hmem : outcome ∈ batch.deal faces) : outcome.spec.CanShow outcome.rolls := by
  induction batch generalizing faces with
  | nil => simp [deal] at hmem
  | cons spec batch ih =>
    rw [requests_cons] at h
    have htake := List.forall₂_take spec.requests.length h
    have hdrop := List.forall₂_drop spec.requests.length h
    rw [List.take_left] at htake
    rw [List.drop_left] at hdrop
    rcases List.mem_cons.mp hmem with rfl | hmem
    · rw [Outcome.rolls_showing htake.length_eq.symm]
      exact RollSpec.canShow_iff.mpr htake
    · exact ih hdrop hmem

theorem hasFace_of_canShow {batch : Batch} {family : List (List UInt64)}
    (h : List.Forall₂ RollSpec.CanShow batch family) :
    List.Forall₂ Dice.HasFace batch.requests family.flatten := by
  refine List.rel_flatten (List.forall₂_map_left_iff.mpr ?_)
  exact h.imp fun _ _ => RollSpec.canShow_iff.mp

theorem map_rolls_deal {batch : Batch} {family : List (List UInt64)}
    (h : List.Forall₂ RollSpec.CanShow batch family) :
    (batch.deal family.flatten).map Outcome.rolls = family := by
  induction h with
  | nil => rfl
  | @cons spec faces batch family hspec _ ih =>
    have hlength : faces.length = spec.requests.length := by
      rw [hspec.length, spec.length_requests]
    rw [List.flatten_cons, deal_cons_append spec batch hlength, List.map_cons, ih,
      Outcome.rolls_showing hlength]

/-! ## Rolling a batch -/

theorem run_roll_fair (batch : Batch) (words : List UInt64) :
    (batch.roll Dice.fair).run words =
      ((batch.requests.mapM Dice.fair).run words).map fun (faces, rest) =>
        (⟨batch.deal faces⟩, rest) := by
  rw [roll_eq, StateT.run_bind]
  cases (batch.requests.mapM Dice.fair).run words <;> rfl

theorem run_roll_fair_ne_noFaces (batch : Batch) (words : List UInt64) :
    (batch.roll Dice.fair).run words ≠ .error .noFaces := by
  have hrun := Dice.run_mapM_fair_ne_noFaces (fun _ => batch.ne_zero_of_mem_requests) words
  rw [run_roll_fair]
  cases hresult : (batch.requests.mapM Dice.fair).run words with
  | error fault =>
    rw [hresult] at hrun
    simpa [Except.map] using hrun
  | ok result => simp [Except.map]

theorem run_roll_fair_eq_ok_iff {batch : Batch} {words rest : List UInt64} {report : Report} :
    (batch.roll Dice.fair).run words = .ok (report, rest) ↔
      ∃ used faces, words = used ++ rest ∧ Dice.Draws batch.requests used faces ∧
        report = ⟨batch.deal faces⟩ := by
  have hrun (faces left : List UInt64) :=
    @Dice.run_mapM_fair_eq_ok_iff batch.requests words faces left
      fun _ => batch.ne_zero_of_mem_requests
  rw [run_roll_fair]
  constructor
  · intro h
    cases hresult : (batch.requests.mapM Dice.fair).run words with
    | error fault => simp [hresult, Except.map] at h
    | ok result =>
      obtain ⟨faces, left⟩ := result
      simp only [hresult, Except.map, Except.ok.injEq, Prod.mk.injEq] at h
      obtain ⟨rfl, rfl⟩ := h
      obtain ⟨used, hwords, hdraws⟩ := (hrun faces left).mp hresult
      exact ⟨used, faces, hwords, hdraws, rfl⟩
  · rintro ⟨used, faces, hwords, hdraws, rfl⟩
    rw [(hrun faces rest).mpr ⟨used, hwords, hdraws⟩]
    rfl

/-- The words that a roll uses are a beginning of the stream. -/
theorem endsOn_of_run_roll_fair {batch : Batch} {stream : Stream' UInt64} {n : Nat}
    {result : Report × List UInt64}
    (h : (batch.roll Dice.fair).run (stream.take n) = .ok result) :
    Dice.EndsOn batch.requests stream := by
  obtain ⟨used, faces, htake, hdraws, -⟩ := run_roll_fair_eq_ok_iff.mp h
  have hlength : n = used.length + result.2.length := by simpa using congrArg List.length htake
  have hused : stream.take used.length = used := by
    have := congrArg (List.take used.length) htake
    rwa [Stream'.take_take, List.take_left, Nat.min_eq_right (by omega)] at this
  exact ⟨used.length, faces, by rwa [hused]⟩

/-- Rolling a batch with random words never draws a die without faces. On an endless stream of
words on which the draws end, it takes some words and gives a report in which each roll has the
faces that its dice can show, and as many; otherwise the words run out at every length. And every
choice of faces that the dice can show is the report of the batch for some words. -/
theorem roll_fair_possible (batch : Batch) :
    (∀ words, (batch.roll Dice.fair).run words ≠ .error .noFaces) ∧
    (∀ stream : Stream' UInt64, Dice.EndsOn batch.requests stream →
      ∃ n report,
        (∀ m, (batch.roll Dice.fair).run (stream.take (n + m)) =
          .ok (report, (stream.drop n).take m)) ∧
        report.outcomes.map Outcome.spec = batch ∧
        ∀ outcome ∈ report.outcomes, outcome.spec.CanShow outcome.rolls) ∧
    (∀ stream : Stream' UInt64, ¬ Dice.EndsOn batch.requests stream →
      ∀ n, (batch.roll Dice.fair).run (stream.take n) = .error .outOfWords) ∧
    ∀ family, List.Forall₂ RollSpec.CanShow batch family →
      ∃ words report, (batch.roll Dice.fair).run words = .ok (report, []) ∧
        report.outcomes.map Outcome.spec = batch ∧ report.outcomes.map Outcome.rolls = family := by
  refine ⟨batch.run_roll_fair_ne_noFaces, ?_, ?_, ?_⟩
  · rintro stream ⟨n, faces, hdraws⟩
    refine ⟨n, ⟨batch.deal faces⟩, fun m => ?_, map_spec_deal batch faces, fun outcome => ?_⟩
    · exact run_roll_fair_eq_ok_iff.mpr ⟨_, faces, Stream'.take_add .., hdraws, rfl⟩
    · exact canShow_of_mem_deal hdraws.hasFace
  · intro stream hends n
    cases hrun : (batch.roll Dice.fair).run (stream.take n) with
    | ok result => exact absurd (endsOn_of_run_roll_fair hrun) hends
    | error fault =>
      cases fault with
      | noFaces => exact absurd hrun (batch.run_roll_fair_ne_noFaces _)
      | outOfWords => rfl
  · intro family hfamily
    obtain ⟨words, hdraws⟩ := Dice.exists_draws (hasFace_of_canShow hfamily)
    refine ⟨words, ⟨batch.deal family.flatten⟩, ?_, map_spec_deal _ _, map_rolls_deal hfamily⟩
    exact run_roll_fair_eq_ok_iff.mpr ⟨words, _, (List.append_nil words).symm, hdraws, rfl⟩

/-- A word of zeros shows a one; the second roll has dice without faces, the third too many. -/
theorem roll_fair_possible_mixed :
    let batch : Batch := [⟨2, 6, none⟩, ⟨3, 0, some 1⟩, ⟨5001, 4, none⟩]
    Dice.EndsOn batch.requests (Stream'.const 0) ∧
    List.Forall₂ RollSpec.CanShow batch [[6, 1], [], []] ∧
    (∃ n report, ∀ m, (batch.roll Dice.fair).run ((Stream'.const 0).take (n + m)) =
      .ok (report, ((Stream'.const 0).drop n).take m)) ∧
    ∃ words report, (batch.roll Dice.fair).run words = .ok (report, []) ∧
      report.outcomes.map Outcome.rolls = [[6, 1], [], []] := by
  intro batch
  have hends : Dice.EndsOn batch.requests (Stream'.const 0) :=
    ⟨2, [1, 1], .cons_accepted (by decide) (.cons_accepted (by decide) .nil)⟩
  have hfamily : List.Forall₂ RollSpec.CanShow batch [[6, 1], [], []] :=
    .cons ⟨by simp, by simp⟩ (.cons ⟨by simp, by simp⟩
      (.cons ⟨by simp, by simp⟩ .nil))
  obtain ⟨-, hstream, -, hconverse⟩ := roll_fair_possible batch
  obtain ⟨n, report, hrun, -, -⟩ := hstream _ hends
  obtain ⟨words, shown, hwords, -, hrolls⟩ := hconverse _ hfamily
  exact ⟨hends, hfamily, ⟨n, report, hrun⟩, words, shown, hwords, hrolls⟩

end Batch

end DiceLauncher
