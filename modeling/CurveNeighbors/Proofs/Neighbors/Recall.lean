import CurveNeighbors.Index.Session
import CurveNeighbors.Proofs.Neighbors.Parts
import CurveNeighbors.Proofs.Number.Values

/-!
# Recall and answers

The recall of some candidates says how good an answer from them is. The true neighbours
that are among the candidates come first in the answer and in the same order, and their
share of all true neighbours is the recall. So the recall is one exactly if the answer is
right: a candidate that is not a true neighbour can only take the place of one that is
missing.
-/

namespace CurveNeighbors

/-- The recall before anything is rounded. -/
def exactRecall (trueNeighbors candidates : List Value) (count : Int) : Outcome Rat := do
  let found ← foundCount trueNeighbors candidates
  return min 1 (found / count)

namespace Neighbor

/-- Whether the key of a neighbour is among some keys. -/
def isAmong (candidates : KeySequence) (neighbor : Neighbor) : Bool :=
  candidates.values.any (·.same neighbor.key)

theorem isAmong_eq {candidates : KeySequence} {neighbor : Neighbor} {key : Key}
    (known : neighbor.key.toKey = .ok key) :
    neighbor.isAmong candidates = candidates.contains key := by
  rw [isAmong, ← Key.value_of_toKey known, KeySequence.values, List.any_map]
  rfl

end Neighbor

/-! ## Counting true neighbours -/

theorem Key.mapM_toKey (keys : List Key) : (keys.map Key.value).mapM Value.toKey = .ok keys := by
  induction keys with
  | nil => rfl
  | cons key keys ih =>
      rw [List.map_cons, Outcome.mapM_cons, key.toKey_value, Outcome.ok_bind, ih, Outcome.ok_bind]

namespace KeySequence

theorem mapM_toKey_values (sequence : KeySequence) :
    sequence.values.mapM Value.toKey = .ok sequence.keys :=
  Key.mapM_toKey sequence.keys

end KeySequence

theorem map_listedKey (neighbors : List Neighbor) :
    (neighbors.map Index.listed).map listedKey = neighbors.map Neighbor.key := by
  rw [List.map_map]
  rfl

/-- Neighbours with different keys count once each if they are among the candidates. -/
theorem foundCount_eq {neighbors : List Neighbor} {keys : List Key} {candidates : KeySequence}
    (known : (neighbors.map Neighbor.key).mapM Value.toKey = .ok keys)
    (different : keys.Pairwise fun earlier later => (earlier == later) = false) :
    foundCount (neighbors.map Index.listed) candidates.values =
      .ok (neighbors.filter (Neighbor.isAmong candidates)).length := by
  have unseen : ∀ key ∈ keys, KeySequence.empty.contains key = false := by
    intro key _
    rfl
  have counted : neighbors.countP (Neighbor.isAmong candidates) =
      keys.countP candidates.contains := by
    apply countP_eq_of_forall₂
    apply (List.forall₂_map_left_iff.mp (Outcome.forall₂_of_mapM known)).imp
    intro neighbor key isKey
    exact Neighbor.isAmong_eq isKey
  rw [foundCount, map_listedKey, KeySequence.ofValues, known, Outcome.ok_bind,
    candidates.mapM_toKey_values]
  change Except.ok (List.countP candidates.contains (KeySequence.empty.insertAll keys).keys) = _
  rw [KeySequence.keys_insertAll different unseen, ← List.countP_eq_length_filter, counted]
  rfl

theorem roundedCount_whole {capacity : Nat} (positive : 0 < capacity) (small : capacity ≤ 2 ^ 53) :
    roundedCount (.whole capacity) = .ok (.finite capacity) := by
  rcases Binary64.exists_ofInt?_eq positive small with ⟨rounded, isRounded, value⟩
  rw [roundedCount, Number.toFloat?, isRounded]
  exact congrArg Except.ok value

/-- Up to a number of `2 ^ 53` the recall is rounded once. -/
theorem candidateRecall_eq {trueNeighbors candidates : List Value} {capacity found : Nat}
    (positive : 0 < capacity) (small : capacity ≤ 2 ^ 53)
    (counted : foundCount trueNeighbors candidates = .ok found) (few : found ≤ capacity) :
    candidateRecall trueNeighbors candidates (.ofInt capacity) =
      .ok (Binary64.nearest false found capacity) := by
  have share : cappedShare found (.finite capacity) = Binary64.nearest false found capacity := by
    simp [cappedShare, Nat.min_eq_left few]
  rw [candidateRecall, readNeighborCount_of_positive (Int.natCast_pos.mpr positive),
    Outcome.ok_bind, counted, Outcome.ok_bind, roundedCount_whole positive small, Outcome.ok_bind,
    share]
  rfl

theorem exactRecall_eq {trueNeighbors candidates : List Value} {capacity found : Nat}
    (positive : 0 < capacity) (counted : foundCount trueNeighbors candidates = .ok found)
    (few : found ≤ capacity) :
    exactRecall trueNeighbors candidates capacity = .ok (found / capacity) := by
  have whole : (0 : ℚ) < capacity := Nat.cast_pos.mpr positive
  have share : (found : ℚ) / capacity ≤ 1 := by
    rw [div_le_one whole]
    exact_mod_cast few
  rw [exactRecall, counted, Outcome.ok_bind]
  exact congrArg Except.ok (min_eq_right share)

theorem exactRecall_eq_one_iff {trueNeighbors candidates : List Value} {capacity found : Nat}
    (positive : 0 < capacity) (counted : foundCount trueNeighbors candidates = .ok found)
    (few : found ≤ capacity) :
    exactRecall trueNeighbors candidates capacity = .ok 1 ↔ found = capacity := by
  rw [exactRecall_eq positive counted few, Except.ok.injEq,
    div_eq_one_iff_eq (Nat.cast_ne_zero.mpr (Nat.ne_of_gt positive)), Nat.cast_inj]

/-- Rounding makes no share one that is not one before. -/
theorem candidateRecall_eq_one_iff {trueNeighbors candidates : List Value} {capacity found : Nat}
    (positive : 0 < capacity) (small : capacity ≤ 2 ^ 53)
    (counted : foundCount trueNeighbors candidates = .ok found) (few : found ≤ capacity) :
    (∃ share, candidateRecall trueNeighbors candidates (.ofInt capacity) = .ok share ∧
      Binary64.exact share = .finite 1) ↔ found = capacity := by
  have rounded := candidateRecall_eq positive small counted few
  rcases Binary64.exists_exact_nearest few positive small with ⟨value, isValue, isOne⟩
  constructor
  · rintro ⟨share, isShare, one⟩
    cases rounded.symm.trans isShare
    cases isValue.symm.trans one
    exact isOne.mp rfl
  · intro all
    refine ⟨_, rounded, ?_⟩
    rw [isValue, isOne.mpr all]

section

variable {distance : Distance} {dataset : Dataset} {query : Point} {capacity : Nat}
  {candidates : KeySequence} {whole part kept best : List ScoredCandidate}

/-! ## The true neighbours among the candidates -/

/-- Keys in different rows are different. -/
theorem Dataset.pairwise_of_rows {keys : List Key} {rows : List Nat}
    (placed : keys.mapM dataset.rowOf = .ok rows) (distinct : rows.Nodup) :
    keys.Pairwise fun earlier later => (earlier == later) = false := by
  induction keys generalizing rows with
  | nil => exact .nil
  | cons key keys ih =>
      rw [Outcome.mapM_cons] at placed
      rcases Outcome.bind_eq_ok.mp placed with ⟨row, isRow, placed⟩
      rcases Outcome.bind_eq_ok.mp placed with ⟨rest, others, placed⟩
      cases placed
      rcases List.nodup_cons.mp distinct with ⟨isNew, distinct⟩
      refine List.pairwise_cons.mpr ⟨?_, ih others distinct⟩
      intro other isOther
      rcases Outcome.exists_of_mem_items others isOther with ⟨otherRow, isOtherRow, there⟩
      apply Bool.eq_false_iff.mpr
      intro same
      cases (KeySequence.position_congr same isRow).symm.trans there
      exact isNew isOtherRow

namespace Nearest

theorem nodup_rows (nearest : Nearest capacity whole kept)
    (scores : ScoresOf distance dataset query candidates whole) :
    (kept.map ScoredCandidate.row).Nodup := by
  have distinct : (kept.map ScoredCandidate.rank).Nodup := by
    rw [nearest.ranks]
    exact ((sortedRanks_perm ..).nodup_iff.mpr scores.nodup_ranks).sublist (List.take_sublist ..)
  refine List.pairwise_map.mpr ((List.pairwise_map.mp distinct).imp_of_mem ?_)
  intro left right isLeft isRight otherRank sameRow
  exact otherRank (IsScored.rank_eq_of_row_eq (nearest.isScored scores left isLeft)
    (nearest.isScored scores right isRight) sameRow)

/-- Those that are kept have different keys. -/
theorem exists_keys (nearest : Nearest capacity whole kept)
    (scores : ScoresOf distance dataset query candidates whole) :
    ∃ keys, (kept.map ScoredCandidate.key).mapM Value.toKey = .ok keys ∧
      keys.Pairwise fun earlier later => (earlier == later) = false := by
  have isScored := nearest.isScored scores
  have known : ∀ value ∈ kept.map ScoredCandidate.key, ∃ key, value.toKey = .ok key := by
    intro value isValue
    rcases List.mem_map.mp isValue with ⟨candidate, isKept, rfl⟩
    rcases (isScored candidate isKept).exists_key with ⟨key, isKey, _⟩
    exact ⟨key, isKey⟩
  rcases Outcome.exists_mapM known with ⟨keys, allKnown⟩
  have placed : keys.mapM dataset.rowOf = .ok (kept.map ScoredCandidate.row) := by
    have each := List.forall₂_map_left_iff.mp (Outcome.forall₂_of_mapM allKnown)
    apply Outcome.mapM_of_forall₂
    rw [List.forall₂_map_right_iff]
    apply List.Forall₂.flip
    rw [List.forall₂_iff_zip] at each ⊢
    refine ⟨each.1, ?_⟩
    intro candidate key isPair
    rcases (isScored candidate (List.of_mem_zip isPair).1).exists_key with ⟨other, isOther, placed⟩
    cases (each.2 isPair).symm.trans isOther
    exact placed
  exact ⟨keys, allKnown, Dataset.pairwise_of_rows placed (nearest.nodup_rows scores)⟩

/-- Of the nearest of all those that are among some keys are the nearest of these. -/
theorem ranks_of_part {all : KeySequence} (nearest : Nearest capacity whole kept)
    (closest : Nearest capacity part best) (wholeScores : ScoresOf distance dataset query all whole)
    (partScores : ScoresOf distance dataset query candidates part)
    (within : ∀ key ∈ candidates.keys, all.contains key = true) {found : List ScoredCandidate}
    (isFound : found = kept.filter fun candidate => candidate.neighbor.isAmong candidates) :
    (best.take found.length).map ScoredCandidate.rank = found.map ScoredCandidate.rank := by
  let isPart : Int ×ₗ Int → Bool := fun rank => decide (rank ∈ part.map ScoredCandidate.rank)
  have alike : found = kept.filter (isPart ∘ ScoredCandidate.rank) := by
    rw [isFound]
    apply List.filter_congr
    intro candidate isKept
    have isScored := nearest.isScored wholeScores candidate isKept
    rcases isScored.exists_key with ⟨key, isKey, _⟩
    rw [Neighbor.isAmong_eq isKey, Bool.eq_iff_iff]
    exact (partScores.rank_mem_iff isScored isKey).symm.trans decide_eq_true_iff.symm
  have ranks : found.map ScoredCandidate.rank =
      ((sortedRanks ScoredCandidate.rank whole).take capacity).filter isPart := by
    rw [alike, ← nearest.ranks, List.filter_map]
  have sorted : sortedRanks ScoredCandidate.rank part =
      (sortedRanks ScoredCandidate.rank whole).filter isPart :=
    partScores.sortedRanks_eq wholeScores within
  -- What is taken of the whole first and filtered then begins what is filtered of the whole.
  have begins : found.map ScoredCandidate.rank <+: sortedRanks ScoredCandidate.rank part := by
    rw [ranks, sorted]
    exact (List.take_prefix ..).filter _
  have few : found.length ≤ capacity := by
    rw [isFound]
    apply (List.length_filter_le ..).trans
    rw [nearest.length_eq]
    exact Nat.min_le_left ..
  rw [List.map_take, closest.ranks, List.take_take, Nat.min_eq_left few,
    ← List.length_map ScoredCandidate.rank]
  exact (List.prefix_iff_eq_take.mp begins).symm

/-- Those of the nearest that are among some keys come first in the answer from these. -/
theorem same_of_part {all : KeySequence} (nearest : Nearest capacity whole kept)
    (closest : Nearest capacity part best) (wholeScores : ScoresOf distance dataset query all whole)
    (partScores : ScoresOf distance dataset query candidates part)
    (within : ∀ key ∈ candidates.keys, all.contains key = true) {found : List ScoredCandidate}
    (isFound : found = kept.filter fun candidate => candidate.neighbor.isAmong candidates) :
    List.Forall₂ Neighbor.Same ((best.take found.length).map ScoredCandidate.neighbor)
      (found.map ScoredCandidate.neighbor) := by
  have answerScored : ∀ candidate ∈ best.take found.length,
      IsScored distance dataset query candidate := by
    intro candidate isCandidate
    exact closest.isScored partScores candidate (List.mem_of_mem_take isCandidate)
  have foundScored : ∀ candidate ∈ found, IsScored distance dataset query candidate := by
    intro candidate isCandidate
    rw [isFound] at isCandidate
    exact nearest.isScored wholeScores candidate (List.mem_filter.mp isCandidate).1
  exact forall₂_same_of_ranks answerScored foundScored
    (nearest.ranks_of_part closest wholeScores partScores within isFound)

/-- Each of the nearest that is among some keys counts once. -/
theorem foundCount_eq (nearest : Nearest capacity whole kept) {all : KeySequence}
    (scores : ScoresOf distance dataset query all whole) (candidates : KeySequence) :
    foundCount ((kept.map ScoredCandidate.neighbor).map Index.listed) candidates.values =
      .ok (kept.filter fun candidate => candidate.neighbor.isAmong candidates).length := by
  rcases nearest.exists_keys scores with ⟨keys, known, different⟩
  have names : (kept.map ScoredCandidate.neighbor).map Neighbor.key =
      kept.map ScoredCandidate.key := by
    rw [List.map_map]
    rfl
  rw [← names] at known
  rw [CurveNeighbors.foundCount_eq known different, List.filter_map, List.length_map]
  rfl

end Nearest

/-- The answer is right if and only if all of the nearest are among the candidates. -/
theorem Nearest.all_among_iff {all : KeySequence} (nearest : Nearest capacity whole kept)
    (closest : Nearest capacity part best) (wholeScores : ScoresOf distance dataset query all whole)
    (partScores : ScoresOf distance dataset query candidates part)
    (within : ∀ key ∈ candidates.keys, all.contains key = true) (enough : capacity ≤ whole.length) :
    (kept.filter fun candidate => candidate.neighbor.isAmong candidates).length = capacity ↔
      List.Forall₂ Neighbor.Same (best.map ScoredCandidate.neighbor)
        (kept.map ScoredCandidate.neighbor) := by
  have full : kept.length = capacity := by
    rw [nearest.length_eq, Nat.min_eq_left enough]
  constructor
  · intro all
    have everyOne :
        kept.filter (fun candidate => candidate.neighbor.isAmong candidates) = kept := by
      apply List.filter_eq_self.mpr
      apply List.length_filter_eq_length_iff.mp
      rw [all, full]
    have ranks := nearest.ranks_of_part closest wholeScores partScores within everyOne.symm
    have limited : best.length ≤ kept.length := by
      rw [closest.length_eq, full]
      exact Nat.min_le_left ..
    rw [List.take_of_length_le limited] at ranks
    exact forall₂_same_of_ranks (closest.isScored partScores) (nearest.isScored wholeScores) ranks
  · intro same
    rw [← full, List.length_filter_eq_length_iff]
    intro candidate isKept
    rw [List.forall₂_map_left_iff, List.forall₂_map_right_iff] at same
    rcases exists_left_of_forall₂ same isKept with ⟨other, isOther, sameKey, _⟩
    have isValue : other.key ∈ candidates.values := by
      rw [← map_key_of_mapM partScores.each]
      exact List.mem_map_of_mem (closest.within other isOther)
    exact List.any_eq_true.mpr ⟨other.key, isValue, sameKey⟩

end

/-- The true neighbours that are among some candidates come first in the answer from these, in the
same order, and their share of all is the recall. The recall is one exactly if the answer is right,
and is so after rounding as well. -/
theorem recall_of_answer {distance : Distance} {dataset : Dataset} {query : Point}
    {candidates : KeySequence} {count : Int} (scores : dataset.Scores distance query)
    (within : ∀ key ∈ candidates.keys, dataset.contains key = true) (positive : 0 < count) :
    ∃ nearest answer found : List Neighbor,
      (nearestByScan distance dataset dataset.keys.values query (.ofInt count)).outcome =
        .ok nearest ∧
      (rerank distance dataset candidates.values query (.ofInt count)).outcome = .ok answer ∧
      found = nearest.filter (Neighbor.isAmong candidates) ∧
      List.Forall₂ Neighbor.Same (answer.take found.length) found ∧
      exactRecall (nearest.map Index.listed) candidates.values count =
        .ok (found.length / count) ∧
      (count ≤ 2 ^ 53 →
        candidateRecall (nearest.map Index.listed) candidates.values (.ofInt count) =
          .ok (Binary64.nearest false found.length count.toNat)) ∧
      (count ≤ dataset.size →
        (exactRecall (nearest.map Index.listed) candidates.values count = .ok 1 ↔
          List.Forall₂ Neighbor.Same answer nearest) ∧
        (count ≤ 2 ^ 53 →
          ((∃ share, candidateRecall (nearest.map Index.listed) candidates.values
              (.ofInt count) = .ok share ∧ Binary64.exact share = .finite 1) ↔
            List.Forall₂ Neighbor.Same answer nearest))) := by
  rcases Int.eq_ofNat_of_zero_le positive.le with ⟨capacity, rfl⟩
  have room : 0 < capacity := by omega
  have everyKey : ∀ key ∈ dataset.keys.keys, dataset.contains key = true := by
    intro key isKey
    exact scores.contains_of_mem isKey
  rcases scores.exists_scoresOf everyKey with ⟨whole, wholeScores⟩
  rcases scores.exists_scoresOf within with ⟨part, partScores⟩
  rcases scan_nearest room wholeScores.each wholeScores.defined with ⟨kept, scanned, nearest⟩
  rcases rerank_nearest room partScores.each partScores.defined with ⟨best, reranked, closest⟩
  let among : List ScoredCandidate :=
    kept.filter fun candidate => candidate.neighbor.isAmong candidates
  have isFound : among.map ScoredCandidate.neighbor =
      (kept.map ScoredCandidate.neighbor).filter (Neighbor.isAmong candidates) := by
    rw [List.filter_map]
    rfl
  have same := nearest.same_of_part closest wholeScores partScores within rfl
  have few : among.length ≤ capacity := by
    apply (List.length_filter_le ..).trans
    rw [nearest.length_eq]
    exact Nat.min_le_left ..
  have counted := nearest.foundCount_eq wholeScores candidates
  refine ⟨_, _, among.map ScoredCandidate.neighbor, scanned, reranked, isFound, ?_, ?_, ?_, ?_⟩
  · rw [← List.map_take, List.length_map]
    exact same
  · rw [exactRecall_eq room counted few, List.length_map]
    rfl
  · intro small
    rw [List.length_map, Int.toNat_natCast]
    exact candidateRecall_eq room (by omega) counted few
  · intro enough
    have full : capacity ≤ whole.length := by
      rw [wholeScores.length_eq]
      exact Int.ofNat_le.mp enough
    have right := nearest.all_among_iff closest wholeScores partScores within full
    refine ⟨(exactRecall_eq_one_iff room counted few).trans right, ?_⟩
    intro small
    exact (candidateRecall_eq_one_iff room (by omega) counted few).trans right

/-- Three points, of which the last two are one and the same. -/
def threePoints : Dataset :=
  ⟨⟨[7, 8, 9].map Key.ofInt, by decide⟩, [[1, 0], [0, 0], [0, 0]], 2, rfl, by simp⟩

theorem recall_of_answer_hamming :
    ∃ (candidates : KeySequence) (nearest answer : List Neighbor),
      threePoints.Scores .hamming [0, 0] ∧
      (∀ key ∈ candidates.keys, threePoints.contains key = true) ∧
      (nearestByScan .hamming threePoints threePoints.keys.values [0, 0] (.ofInt 2)).outcome =
        .ok nearest ∧
      (rerank .hamming threePoints candidates.values [0, 0] (.ofInt 2)).outcome = .ok answer ∧
      (exactRecall (nearest.map Index.listed) candidates.values 2 = .ok 1 ↔
        List.Forall₂ Neighbor.Same answer nearest) := by
  have scores : threePoints.Scores .hamming [0, 0] := by
    intro key isKey
    simp only [threePoints, List.map_cons, List.map_nil, List.mem_cons, List.not_mem_nil,
      or_false] at isKey
    rcases isKey with rfl | rfl | rfl
    all_goals exact ⟨_, rfl, by decide⟩
  let candidates : KeySequence := ⟨[9, 7].map Key.ofInt, by decide⟩
  have within : ∀ key ∈ candidates.keys, threePoints.contains key = true := by decide
  have positive : (0 : Int) < 2 := by decide
  rcases recall_of_answer scores within positive with
    ⟨nearest, answer, found, scanned, reranked, _, _, _, _, whole⟩
  exact ⟨candidates, nearest, answer, scores, within, scanned, reranked, (whole (by decide)).1⟩

end CurveNeighbors
