import CurveNeighbors.Proofs.Neighbors.Searches

/-!
# Searching among some of the keys

A search among some keys of a dataset ranks them as a search among more keys does: its
sorted ranks are those of the larger search without the ranks of the keys that are left
out. So they are a sublist of these, and no rank of the smaller search lies below the
one at the same place of the larger. The lowest ranks of the larger search that belong to
both are the first ones of the smaller.
-/

namespace CurveNeighbors

/-! ## Sorted ranks of a part -/

section

variable {α ρ : Type} [LinearOrder ρ] {rank : α → ρ} {whole part : List α}

/-- The sorted ranks of a part are the sorted ranks of the whole that occur in it. -/
theorem sortedRanks_eq_filter (wholeDistinct : (whole.map rank).Nodup)
    (partDistinct : (part.map rank).Nodup) (within : ∀ item ∈ part, rank item ∈ whole.map rank)
    {occurs : ρ → Bool} (isPart : ∀ place, occurs place = true ↔ place ∈ part.map rank) :
    sortedRanks rank part = (sortedRanks rank whole).filter occurs := by
  have wholePerm := sortedRanks_perm rank whole
  have partPerm := sortedRanks_perm rank part
  apply List.Perm.eq_of_pairwise _ (pairwise_sortedRanks rank part)
    ((pairwise_sortedRanks rank whole).filter _)
  · apply (List.perm_ext_iff_of_nodup (partPerm.nodup_iff.mpr partDistinct)
      ((wholePerm.nodup_iff.mpr wholeDistinct).filter _)).mpr
    intro place
    rw [partPerm.mem_iff, List.mem_filter, wholePerm.mem_iff, isPart]
    constructor
    · intro isPlace
      rcases List.mem_map.mp isPlace with ⟨item, isItem, rfl⟩
      exact ⟨within item isItem, isPlace⟩
    · exact And.right
  · intro left right _ _
    exact le_antisymm

/-- What is left of an ascending list lies nowhere below what was at the same place. -/
theorem exists_getElem?_le_of_sublist {all left : List ρ} (sublist : left.Sublist all)
    (ascending : all.Pairwise (· ≤ ·)) {place : Nat} {item : ρ}
    (isItem : left[place]? = some item) : ∃ other, all[place]? = some other ∧ other ≤ item := by
  induction sublist generalizing place with
  | slnil => simp at isItem
  | @cons left all first sublist ih =>
      rcases List.pairwise_cons.mp ascending with ⟨least, ascending⟩
      rcases ih ascending isItem with ⟨other, isOther, below⟩
      cases place with
      | zero => exact ⟨first, rfl, (least other (List.mem_of_getElem? isOther)).trans below⟩
      | succ place =>
          rcases List.getElem?_eq_some_iff.mp isOther with ⟨inside, rfl⟩
          have before : all[place] ≤ all[place + 1] :=
            List.pairwise_iff_getElem.mp ascending place (place + 1) _ inside (Nat.lt_succ_self _)
          refine ⟨all[place], ?_, before.trans below⟩
          rw [List.getElem?_cons_succ]
          exact List.getElem?_eq_getElem _
  | @cons_cons left all first sublist ih =>
      rcases List.pairwise_cons.mp ascending with ⟨_, ascending⟩
      cases place with
      | zero => exact ⟨item, isItem, le_rfl⟩
      | succ place => exact ih ascending isItem

end

section

variable {distance : Distance} {dataset : Dataset} {query : Point}

/-! ## Scores of keys -/

/-- All keys of a dataset are scored at defined distances. -/
def Dataset.Scores (dataset : Dataset) (distance : Distance) (query : Point) : Prop :=
  ∀ key ∈ dataset.keys.keys, ∃ scored,
    scoreOf distance dataset query key.value = .ok scored ∧ scored.isUndefined = false

/-- Equal keys are scored alike. -/
theorem scoreOf_congr {left right : Key} (same : (left == right) = true)
    {scored : ScoredCandidate}
    (success : scoreOf distance dataset query left.value = .ok scored) :
    scoreOf distance dataset query right.value = .ok { scored with key := right.value } := by
  rcases scoreOf_eq_ok success with ⟨_, placed, point, located, evaluated⟩
  rw [left.toKey_value, Outcome.ok_bind] at placed
  exact scoreOf_of_placed (KeySequence.position_congr same placed) located evaluated

/-- The candidates in the row of a key are equal to it. -/
theorem IsScored.row_eq_iff {candidate : ScoredCandidate} {key : Key} {row : Nat}
    (isScored : IsScored distance dataset query candidate) (placed : dataset.rowOf key = .ok row) :
    candidate.row = row ↔ candidate.key.same key.value = true := by
  rcases isScored.exists_key with ⟨other, isOther, otherPlaced⟩
  rw [← Key.value_of_toKey isOther]
  constructor
  · intro sameRow
    rw [sameRow] at otherPlaced
    exact KeySequence.beq_of_position otherPlaced placed
  · intro same
    have alsoPlaced := KeySequence.position_congr same otherPlaced
    exact Except.ok.inj (alsoPlaced.symm.trans placed)

theorem Dataset.Scores.exists_scoreOf (scores : dataset.Scores distance query) {key : Key}
    (present : dataset.contains key = true) :
    ∃ scored, scoreOf distance dataset query key.value = .ok scored ∧
      scored.isUndefined = false := by
  rcases KeySequence.contains_iff.mp present with ⟨member, isMember, same⟩
  rcases scores member isMember with ⟨scored, success, defined⟩
  exact ⟨_, scoreOf_congr same success, defined⟩

theorem Dataset.Scores.contains_of_mem (scores : dataset.Scores distance query) {key : Key}
    (isKey : key ∈ dataset.keys.keys) : dataset.contains key = true := by
  rcases scores key isKey with ⟨scored, success, _⟩
  rcases scoreOf_eq_ok success with ⟨_, placed, _⟩
  rw [key.toKey_value, Outcome.ok_bind] at placed
  exact KeySequence.exists_position_iff.mp ⟨scored.row, placed⟩

/-- The scores of a sequence of keys, which are all at defined distances. -/
structure ScoresOf (distance : Distance) (dataset : Dataset) (query : Point)
    (candidates : KeySequence) (scored : List ScoredCandidate) : Prop where
  each : candidates.values.mapM (scoreOf distance dataset query) = .ok scored
  defined : ∀ candidate ∈ scored, candidate.isUndefined = false

theorem Dataset.Scores.exists_scoresOf (scores : dataset.Scores distance query)
    {candidates : KeySequence}
    (within : ∀ key ∈ candidates.keys, dataset.contains key = true) :
    ∃ scored, ScoresOf distance dataset query candidates scored := by
  have each : ∀ value ∈ candidates.values, ∃ scored,
      scoreOf distance dataset query value = .ok scored ∧ scored.isUndefined = false := by
    intro value isValue
    rcases List.mem_map.mp isValue with ⟨key, isKey, rfl⟩
    exact scores.exists_scoreOf (within key isKey)
  have some : ∀ value ∈ candidates.values, ∃ scored,
      scoreOf distance dataset query value = .ok scored := by
    intro value isValue
    rcases each value isValue with ⟨scored, success, _⟩
    exact ⟨scored, success⟩
  rcases Outcome.exists_mapM some with ⟨scored, allScored⟩
  refine ⟨scored, allScored, ?_⟩
  intro candidate isCandidate
  rcases Outcome.exists_of_mem_mapM allScored isCandidate with ⟨value, isValue, success⟩
  rcases each value isValue with ⟨same, alsoSuccess, defined⟩
  cases success.symm.trans alsoSuccess
  exact defined

namespace ScoresOf

variable {candidates others : KeySequence} {scored more : List ScoredCandidate}

theorem isScored (scores : ScoresOf distance dataset query candidates scored) :
    ∀ candidate ∈ scored, IsScored distance dataset query candidate :=
  isScored_of_mapM scores.each

/-- In whatever order the candidates arrive, a search with a heap keeps the nearest of them. -/
theorem exists_nearest (scores : ScoresOf distance dataset query candidates scored) {capacity : Nat}
    (positive : 0 < capacity) {arrival : List Value} (perm : arrival.Perm candidates.values) :
    ∃ kept, (rerank distance dataset arrival query (.ofInt capacity)).outcome =
      .ok (kept.map ScoredCandidate.neighbor) ∧ Nearest capacity scored kept := by
  rcases Outcome.exists_mapM_of_perm perm scores.each with ⟨arrived, each, arrivedPerm⟩
  have defined : ∀ candidate ∈ arrived, candidate.isUndefined = false := by
    intro candidate isCandidate
    exact scores.defined candidate (arrivedPerm.mem_iff.mp isCandidate)
  rcases rerank_nearest positive each defined with ⟨kept, reranked, nearest⟩
  exact ⟨kept, reranked, nearest.of_perm arrivedPerm⟩

theorem length_eq (scores : ScoresOf distance dataset query candidates scored) :
    scored.length = candidates.size := by
  have keys := congrArg List.length (map_key_of_mapM scores.each)
  simpa [KeySequence.values, KeySequence.size] using keys

theorem exists_key (scores : ScoresOf distance dataset query candidates scored)
    {candidate : ScoredCandidate} (isCandidate : candidate ∈ scored) :
    ∃ key ∈ candidates.keys, key.value = candidate.key := by
  have isValue := List.mem_map_of_mem (f := ScoredCandidate.key) isCandidate
  rw [map_key_of_mapM scores.each] at isValue
  exact List.mem_map.mp isValue

theorem nodup_rows (scores : ScoresOf distance dataset query candidates scored) :
    (scored.map ScoredCandidate.row).Nodup := by
  apply CurveNeighbors.nodup_rows scores.isScored
  rw [map_key_of_mapM scores.each]
  exact List.pairwise_map.mpr candidates.distinct

theorem nodup_ranks (scores : ScoresOf distance dataset query candidates scored) :
    (scored.map ScoredCandidate.rank).Nodup :=
  nodup_ranks_of_rows scores.nodup_rows

/-- Of the ranks of a dataset those of a sequence of keys are the ranks of keys in it. -/
theorem rank_mem_iff (scores : ScoresOf distance dataset query candidates scored)
    {candidate : ScoredCandidate} (isScored : IsScored distance dataset query candidate) {key : Key}
    (isKey : candidate.key.toKey = .ok key) :
    candidate.rank ∈ scored.map ScoredCandidate.rank ↔ candidates.contains key = true := by
  have value := Key.value_of_toKey isKey
  constructor
  · intro isRank
    rcases List.mem_map.mp isRank with ⟨other, isOther, equal⟩
    have same := (IsScored.eq_of_row_eq (scores.isScored other isOther) isScored
      (ScoredCandidate.row_eq_of_rank_eq equal)).2
    rcases scores.exists_key isOther with ⟨member, isMember, isSame⟩
    rw [← isSame, ← value] at same
    exact KeySequence.contains_iff.mpr ⟨member, isMember, same⟩
  · intro present
    rcases KeySequence.contains_iff.mp present with ⟨member, isMember, same⟩
    rw [IsScored, ← value] at isScored
    have found := scoreOf_congr (BEq.symm same) isScored
    have isValue : member.value ∈ candidates.values := List.mem_map_of_mem isMember
    rcases Outcome.exists_of_mem_items scores.each isValue with ⟨other, isOther, alsoFound⟩
    cases found.symm.trans alsoFound
    exact List.mem_map.mpr ⟨_, isOther, rfl⟩

/-- A search among more keys has their ranks as well. -/
theorem rank_mem_of_within (scores : ScoresOf distance dataset query candidates scored)
    (moreScores : ScoresOf distance dataset query others more)
    (within : ∀ key ∈ candidates.keys, others.contains key = true) :
    ∀ candidate ∈ scored, candidate.rank ∈ more.map ScoredCandidate.rank := by
  intro candidate isCandidate
  rcases scores.exists_key isCandidate with ⟨key, isKey, same⟩
  have known : candidate.key.toKey = .ok key := by rw [← same, key.toKey_value]
  exact (moreScores.rank_mem_iff (scores.isScored candidate isCandidate) known).mpr
    (within key isKey)

/-- A search among some of the keys has the ranks of the larger search that belong to both. -/
theorem sortedRanks_eq (scores : ScoresOf distance dataset query candidates scored)
    (moreScores : ScoresOf distance dataset query others more)
    (within : ∀ key ∈ candidates.keys, others.contains key = true) :
    sortedRanks ScoredCandidate.rank scored =
      (sortedRanks ScoredCandidate.rank more).filter
        fun rank => decide (rank ∈ scored.map ScoredCandidate.rank) := by
  apply sortedRanks_eq_filter moreScores.nodup_ranks scores.nodup_ranks
    (scores.rank_mem_of_within moreScores within)
  intro rank
  exact decide_eq_true_iff

end ScoresOf

/-! ## The nearest of a part -/

namespace Nearest

variable {candidates others : KeySequence} {whole part kept best : List ScoredCandidate}
  {capacity larger : Nat}

theorem isScored (nearest : Nearest capacity whole kept)
    (scores : ScoresOf distance dataset query candidates whole) :
    ∀ candidate ∈ kept, IsScored distance dataset query candidate := by
  intro candidate isKept
  exact scores.isScored candidate (nearest.within candidate isKept)

/-- The first of those that are kept are what a smaller capacity keeps. -/
theorem take (nearest : Nearest larger whole kept) (fewer : capacity ≤ larger) :
    Nearest capacity whole (kept.take capacity) := by
  refine ⟨?_, ?_⟩
  · intro candidate isCandidate
    exact nearest.within candidate (List.mem_of_mem_take isCandidate)
  · rw [List.map_take, nearest.ranks, List.take_take, Nat.min_eq_left fewer]

/-- No other list of candidates is the nearest. -/
theorem eq_of_scores (nearest : Nearest capacity whole kept) (closest : Nearest capacity whole best)
    (scores : ScoresOf distance dataset query candidates whole) : kept = best := by
  have unique : ∀ left ∈ whole, ∀ right ∈ whole, left.row = right.row → left = right := by
    intro left isLeft right isRight
    exact List.inj_on_of_nodup_map scores.nodup_rows isLeft isRight
  have same := nearest.forall₂ closest (.refl _) unique
  rwa [List.forall₂_eq_eq_eq] at same

/-- Of more candidates the one at the same place ranks no higher. -/
theorem exists_rank_le (closest : Nearest capacity part best)
    (nearest : Nearest capacity whole kept)
    (partScores : ScoresOf distance dataset query candidates part)
    (wholeScores : ScoresOf distance dataset query others whole)
    (within : ∀ key ∈ candidates.keys, others.contains key = true) {place : Nat}
    {far : ScoredCandidate} (isFar : best[place]? = some far) :
    ∃ near, kept[place]? = some near ∧ near.rank ≤ far.rank := by
  have isRank : (best.map ScoredCandidate.rank)[place]? = some far.rank := by simp [isFar]
  rw [closest.ranks] at isRank
  rcases List.getElem?_eq_some_iff.mp isRank with ⟨inside, _⟩
  have few : place < capacity := by
    rw [List.length_take] at inside
    omega
  rw [List.getElem?_take_of_lt few, partScores.sortedRanks_eq wholeScores within] at isRank
  rcases exists_getElem?_le_of_sublist List.filter_sublist (pairwise_sortedRanks _ whole)
    isRank with ⟨rank, found, below⟩
  rw [← List.getElem?_take_of_lt few, ← nearest.ranks, List.getElem?_map] at found
  rcases Option.map_eq_some_iff.mp found with ⟨near, isNear, rfl⟩
  exact ⟨near, isNear, below⟩

end Nearest

end

end CurveNeighbors
