import CurveNeighbors.Proofs.Index.QueryStates
import CurveNeighbors.Proofs.Index.Answers

/-!
# Exact answers

A query is answered exactly if its candidates are all keys of the dataset. For a mask of
curves one of them is enough, if the window on it is no narrower than the curve is long.
Without curves the sample has to be as large as the dataset, and then it is an
arrangement of all rows: another source of randomness gives another arrangement, and the
answer does not depend on the order in which its candidates arrive.
-/

namespace CurveNeighbors

/-! ## Rankings of the same keys -/

section

variable {distance : Distance} {dataset : Dataset} {point : Point} {capacity : Nat}
  {candidates others : KeySequence} {scored arrived kept found : List ScoredCandidate}

/-- Candidates that cover each other have the same ranks. -/
theorem ScoresOf.sortedRanks_eq_of_covers
    (scores : ScoresOf distance dataset point candidates scored)
    (moreScores : ScoresOf distance dataset point others arrived)
    (covers : candidates.covers others = true) :
    sortedRanks ScoredCandidate.rank scored = sortedRanks ScoredCandidate.rank arrived := by
  have within : ∀ key ∈ candidates.keys, others.contains key = true := by
    intro key isKey
    exact KeySequence.contains_of_mem_of_covers covers isKey
  rw [scores.sortedRanks_eq moreScores within]
  apply List.filter_eq_self.mpr
  intro rank isRank
  rcases List.mem_map.mp ((sortedRanks_perm ..).mem_iff.mp isRank) with ⟨candidate, isArrived, rfl⟩
  exact decide_eq_true (moreScores.rank_mem_of_within scores (KeySequence.covers_iff.mp covers).2
    candidate isArrived)

/-- Candidates in one row are the same if their keys are keys of the dataset themselves. -/
theorem IsScored.eq_of_mem_keys {left right : ScoredCandidate} {key other : Key}
    (isLeft : IsScored distance dataset point left)
    (isRight : IsScored distance dataset point right)
    (isKey : key ∈ dataset.keys.keys) (isOther : other ∈ dataset.keys.keys)
    (ofLeft : key.value = left.key) (ofRight : other.value = right.key)
    (sameRow : left.row = right.row) : left = right := by
  rcases isLeft.eq_of_row_eq isRight sameRow with ⟨sameDistance, sameKey⟩
  rw [← ofLeft, ← ofRight] at sameKey
  cases KeySequence.eq_of_beq_of_mem isKey isOther sameKey
  cases left
  cases right
  cases sameRow
  cases sameDistance
  cases ofLeft.symm.trans ofRight
  rfl

/-- Candidates of the same ranks are the same if their keys are keys of the dataset themselves. -/
theorem Nearest.eq_of_ranks (nearest : Nearest capacity scored kept)
    (closest : Nearest capacity arrived found)
    (scores : ScoresOf distance dataset point candidates scored)
    (moreScores : ScoresOf distance dataset point others arrived)
    (ofKeys : ∀ key ∈ candidates.keys, key ∈ dataset.keys.keys)
    (otherOfKeys : ∀ key ∈ others.keys, key ∈ dataset.keys.keys)
    (equal : kept.map ScoredCandidate.rank = found.map ScoredCandidate.rank) : kept = found := by
  have same : List.Forall₂ (· = ·) kept found := by
    apply forall₂_of_ranks equal
    intro left isLeft right isRight
    rcases scores.exists_key (nearest.within left isLeft) with ⟨key, isKey, ofLeft⟩
    rcases moreScores.exists_key (closest.within right isRight) with ⟨other, isOther, ofRight⟩
    exact (nearest.isScored scores left isLeft).eq_of_mem_keys
      (closest.isScored moreScores right isRight) (ofKeys key isKey) (otherOfKeys other isOther)
      ofLeft ofRight
  rwa [List.forall₂_eq_eq_eq] at same

/-- The nearest of some candidates are the same in whatever order these arrive. -/
theorem Nearest.eq_of_perm (nearest : Nearest capacity scored kept)
    (others : Nearest capacity arrived found) (perm : arrived.Perm scored)
    (scores : ScoresOf distance dataset point candidates scored) : kept = found := by
  have unique : ∀ left ∈ scored, ∀ right ∈ scored, left.row = right.row → left = right := by
    intro left isLeft right isRight
    exact List.inj_on_of_nodup_map scores.nodup_rows isLeft isRight
  have same := nearest.forall₂ others perm unique
  rwa [List.forall₂_eq_eq_eq] at same

end

/-! ## Candidates that are all keys -/

namespace Demand

variable {index : Index} {demand : Demand index} {mask : CurveMask} {query : Query}

/-- The window on one of the curves, or else the sample, is as large as the dataset. -/
def Spans (demand : Demand index) (mask : CurveMask) : Prop :=
  (∃ curve, mask.selects curve = true ∧
    (index.dataset.size : Int) ≤ 2 * demand.halfWidthOn curve + 1) ∨
  mask.isEmpty = true ∧
    (index.dataset.size : Int) ≤ min demand.count (2 * demand.sampleHalfWidth)

/-- The candidates of a demand that spans the dataset, those of a sample in the order of rows. -/
def spanned (demand : Demand index) (mask : CurveMask) : KeySequence :=
  if mask.isEmpty then demand.sampleCandidates (List.range index.dataset.size)
  else demand.curveCandidates mask

theorem covers_curveCandidates (exist : index.HasCurvesOf mask) {curve : Nat}
    (selected : mask.selects curve = true)
    (wide : (index.dataset.size : Int) ≤ 2 * demand.halfWidthOn curve + 1) :
    (demand.curveCandidates mask).covers index.dataset.keys = true := by
  apply KeySequence.covers_of_within (contains_of_mem_curveCandidates exist)
  have widest := demand.le_size_curveCandidates exist selected
  rw [Int.min_eq_left wide] at widest
  exact Int.ofNat_le.mp widest

theorem sampleSize_of_spans
    (large : (index.dataset.size : Int) ≤ min demand.count (2 * demand.sampleHalfWidth)) :
    demand.sampleSize = index.dataset.size := by
  rw [sampleSize, Int.min_eq_right large, Int.toNat_natCast]

theorem covers_sampleCandidates
    (reflexive : ∀ key ∈ index.dataset.keys.keys, (key == key) = true) :
    (demand.sampleCandidates (List.range index.dataset.size)).covers index.dataset.keys = true := by
  apply KeySequence.covers_of_within (demand.contains_of_mem_sampleCandidates reflexive _)
  rcases KeySequence.exists_position_iff.mpr demand.indexed with ⟨place, placed⟩
  have drawn : place ∈ List.range index.dataset.size :=
    List.mem_range.mpr (KeySequence.lt_size_of_position placed)
  rw [demand.size_sampleCandidates List.nodup_range (fun row => List.mem_range.mp) placed,
    if_pos drawn, List.length_range]
  exact le_refl _

theorem covers_spanned (exist : index.HasCurvesOf mask) (spans : demand.Spans mask)
    (reflexive : ∀ key ∈ index.dataset.keys.keys, (key == key) = true) :
    (demand.spanned mask).covers index.dataset.keys = true := by
  rcases spans with ⟨curve, selected, wide⟩ | ⟨none, _⟩
  · cases nonempty : mask.isEmpty with
    | true => simp [CurveMask.selects_of_isEmpty nonempty] at selected
    | false =>
        rw [spanned, if_neg (by simp [nonempty])]
        exact covers_curveCandidates exist selected wide
  · rw [spanned, if_pos none]
    exact covers_sampleCandidates reflexive

/-- A sample as large as the dataset has all rows. -/
theorem perm_range_of_isSample {state left : MersenneTwister} {rows : List Nat}
    (isSample : Sampling.IsSample index.dataset.size index.dataset.size state rows left) :
    rows.Perm (List.range index.dataset.size) := by
  have within : rows ⊆ List.range index.dataset.size := by
    intro row isRow
    exact List.mem_range.mpr (isSample.inside row isRow)
  apply (List.subperm_of_subset isSample.different within).perm_of_length_le
  rw [List.length_range, isSample.length]

/-- Where a demand spans the dataset, there is nothing to choose but the order of the candidates. -/
theorem perm_spanned (exist : index.HasCurvesOf mask) (asks : query.Asks demand mask)
    (spans : demand.Spans mask) {source left : RandomSource} {found : KeySequence}
    (run : index.candidates query source = (.ok found, left)) :
    found.keys.Perm (demand.spanned mask).keys := by
  cases none : mask.isEmpty with
  | false =>
      rw [candidates_eq (equals_self_of_candidates none exist asks run) none exist asks] at run
      cases run
      rw [spanned, if_neg (by simp [none])]
  | true =>
      rcases spans with ⟨curve, selected, _⟩ | ⟨_, large⟩
      · simp [CurveMask.selects_of_isEmpty none] at selected
      · rw [candidates_eq_sample none asks, sampleSize_of_spans large] at run
        split at run
        · cases run
        · split at run
          · cases run
          · next drawn =>
              cases run
              have isSample := Sampling.isSample_of_sample (Nat.pos_of_ne_zero index.nonempty)
                (le_refl _) drawn
              rw [spanned, if_pos none]
              apply KeySequence.insertAll_perm
              · exact pairwise_keys_of_rows _ List.nodup_range
              · exact (perm_range_of_isSample isSample).filterMap _

/-- The key of a demand and those on the curves are keys of the dataset themselves, and not only
equal to such. -/
structure IsOfKeys (demand : Demand index) : Prop where
  own : demand.key ∈ index.dataset.keys.keys
  visited : ∀ order ∈ index.curves.curves, order.order.keys ⊆ index.dataset.keys.keys

theorem IsOfKeys.mem_of_mem_spanned (ofKeys : demand.IsOfKeys) :
    ∀ key ∈ (demand.spanned mask).keys, key ∈ index.dataset.keys.keys := by
  have first :
      ∀ key ∈ (KeySequence.empty.insert demand.key).keys, key ∈ index.dataset.keys.keys := by
    intro key isKey
    rcases KeySequence.mem_of_mem_insert isKey with impossible | rfl
    · simp [KeySequence.empty] at impossible
    · exact ofKeys.own
  intro key isKey
  rw [spanned] at isKey
  split at isKey
  · rcases KeySequence.mem_of_mem_insertAll isKey with isFirst | isDrawn
    · exact first key isFirst
    · rcases List.mem_filterMap.mp isDrawn with ⟨row, _, found⟩
      exact List.mem_of_getElem? found
  · rcases KeySequence.mem_of_mem_insertAll isKey with isFirst | isWindow
    · exact first key isFirst
    · rcases List.mem_flatMap.mp isWindow with ⟨curve, _, isWindow⟩
      rcases exists_order_of_mem_windowKeys isWindow with ⟨order, isCurve, isThere⟩
      exact ofKeys.visited order isCurve isThere

end Demand

/-! ## Exact answers -/

/-- What is kept of the candidates of a query is the same in whatever order they are found. -/
theorem Index.AsksAt.query_of_perm {index : Index} {query : Query} {demand : Demand index}
    {mask : CurveMask} {point : Point} {found sequence : KeySequence} {source left : RandomSource}
    {scored kept : List ScoredCandidate} (asked : index.AsksAt query demand mask point)
    (run : index.candidates query source = (.ok found, left))
    (perm : found.keys.Perm sequence.keys)
    (scores : ScoresOf index.distance index.dataset point sequence scored)
    (nearest : Nearest demand.count.toNat scored kept) (evaluations : Nat) :
    ∃ after, index.query query ⟨source, evaluations⟩ =
      (.ok (kept.map ScoredCandidate.neighbor), after) := by
  have arrival := (index.arrangement.values_perm found).trans (perm.map Key.value)
  rcases scores.exists_nearest demand.toNat_count_pos arrival with ⟨others, reranked, closest⟩
  rw [demand.toNat_count, ← nearest.eq_of_scores closest scores] at reranked
  exact ⟨_, (asked.query_of_found run evaluations).trans (congrArg (·, _) reranked)⟩

/-- A query that spans the dataset is answered with what a scan of the whole dataset finds, from
whatever source of randomness. -/
theorem query_of_spans {index : Index} (demand : Demand index) {mask : CurveMask} {query : Query}
    {point : Point} (reflexive : mask.isEmpty = false → demand.key.equals demand.key = true)
    (exist : index.HasCurvesOf mask) (asks : query.Asks demand mask)
    (located : index.dataset.pointOf demand.key = .ok point)
    (scores : index.dataset.Scores index.distance point) (spans : demand.Spans mask) :
    ∃ answer nearest,
      (nearestByScan index.distance index.dataset index.dataset.keys.values point
        query.count.toValue).outcome = .ok nearest ∧
      List.Forall₂ Neighbor.Same answer nearest ∧ (demand.IsOfKeys → answer = nearest) ∧
      (∀ state, (mask.isEmpty = true → state.source.IsValid ∧ index.Draws query state.source) →
        ∃ left, index.query query state = (.ok answer, left)) ∧
      ∀ state result left, index.query query state = (.ok result, left) → result = answer := by
  have asked : index.AsksAt query demand mask point := ⟨exist, asks, located⟩
  have present : ∀ key ∈ index.dataset.keys.keys, index.dataset.contains key = true := by
    intro key isKey
    exact scores.contains_of_mem isKey
  have covers : (demand.spanned mask).covers index.dataset.keys = true := by
    apply Demand.covers_spanned exist spans
    intro key isKey
    exact KeySequence.beq_self_of_contains (present key isKey)
  rcases scores.exists_scoresOf present with ⟨whole, wholeScores⟩
  rcases scores.exists_scoresOf fun key => KeySequence.contains_of_mem_of_covers covers with
    ⟨part, partScores⟩
  rcases scan_nearest demand.toNat_count_pos wholeScores.each wholeScores.defined with
    ⟨best, scanned, closest⟩
  rcases rerank_nearest demand.toNat_count_pos partScores.each partScores.defined with
    ⟨kept, _, nearest⟩
  have equal : kept.map ScoredCandidate.rank = best.map ScoredCandidate.rank := by
    rw [nearest.ranks, closest.ranks, partScores.sortedRanks_eq_of_covers wholeScores covers]
  -- Whatever is drawn, the candidates are the spanned ones in another order.
  have answered : ∀ state found left, index.candidates query state.source = (.ok found, left) →
      ∃ after, index.query query state = (.ok (kept.map ScoredCandidate.neighbor), after) := by
    intro state found left run
    exact asked.query_of_perm run (Demand.perm_spanned exist asks spans run) partScores nearest
      state.evaluations
  refine ⟨kept.map ScoredCandidate.neighbor, best.map ScoredCandidate.neighbor, ?_, ?_, ?_, ?_, ?_⟩
  · rw [asks.count, ← demand.toNat_count, scanned]
  · exact forall₂_same_of_ranks (nearest.isScored partScores) (closest.isScored wholeScores) equal
  · intro ofKeys
    rw [nearest.eq_of_ranks closest partScores wholeScores ofKeys.mem_of_mem_spanned
      (fun _ => id) equal]
  · intro state drawn
    rcases asked.exists_found reflexive drawn with ⟨found, left, run⟩
    exact answered state found left run
  · intro state result left run
    rcases found : index.candidates query state.source with ⟨fault | candidates, after⟩
    · rw [Index.query_of_candidates_fault found state.evaluations] at run
      cases run
    · rcases answered state candidates after found with ⟨other, success⟩
      cases run.symm.trans success
      rfl

theorem query_of_spans_two_curves :
    ∃ answer nearest,
      (nearestByScan .hamming Demand.twoCurves.dataset Demand.twoCurves.dataset.keys.values [4]
        (.ofInt 2)).outcome = .ok nearest ∧
      answer = nearest ∧
      ∃ left, Demand.twoCurves.query ⟨.ofInt 4, .value (.ofInt 2), .ofInt 1, .ofInt 2, .null⟩
        ⟨.absent, 0⟩ = (.ok answer, left) := by
  have scores : Demand.twoCurves.dataset.Scores Demand.twoCurves.distance [4] := by
    intro key isKey
    simp only [Demand.twoCurves, List.map_cons, List.map_nil, List.mem_cons, List.not_mem_nil,
      or_false] at isKey
    rcases isKey with rfl | rfl | rfl | rfl | rfl <;> exact ⟨_, rfl, by decide⟩
  have exist : Demand.twoCurves.HasCurvesOf ⟨2⟩ := CurveMask.highest_lt_iff.mp (by decide)
  let demand : Demand Demand.twoCurves :=
    ⟨Key.ofInt 4, 1, 2, none, by decide, by decide, by decide⟩
  -- The second curve has a scale factor of two, so its window has five positions.
  have spans : demand.Spans ⟨2⟩ := Or.inl ⟨1, rfl, by decide⟩
  have ofKeys : demand.IsOfKeys := by
    refine ⟨List.mem_map_of_mem (by decide), ?_⟩
    intro order isCurve
    simp only [Demand.twoCurves, List.mem_cons, List.not_mem_nil, or_false] at isCurve
    rcases isCurve with rfl | rfl <;> exact List.map_subset _ (by decide)
  have asks : Query.Asks ⟨.ofInt 4, .value (.ofInt 2), .ofInt 1, .ofInt 2, .null⟩ demand ⟨2⟩ :=
    ⟨rfl, rfl, rfl, rfl, rfl, rfl⟩
  rcases query_of_spans demand (fun _ => by decide) exist asks rfl scores spans with
    ⟨answer, nearest, scanned, _, literally, answered, _⟩
  refine ⟨answer, nearest, scanned, literally ofKeys, answered ⟨.absent, 0⟩ ?_⟩
  intro none
  cases none

end CurveNeighbors
