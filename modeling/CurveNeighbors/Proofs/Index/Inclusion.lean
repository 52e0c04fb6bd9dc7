import CurveNeighbors.Proofs.Distances
import CurveNeighbors.Proofs.Index.Answers

/-!
# The key of a query in its own answer

A query is among its own candidates, at distance zero. Whether it is in the answer is
another question: of equally far candidates those in earlier rows come first, so a
candidate that lies at the same point in an earlier row goes before it. The place of the
key in the answer is the number of such candidates, and it is left out if there are as
many of them as neighbours were asked for. That an answer begins at distance zero is all
that is true in every case.
-/

namespace CurveNeighbors

open Binary64

/-- Whether a candidate is at no distance and in a row before another. -/
def ScoredCandidate.isTwinBefore (row : Nat) (candidate : ScoredCandidate) : Bool :=
  decide (place candidate.distance = 0) && decide (candidate.row < row)

/-- The candidates that are at no distance from the point in a row and lie in earlier rows. -/
def Dataset.twinsBefore (dataset : Dataset) (distance : Distance) (row : Nat) (point : Point)
    (candidates : KeySequence) : List Key :=
  candidates.keys.filter fun key =>
    match scoreOf distance dataset point key.value with
    | .ok candidate => candidate.isTwinBefore row
    | .error _ => false

section

variable {dataset : Dataset} {point : Point} {key : Key} {row : Nat}

/-! ## Scores by the manhattan distance -/

theorem scoreOf_manhattan_self (placed : dataset.rowOf key = .ok row)
    (located : dataset.pointAt row = .ok point) (finite : point.isFinite = true) :
    scoreOf .manhattan dataset point key.value = .ok ⟨key.value, row, 0⟩ :=
  scoreOf_of_placed placed located
    (Distance.outcome_evaluate_of_real (Distance.manhattan_self finite))

theorem exists_scoreOf_manhattan (finite : ∀ other ∈ dataset.points, other.isFinite = true)
    (isPoint : point ∈ dataset.points) (present : dataset.contains key = true) :
    ∃ scored, scoreOf .manhattan dataset point key.value = .ok scored ∧
      IsNonnegative scored.distance := by
  rcases KeySequence.exists_position_iff.mpr present with ⟨row, placed⟩
  have placed : dataset.rowOf key = .ok row := placed
  rcases Dataset.exists_pointAt placed with ⟨other, isOther, located⟩
  have lengths : point.length = other.length := by
    rw [dataset.uniform point isPoint, dataset.uniform other isOther]
  rcases Distance.exists_manhattan lengths (finite point isPoint) (finite other isOther) with
    ⟨sum, found, nonnegative⟩
  exact ⟨⟨key.value, row, sum⟩,
    scoreOf_of_placed placed located (Distance.outcome_evaluate_of_real found), nonnegative⟩

theorem Dataset.scores_manhattan (reflexive : ∀ key ∈ dataset.keys.keys, (key == key) = true)
    (finite : ∀ other ∈ dataset.points, other.isFinite = true) (isPoint : point ∈ dataset.points) :
    dataset.Scores .manhattan point := by
  intro key isKey
  have present : dataset.contains key = true :=
    KeySequence.contains_iff.mpr ⟨key, isKey, reflexive key isKey⟩
  rcases exists_scoreOf_manhattan finite isPoint present with ⟨scored, found, nonnegative⟩
  exact ⟨scored, found, (isNonnegative_iff.mp nonnegative).2⟩

end

/-! ## The place of a key in its answer -/

namespace ScoresOf

variable {dataset : Dataset} {point : Point} {key : Key} {row capacity : Nat}
  {found : KeySequence} {scored kept : List ScoredCandidate}

theorem exists_own (scores : ScoresOf .manhattan dataset point found scored)
    (present : found.contains key = true) (placed : dataset.rowOf key = .ok row)
    (located : dataset.pointAt row = .ok point) (finite : point.isFinite = true) :
    ∃ own ∈ scored, own.row = row ∧ own.distance = 0 := by
  rcases KeySequence.contains_iff.mp present with ⟨member, isMember, same⟩
  have alike := scoreOf_congr (BEq.symm same) (scoreOf_manhattan_self placed located finite)
  have isValue : member.value ∈ found.values := List.mem_map_of_mem isMember
  rcases Outcome.exists_of_mem_items scores.each isValue with ⟨own, isOwn, success⟩
  cases alike.symm.trans success
  exact ⟨_, isOwn, rfl, rfl⟩

theorem isNonnegative_distance (scores : ScoresOf .manhattan dataset point found scored)
    (finite : ∀ other ∈ dataset.points, other.isFinite = true) (isPoint : point ∈ dataset.points)
    (within : ∀ key ∈ found.keys, dataset.contains key = true) :
    ∀ candidate ∈ scored, IsNonnegative candidate.distance := by
  intro candidate isCandidate
  rcases Outcome.exists_of_mem_mapM scores.each isCandidate with ⟨value, isValue, success⟩
  rcases List.mem_map.mp isValue with ⟨key, isKey, rfl⟩
  rcases exists_scoreOf_manhattan finite isPoint (within key isKey) with
    ⟨same, alsoSuccess, nonnegative⟩
  cases success.symm.trans alsoSuccess
  exact nonnegative

/-- The twins of a key in earlier rows are those that rank below it. -/
theorem length_twinsBefore (scores : ScoresOf .manhattan dataset point found scored)
    (nonnegative : ∀ candidate ∈ scored, IsNonnegative candidate.distance)
    {own : ScoredCandidate} (isHere : own.row = row) (isZero : own.distance = 0) :
    (dataset.twinsBefore .manhattan row point found).length =
      (sortedRanks ScoredCandidate.rank scored).countP fun rank => decide (rank < own.rank) := by
  have each : List.Forall₂ (fun key candidate =>
      scoreOf .manhattan dataset point key.value = .ok candidate) found.keys scored :=
    List.forall₂_map_left_iff.mp (Outcome.forall₂_of_mapM scores.each)
  have zero : place own.distance = 0 := by rw [isZero]; decide
  rw [Dataset.twinsBefore, ← List.countP_eq_length_filter, (sortedRanks_perm ..).countP_eq,
    List.countP_map]
  calc _
    _ = scored.countP (ScoredCandidate.isTwinBefore row) := by
        apply countP_eq_of_forall₂
        apply each.imp
        intro key candidate success
        rw [success]
    _ = _ := by
        apply List.countP_congr
        intro candidate isCandidate
        have lowest := (nonnegative candidate isCandidate).place_nonneg
        simp only [ScoredCandidate.isTwinBefore, Function.comp_apply, decide_eq_true_eq,
          Bool.and_eq_true, ScoredCandidate.rank_lt_rank, zero, isHere]
        omega

end ScoresOf

/-- An entry of an answer is that of a key, at distance zero. -/
def Neighbor.IsSelf (key : Value) (entry : Neighbor) : Prop :=
  entry.key.same key = true ∧ entry.distance = 0

namespace Nearest

variable {dataset : Dataset} {point : Point} {key : Key} {capacity : Nat} {found : KeySequence}
  {scored kept : List ScoredCandidate} {own : ScoredCandidate}
  (nearest : Nearest capacity scored kept)
  (nonnegative : ∀ candidate ∈ scored, IsNonnegative candidate.distance) (isOwn : own ∈ scored)
  (isZero : own.distance = 0)

include nearest nonnegative isOwn isZero

/-- An answer begins at distance zero, if not with the key itself. -/
theorem exists_first (positive : 0 < capacity) :
    ∃ first, (kept.map ScoredCandidate.neighbor).head? = some first ∧ first.distance = 0 := by
  have some : 0 < kept.length := by
    rw [nearest.length_eq]
    exact Nat.lt_min.mpr ⟨positive, List.length_pos_of_mem isOwn⟩
  rcases List.exists_cons_of_length_pos some with ⟨first, rest, rfl⟩
  refine ⟨first.neighbor, rfl, ?_⟩
  have isRank := rank_mem_sortedRanks ScoredCandidate.rank isOwn
  have ascending := pairwise_sortedRanks ScoredCandidate.rank scored
  -- What is kept begins the sorted ranks, so its first rank is the lowest of all.
  rw [← List.take_append_drop capacity (sortedRanks ScoredCandidate.rank scored), ← nearest.ranks,
    List.map_cons, List.cons_append] at isRank ascending
  have lowest : first.rank ≤ own.rank := by
    rcases List.mem_cons.mp isRank with same | later
    · exact same.ge
    · exact (List.pairwise_cons.mp ascending).1 own.rank later
  have zero : place own.distance = 0 := by rw [isZero]; decide
  have below := ScoredCandidate.place_le_of_rank_le lowest
  rw [zero] at below
  exact (nonnegative first (nearest.within first List.mem_cons_self)).eq_zero below

variable (scores : ScoresOf .manhattan dataset point found scored)
  (placed : dataset.rowOf key = .ok own.row)

include scores placed

/-- Behind its twins in earlier rows comes the key itself. -/
theorem exists_isSelf
    (few : (dataset.twinsBefore .manhattan own.row point found).length < capacity) :
    ∃ entry, (kept.map ScoredCandidate.neighbor)[
        (dataset.twinsBefore .manhattan own.row point found).length]? = some entry ∧
      entry.IsSelf key.value := by
  have isThere := getElem?_countP_lt (pairwise_lt_sortedRanks _ scores.nodup_ranks)
    (rank_mem_sortedRanks _ isOwn)
  rw [← scores.length_twinsBefore nonnegative rfl isZero, ← List.getElem?_take_of_lt few,
    ← nearest.ranks, List.getElem?_map] at isThere
  rcases Option.map_eq_some_iff.mp isThere with ⟨candidate, isKept, sameRank⟩
  have isScored := nearest.isScored scores candidate (List.mem_of_getElem? isKept)
  have sameRow := ScoredCandidate.row_eq_of_rank_eq sameRank
  refine ⟨candidate.neighbor, by simp [isKept], (isScored.row_eq_iff placed).mp sameRow, ?_⟩
  exact (isScored.eq_of_row_eq (scores.isScored own isOwn) sameRow).1.trans isZero

theorem exists_isSelf_iff :
    (∃ entry ∈ kept.map ScoredCandidate.neighbor, entry.IsSelf key.value) ↔
      (dataset.twinsBefore .manhattan own.row point found).length < capacity := by
  constructor
  · rintro ⟨entry, isEntry, sameKey, _⟩
    rcases List.mem_map.mp isEntry with ⟨candidate, isKept, rfl⟩
    have isScored := nearest.isScored scores candidate isKept
    have sameRow := (isScored.row_eq_iff placed).mpr sameKey
    have sameRank := isScored.rank_eq_of_row_eq (scores.isScored own isOwn) sameRow
    rw [scores.length_twinsBefore nonnegative rfl isZero, ← mem_take_iff_countP_lt
      (pairwise_lt_sortedRanks _ scores.nodup_ranks) (rank_mem_sortedRanks _ isOwn),
      ← nearest.ranks, ← sameRank]
    exact List.mem_map_of_mem isKept
  · intro few
    rcases nearest.exists_isSelf nonnegative isOwn isZero scores placed few with
      ⟨entry, isThere, isSelf⟩
    exact ⟨entry, List.mem_of_getElem? isThere, isSelf⟩

end Nearest

/-- The place of the key of a query in the answer is the number of candidates at no distance from it
in earlier rows. It is left out if these are as many as the neighbours that were asked for. -/
theorem query_includes_key_iff {index : Index} {query : Query} (state : QueryState)
    (reflexive : ∀ key ∈ index.dataset.keys.keys, key.equals key = true)
    (finite : ∀ point ∈ index.dataset.points, point.isFinite = true)
    (isManhattan : index.distance = .manhattan) (room : index.HasRoom query)
    (accepts : index.Accepts query state.source) (draws : index.Draws query state.source) :
    ∃ (key : Key) (row : Nat) (point : Point) (count : Int) (found : KeySequence)
      (source : RandomSource) (twins : List Key) (answer : List Neighbor) (left : QueryState),
      query.key.toKey = .ok key ∧ index.dataset.rowOf key = .ok row ∧
      index.dataset.pointAt row = .ok point ∧ query.count.toValue = .ofInt count ∧
      index.candidates query state.source = (.ok found, source) ∧ found.contains key = true ∧
      twins = index.dataset.twinsBefore index.distance row point found ∧
      index.query query state = (.ok answer, left) ∧
      (∃ first, answer.head? = some first ∧ first.distance = 0) ∧
      ((∃ entry ∈ answer, entry.IsSelf query.key) ↔ twins.length < count) ∧
      (twins.length < count → ∃ entry, answer[twins.length]? = some entry ∧
        entry.IsSelf query.key) := by
  rcases Index.exists_candidates reflexive room draws accepts with
    ⟨demand, mask, found, source, exist, asks, run, present, within⟩
  rcases KeySequence.exists_position_iff.mpr demand.indexed with ⟨row, placed⟩
  have placed : index.dataset.rowOf demand.key = .ok row := placed
  rcases Dataset.exists_pointAt placed with ⟨point, isPoint, located⟩
  have ofKey : index.dataset.pointOf demand.key = .ok point := by
    rw [Dataset.pointOf, placed, Outcome.ok_bind, located]
  have same : ∀ key ∈ index.dataset.keys.keys, (key == key) = true := by
    intro key isKey
    exact Key.beq_self_of_equals (reflexive key isKey)
  rcases (Dataset.scores_manhattan same finite isPoint).exists_scoresOf within with
    ⟨scored, scores⟩
  rw [← isManhattan] at scores
  rcases Index.exists_nearest_of_candidates exist asks ofKey scores run with
    ⟨kept, left, nearest, answered⟩
  rw [isManhattan] at scores ⊢
  rcases scores.exists_own present placed located (finite point isPoint) with
    ⟨own, isOwn, rfl, isZero⟩
  have nonnegative := scores.isNonnegative_distance finite isPoint within
  have positive : 0 < demand.count.toNat := Int.pos_iff_toNat_pos.mp demand.positive
  have few : ∀ length : Nat, (length : Int) < demand.count ↔ length < demand.count.toNat := by
    intro length
    have countPositive := demand.positive
    omega
  have value := Key.value_of_toKey asks.key
  refine ⟨demand.key, own.row, point, demand.count, found, source, _, _, left, asks.key, placed,
    located, asks.count, run, present, rfl, answered, ?_, ?_, ?_⟩
  · exact nearest.exists_first nonnegative isOwn isZero positive
  · rw [few, ← value]
    exact nearest.exists_isSelf_iff nonnegative isOwn isZero scores placed
  · rw [few, ← value]
    exact nearest.exists_isSelf nonnegative isOwn isZero scores placed

/-- Two keys of one point, on one curve. -/
def twoTwins : Index where
  dataset := ⟨⟨[⟨.text "a", rfl⟩, ⟨.text "b", rfl⟩], by decide⟩, [[0], [0]], 1, rfl, by simp⟩
  curves := ⟨[⟨.null, [⟨.text "a", rfl⟩, ⟨.text "b", rfl⟩], by decide⟩], [⟨5, by decide⟩], .one,
    rfl, by decide⟩
  distance := .manhattan
  arrangement := .asAdded
  nonempty := by decide
  covered := rfl

/-- A query for neighbours of the key in the later row. -/
def queryOfTwin (count : Int) : Query :=
  ⟨.text "b", .value (.ofInt 1), .ofInt 1, .ofInt count, .null⟩

theorem accepts_queryOfTwin {count : Int} (positive : 0 < count) :
    twoTwins.Accepts (queryOfTwin count) .absent := by
  intro check
  cases check with
  | count => exact ⟨count, rfl, positive⟩
  | halfWindow => exact ⟨1, rfl, by decide⟩
  | selection => exact ⟨⟨1⟩, rfl⟩
  | curves =>
      intro _ _ _
      decide
  | range =>
      intro mask isMask
      cases isMask
      exact CurveMask.highest_lt_iff.mp (by decide)
  | scale => exact .inl rfl
  | key => exact ⟨⟨.text "b", rfl⟩, rfl, by decide⟩
  | source =>
      intro mask isMask none
      cases isMask
      cases none

theorem draws_queryOfTwin (count : Int) : twoTwins.Draws (queryOfTwin count) .absent := by
  intro demand mask generator asks none
  have isMask := asks.selection
  cases isMask
  cases none

theorem query_includes_key_iff_twins :
    ∃ (found : KeySequence) (twins : List Key) (answer : List Neighbor) (left : QueryState),
      twins = twoTwins.dataset.twinsBefore .manhattan 1 [0] found ∧
      twoTwins.query (queryOfTwin 2) ⟨.absent, 0⟩ = (.ok answer, left) ∧
      ((∃ entry ∈ answer, entry.IsSelf (.text "b")) ↔ twins.length < (2 : Int)) := by
  have reflexive : ∀ key ∈ twoTwins.dataset.keys.keys, key.equals key = true := by decide
  have finite : ∀ point ∈ twoTwins.dataset.points, point.isFinite = true := by decide
  have room : twoTwins.HasRoom (queryOfTwin 2) := Index.hasRoom_of_values rfl rfl rfl
  rcases query_includes_key_iff ⟨.absent, 0⟩ reflexive finite rfl room
    (accepts_queryOfTwin (by decide)) (draws_queryOfTwin 2) with
    ⟨key, row, point, count, found, _, twins, answer, left, isKey, placed, located, isCount, _, _,
      isTwins, answered, _, isSelf, _⟩
  cases isKey
  cases placed
  cases located
  cases isCount
  exact ⟨found, twins, answer, left, isTwins, answered, isSelf⟩

/-- Of two keys of one point the later one is left out of the answer to its own query. -/
theorem query_omits_key_of_twin :
    (∀ key ∈ twoTwins.dataset.keys.keys, key.equals key = true) ∧
    (∀ point ∈ twoTwins.dataset.points, point.isFinite = true) ∧
    twoTwins.distance = .manhattan ∧ twoTwins.HasRoom (queryOfTwin 1) ∧
    twoTwins.Accepts (queryOfTwin 1) .absent ∧
    twoTwins.Draws (queryOfTwin 1) .absent ∧
    ∃ answer left, twoTwins.query (queryOfTwin 1) ⟨.absent, 0⟩ = (.ok answer, left) ∧
      ¬ ∃ entry ∈ answer, entry.IsSelf (.text "b") := by
  have omits : (match (twoTwins.query (queryOfTwin 1) ⟨.absent, 0⟩).1 with
      | .ok answer => answer.all fun entry => !entry.key.same (.text "b")
      | .error _ => false) = true := by decide +kernel
  refine ⟨by decide, by decide, rfl, Index.hasRoom_of_values rfl rfl rfl,
    accepts_queryOfTwin (by decide), draws_queryOfTwin 1, ?_⟩
  rcases answered : twoTwins.query (queryOfTwin 1) ⟨.absent, 0⟩ with ⟨fault | answer, left⟩
  · rw [answered] at omits
    cases omits
  · rw [answered] at omits
    refine ⟨answer, left, rfl, ?_⟩
    rintro ⟨entry, isEntry, same, _⟩
    have differs := List.all_eq_true.mp omits entry isEntry
    rw [same] at differs
    cases differs

end CurveNeighbors
