import CurveNeighbors.Proofs.Neighbors.Ranking

/-!
# Searching with a heap and by a full scan

A search with a bounded heap and a full scan have the same outcome. They refuse the
same numbers of neighbours and stop at the first candidate that cannot be scored. Where
all are scored at defined distances, both find the lowest ranks among them, and two
lists of candidates with the same ranks name equal keys at the same distances. If no
candidate is repeated, a rank belongs to one candidate only, so they are the same list.
-/

namespace CurveNeighbors

namespace Neighbor

/-- Equal keys at the same distance. -/
def Same (left right : Neighbor) : Prop :=
  left.key.same right.key = true ∧ left.distance = right.distance

/-- The first of two neighbours is nearer or, when both are equally far, in an earlier row. -/
def Precedes (dataset : Dataset) (left right : Neighbor) : Prop :=
  ∃ row other, left.key.toKey >>= dataset.rowOf = .ok row ∧
    right.key.toKey >>= dataset.rowOf = .ok other ∧
    (Binary64.place left.distance < Binary64.place right.distance ∨
      Binary64.place left.distance = Binary64.place right.distance ∧ row < other)

end Neighbor

/-- Of the candidates that were scored, those that are kept have the lowest ranks. -/
structure Nearest (capacity : Nat) (scored kept : List ScoredCandidate) : Prop where
  within : ∀ candidate ∈ kept, candidate ∈ scored
  ranks : kept.map ScoredCandidate.rank = (sortedRanks ScoredCandidate.rank scored).take capacity

section

variable {distance : Distance} {dataset : Dataset} {query : Point} {capacity : Nat}
  {scored kept : List ScoredCandidate}

/-! ## The lowest ranks -/

theorem Nearest.length_eq (nearest : Nearest capacity scored kept) :
    kept.length = min capacity scored.length := by
  have lengths := congrArg List.length nearest.ranks
  rw [List.length_map, List.length_take, (sortedRanks_perm ..).length_eq, List.length_map]
    at lengths
  exact lengths

/-- Candidates of the same ranks are related one by one if those in one row are. -/
theorem forall₂_of_ranks {left right : List ScoredCandidate}
    {R : ScoredCandidate → ScoredCandidate → Prop}
    (equal : left.map ScoredCandidate.rank = right.map ScoredCandidate.rank)
    (related : ∀ candidate ∈ left, ∀ other ∈ right, candidate.row = other.row → R candidate other) :
    List.Forall₂ R left right := by
  apply forall₂_of_map_eq equal
  intro candidate isLeft other isRight sameRank
  exact related candidate isLeft other isRight (ScoredCandidate.row_eq_of_rank_eq sameRank)

/-- The lowest ranks do not depend on the order in which the candidates arrive. -/
theorem Nearest.forall₂ {arrived found : List ScoredCandidate}
    {R : ScoredCandidate → ScoredCandidate → Prop} (nearest : Nearest capacity scored kept)
    (others : Nearest capacity arrived found) (perm : arrived.Perm scored)
    (related : ∀ left ∈ scored, ∀ right ∈ scored, left.row = right.row → R left right) :
    List.Forall₂ R kept found := by
  apply forall₂_of_ranks
  · rw [nearest.ranks, others.ranks, sortedRanks_of_perm perm]
  · intro left isLeft right isRight
    exact related left (nearest.within left isLeft) right
      (perm.mem_iff.mp (others.within right isRight))

theorem Nearest.of_perm {arrived : List ScoredCandidate} (nearest : Nearest capacity arrived kept)
    (perm : arrived.Perm scored) : Nearest capacity scored kept := by
  refine ⟨?_, ?_⟩
  · intro candidate isKept
    exact perm.mem_iff.mp (nearest.within candidate isKept)
  · rw [nearest.ranks, sortedRanks_of_perm perm]

theorem IsScored.same_neighbor {left right : ScoredCandidate}
    (isLeft : IsScored distance dataset query left)
    (isRight : IsScored distance dataset query right) (sameRow : left.row = right.row) :
    left.neighbor.Same right.neighbor :=
  (isLeft.eq_of_row_eq isRight sameRow).symm

/-- Scored candidates of one rank are equal neighbours. -/
theorem forall₂_same_of_ranks {left right : List ScoredCandidate}
    (leftScored : ∀ candidate ∈ left, IsScored distance dataset query candidate)
    (rightScored : ∀ candidate ∈ right, IsScored distance dataset query candidate)
    (equal : left.map ScoredCandidate.rank = right.map ScoredCandidate.rank) :
    List.Forall₂ Neighbor.Same (left.map ScoredCandidate.neighbor)
      (right.map ScoredCandidate.neighbor) := by
  rw [List.forall₂_map_left_iff, List.forall₂_map_right_iff]
  apply forall₂_of_ranks equal
  intro candidate isLeft other isRight
  exact (leftScored candidate isLeft).same_neighbor (rightScored other isRight)

/-- Where no key is repeated, candidates are in different rows. -/
theorem nodup_rows (isScored : ∀ candidate ∈ scored, IsScored distance dataset query candidate)
    (different : (scored.map ScoredCandidate.key).Pairwise fun left right =>
      left.same right = false) :
    (scored.map ScoredCandidate.row).Nodup := by
  refine List.pairwise_map.mpr ((List.pairwise_map.mp different).imp_of_mem ?_)
  intro left right isLeft isRight otherKey sameRow
  have same := ((isScored left isLeft).eq_of_row_eq (isScored right isRight) sameRow).2
  simp [otherKey] at same

theorem nodup_ranks_of_rows (rows : (scored.map ScoredCandidate.row).Nodup) :
    (scored.map ScoredCandidate.rank).Nodup := by
  refine List.pairwise_map.mpr ((List.pairwise_map.mp rows).imp ?_)
  intro left right otherRow equal
  exact otherRow (ScoredCandidate.row_eq_of_rank_eq equal)

/-- Where candidates are in different rows, each precedes those that are kept after it. -/
theorem Nearest.pairwise_precedes (nearest : Nearest capacity scored kept)
    (isScored : ∀ candidate ∈ scored, IsScored distance dataset query candidate)
    (rows : (scored.map ScoredCandidate.row).Nodup) :
    (kept.map ScoredCandidate.neighbor).Pairwise (Neighbor.Precedes dataset) := by
  have strictly : (kept.map ScoredCandidate.rank).Pairwise (· < ·) := by
    rw [nearest.ranks]
    exact (pairwise_lt_sortedRanks _ (nodup_ranks_of_rows rows)).sublist (List.take_sublist ..)
  refine List.pairwise_map.mpr ((List.pairwise_map.mp strictly).imp_of_mem ?_)
  intro left right isLeft isRight before
  have leftScored := scoreOf_eq_ok (isScored left (nearest.within left isLeft))
  have rightScored := scoreOf_eq_ok (isScored right (nearest.within right isRight))
  exact ⟨left.row, right.row, leftScored.2.1, rightScored.2.1,
    ScoredCandidate.rank_lt_rank.mp before⟩

end

/-! ## The outcomes of both searches -/

theorem Counting.pure_bind {α β : Type} (result : Outcome α) (next : α → Counting β)
    (evaluations : Nat) :
    ((Counting.pure result >>= next) evaluations).1 =
      result >>= fun value => (next value evaluations).1 := by
  rw [Computation.bind_apply]
  cases result <;> rfl

theorem Counting.bind_outcome {α β : Type} {computation : Counting α} {next : α → Counting β}
    (result : α → Outcome β) (each : ∀ value left, (next value left).1 = result value)
    (evaluations : Nat) :
    ((computation >>= next) evaluations).1 = (computation evaluations).1 >>= result := by
  rw [Computation.bind_apply]
  rcases computation evaluations with ⟨outcome, left⟩
  cases outcome with
  | error fault => rfl
  | ok value => exact each value left

theorem readNeighborCount_of_nonpositive {count : Int} (nonpositive : count ≤ 0) :
    readNeighborCount (.ofInt count) = .error (.nonPositiveCount (.ofInt count)) := by
  have atMost : (Number.whole count).atMost (.whole 0) = true := by
    rw [Number.atMost_whole, decide_eq_true_iff]
    exact nonpositive
  have known : (Value.ofInt count).toNumber = .ok (.whole count) := rfl
  rw [readNeighborCount, known, Outcome.ok_bind, if_pos atMost]
  rfl

theorem readNeighborCount_of_positive {count : Int} (positive : 0 < count) :
    readNeighborCount (.ofInt count) = .ok (.whole count) := by
  have notAtMost : ¬(Number.whole count).atMost (.whole 0) = true := by
    rw [Number.atMost_whole, decide_eq_true_iff]
    omega
  have known : (Value.ofInt count).toNumber = .ok (.whole count) := rfl
  rw [readNeighborCount, known, Outcome.ok_bind, if_neg notAtMost]
  rfl

section

variable {distance : Distance} {dataset : Dataset} {query : Point}

/-- A full scan scores all candidates, sorts them and takes the first. -/
theorem scan_outcome (candidates : List Value) (count : Value) (evaluations : Nat) :
    (nearestByScan distance dataset candidates query count evaluations).1 =
      readNeighborCount count >>= fun number =>
        candidates.mapM (scoreOf distance dataset query) >>= fun scored =>
          let isOrder := !scored.any ScoredCandidate.isUndefined
          let sorted := sortStably ScoredCandidate.nearer isOrder scored
          firstNeighbors (sorted.map ScoredCandidate.neighbor) number := by
  rw [nearestByScan, Counting.pure_bind]
  cases readNeighborCount count with
  | error fault => rfl
  | ok number =>
      rw [Outcome.ok_bind, Outcome.ok_bind, ← mapM_scoreCandidate_outcome candidates evaluations]
      apply Counting.bind_outcome
      intro scored left
      rfl

theorem rerank_outcome_of_error {candidates : List Value} {count : Value} {fault : Fault}
    (refused : readNeighborCount count = .error fault) (evaluations : Nat) :
    (rerank distance dataset candidates query count evaluations).1 = .error fault := by
  rw [rerank, Counting.pure_bind, refused, Outcome.error_bind]

/-- The neighbours that a heap retains, the nearest first. -/
def BoundedHeap.neighbors (heap : BoundedHeap) : Outcome (List Neighbor) :=
  heap.sorted >>= fun sorted => .ok (sorted.map fun entry => ⟨entry.key, entry.distance⟩)

/-- A heap search scores all candidates and offers them to a heap. -/
theorem rerank_outcome {capacity : Nat} (positive : 0 < capacity) (candidates : List Value)
    (evaluations : Nat) :
    (rerank distance dataset candidates query (.ofInt capacity) evaluations).1 =
      candidates.mapM (scoreOf distance dataset query) >>= fun scored =>
        (BoundedHeap.empty (.ofInt capacity)).insertAll (scored.map ScoredCandidate.entry) >>=
          BoundedHeap.neighbors := by
  have accepted := readNeighborCount_of_positive (Int.natCast_pos.mpr positive)
  have offered : (candidates.foldlM (offerCandidate distance dataset query)
      (.empty (.ofInt capacity)) evaluations).1 = _ :=
    foldlM_offerCandidate_outcome positive [] rfl (by simp) (by simp [BoundedHeap.empty])
      candidates evaluations
  rw [rerank, Counting.pure_bind, accepted, Outcome.ok_bind]
  refine (Counting.bind_outcome BoundedHeap.neighbors ?_ evaluations).trans ?_
  · intro heap left
    rw [Computation.bind_apply, BoundedHeap.neighbors]
    cases heap.sorted <;> rfl
  · exact (congrArg (· >>= BoundedHeap.neighbors) offered).trans (bind_assoc ..)

/-- A heap search succeeds if all candidates are scored, even at undefined distances. -/
theorem rerank_ok {candidates : List Value} {scored : List ScoredCandidate} {count : Int}
    (positive : 0 < count) (each : candidates.mapM (scoreOf distance dataset query) = .ok scored)
    (evaluations : Nat) :
    ∃ answer,
      (rerank distance dataset candidates query (.ofInt count) evaluations).1 = .ok answer := by
  rcases Int.eq_ofNat_of_zero_le positive.le with ⟨capacity, rfl⟩
  have room : 0 < capacity := by omega
  have comparable := comparable_entries (isScored_of_mapM each)
  have none : (BoundedHeap.empty (.ofInt capacity)).entries = #[] := rfl
  have alone : BoundedHeap.Comparable ((BoundedHeap.empty (.ofInt capacity)).entries ++
      (scored.map ScoredCandidate.entry).toArray) := by
    rwa [none, Array.empty_append]
  rcases BoundedHeap.insertAll_ok room rfl alone with ⟨heap, filled, within⟩
  rw [none, Array.empty_append] at within
  rcases BoundedHeap.sorted_ok (comparable.mono within) with ⟨sorted, success, _⟩
  rw [rerank_outcome room, each, Outcome.ok_bind, filled, Outcome.ok_bind, BoundedHeap.neighbors,
    success, Outcome.ok_bind]
  exact ⟨_, rfl⟩

/-! ## What both find -/

theorem nearest_of_scan {scored : List ScoredCandidate} (capacity : Nat)
    (defined : ∀ candidate ∈ scored, candidate.isUndefined = false) :
    Nearest capacity scored ((sortStably ScoredCandidate.nearer
      (!scored.any ScoredCandidate.isUndefined) scored).take capacity) := by
  have isOrder : (!scored.any ScoredCandidate.isUndefined) = true := by
    simpa using defined
  have perm := sortStably_perm ScoredCandidate.nearer true scored
  rw [isOrder]
  refine ⟨?_, ?_⟩
  · intro candidate isCandidate
    exact perm.mem_iff.mp (List.mem_of_mem_take isCandidate)
  · rw [List.map_take, map_eq_sortedRanks perm]
    rw [sortStably, if_pos rfl]
    apply pairwise_mergeSort_of_rank ScoredCandidate.rank
    intro left isLeft right isRight
    exact ScoredCandidate.nearer_eq (defined left isLeft) (defined right isRight)

theorem exists_map_entry {entries : List HeapEntry} {scored : List ScoredCandidate}
    (within : ∀ entry ∈ entries, entry ∈ scored.map ScoredCandidate.entry) :
    ∃ kept : List ScoredCandidate, kept.map ScoredCandidate.entry = entries ∧
      ∀ candidate ∈ kept, candidate ∈ scored := by
  induction entries with
  | nil => exact ⟨[], rfl, by simp⟩
  | cons entry entries ih =>
      rcases List.mem_map.mp (within entry List.mem_cons_self) with ⟨candidate, isScored, rfl⟩
      rcases ih fun other isOther => within other (List.mem_cons_of_mem _ isOther) with
        ⟨kept, rfl, keptScored⟩
      exact ⟨candidate :: kept, rfl, List.forall_mem_cons.mpr ⟨isScored, keptScored⟩⟩

/-- What a heap retains of the scored candidates is the nearest of them. -/
theorem nearest_of_retains {scored : List ScoredCandidate} {capacity : Nat} {heap : BoundedHeap}
    (isScored : ∀ candidate ∈ scored, IsScored distance dataset query candidate)
    (defined : ∀ candidate ∈ scored, candidate.isUndefined = false)
    (retains : heap.Retains HeapEntry.rank capacity (scored.map ScoredCandidate.entry)) :
    ∃ kept, heap.neighbors = .ok (kept.map ScoredCandidate.neighbor) ∧
      Nearest capacity scored kept := by
  have identified : ∀ entry ∈ scored.map ScoredCandidate.entry,
      ∀ other ∈ scored.map ScoredCandidate.entry, entry.rank = other.rank →
        entry.same other = true := by
    simp only [List.forall_mem_map]
    intro left isLeft right isRight
    exact same_entry_of_rank_eq (isScored left isLeft) (isScored right isRight)
      (defined left isLeft) (defined right isRight)
  rcases retains.exists_sorted (rankedBy_entries isScored defined) identified with
    ⟨sorted, success, perm, _, lowest⟩
  have isSeen : ∀ entry ∈ sorted, entry ∈ scored.map ScoredCandidate.entry := by
    intro entry isEntry
    exact retains.mem_seen (Array.mem_toList_iff.mp (perm.mem_iff.mp isEntry))
  rcases exists_map_entry isSeen with ⟨kept, rfl, within⟩
  rw [sortedRanks, List.map_map, List.map_map] at lowest
  refine ⟨kept, ?_, within, lowest⟩
  rw [BoundedHeap.neighbors, success, Outcome.ok_bind, List.map_map]
  rfl

/-- Where all candidates are scored at defined distances, a heap search finds the nearest. -/
theorem rerank_nearest {candidates : List Value} {scored : List ScoredCandidate} {capacity : Nat}
    (positive : 0 < capacity) (each : candidates.mapM (scoreOf distance dataset query) = .ok scored)
    (defined : ∀ candidate ∈ scored, candidate.isUndefined = false) :
    ∃ kept, (rerank distance dataset candidates query (.ofInt capacity)).outcome =
      .ok (kept.map ScoredCandidate.neighbor) ∧ Nearest capacity scored kept := by
  have isScored := isScored_of_mapM each
  have ranked := rankedBy_entries isScored defined
  rcases BoundedHeap.insertAll_retains positive (BoundedHeap.retains_empty _ capacity)
    (by rwa [List.nil_append]) with ⟨heap, filled, retains⟩
  rw [List.nil_append] at retains
  rcases nearest_of_retains isScored defined retains with ⟨kept, found, nearest⟩
  refine ⟨kept, ?_, nearest⟩
  rw [Counting.outcome, rerank_outcome positive, each, Outcome.ok_bind, filled, Outcome.ok_bind,
    found]

/-- Where all candidates are scored at defined distances, a full scan finds the nearest. -/
theorem scan_nearest {candidates : List Value} {scored : List ScoredCandidate} {capacity : Nat}
    (positive : 0 < capacity) (each : candidates.mapM (scoreOf distance dataset query) = .ok scored)
    (defined : ∀ candidate ∈ scored, candidate.isUndefined = false) :
    ∃ kept, (nearestByScan distance dataset candidates query (.ofInt capacity)).outcome =
      .ok (kept.map ScoredCandidate.neighbor) ∧ Nearest capacity scored kept := by
  refine ⟨_, ?_, nearest_of_scan capacity defined⟩
  rw [Counting.outcome, scan_outcome,
    readNeighborCount_of_positive (Int.natCast_pos.mpr positive), Outcome.ok_bind, each,
    Outcome.ok_bind, firstNeighbors, List.map_take, Int.toNat_natCast]

/-- What a search with a heap and a full scan both find among candidates. -/
structure FoundByBoth (distance : Distance) (dataset : Dataset) (query : Point) (count : Int)
    (candidates : List Value) (found : List Neighbor) : Prop where
  reranked : (rerank distance dataset candidates query (.ofInt count)).outcome = .ok found
  length : found.length = min count.toNat candidates.length
  scanned : ∃ listed,
    (nearestByScan distance dataset candidates query (.ofInt count)).outcome = .ok listed ∧
      List.Forall₂ Neighbor.Same found listed
  anyArrival : ∀ arrival, arrival.Perm candidates →
    ∃ again, (rerank distance dataset arrival query (.ofInt count)).outcome = .ok again ∧
      List.Forall₂ Neighbor.Same found again
  withoutRepeats : (candidates.Pairwise fun earlier later => earlier.same later = false) →
    (nearestByScan distance dataset candidates query (.ofInt count)).outcome = .ok found ∧
      found.Pairwise (Neighbor.Precedes dataset) ∧
      ∀ arrival, arrival.Perm candidates →
        (rerank distance dataset arrival query (.ofInt count)).outcome = .ok found

theorem exists_foundByBoth {candidates : List Value} {scored : List ScoredCandidate}
    {count : Int} (positive : 0 < count)
    (each : candidates.mapM (scoreOf distance dataset query) = .ok scored)
    (defined : ∀ candidate ∈ scored, candidate.isUndefined = false) :
    ∃ found, FoundByBoth distance dataset query count candidates found := by
  rcases Int.eq_ofNat_of_zero_le positive.le with ⟨capacity, rfl⟩
  have room : 0 < capacity := by omega
  have isScored := isScored_of_mapM each
  have same : ∀ left ∈ scored, ∀ right ∈ scored, left.row = right.row →
      left.neighbor.Same right.neighbor := by
    intro left isLeft right isRight
    exact (isScored left isLeft).same_neighbor (isScored right isRight)
  rcases rerank_nearest room each defined with ⟨kept, reranked, nearest⟩
  rcases scan_nearest room each defined with ⟨first, scanned, alsoNearest⟩
  have moved : ∀ arrival : List Value, arrival.Perm candidates → ∃ arrived again,
      (rerank distance dataset arrival query (.ofInt capacity)).outcome =
        .ok (again.map ScoredCandidate.neighbor) ∧
      arrived.Perm scored ∧ Nearest capacity arrived again := by
    intro arrival perm
    rcases Outcome.exists_mapM_of_perm perm each with ⟨arrived, run, arrivedPerm⟩
    rcases rerank_nearest room run fun candidate isCandidate =>
      defined candidate (arrivedPerm.mem_iff.mp isCandidate) with ⟨again, found, nearest⟩
    exact ⟨arrived, again, found, arrivedPerm, nearest⟩
  refine ⟨kept.map ScoredCandidate.neighbor, reranked, ?_, ⟨_, scanned, ?_⟩, ?_, ?_⟩
  · rw [List.length_map, nearest.length_eq, Int.toNat_natCast,
      ← List.length_map ScoredCandidate.key, map_key_of_mapM each]
  · rw [List.forall₂_map_left_iff, List.forall₂_map_right_iff]
    exact nearest.forall₂ alsoNearest (.refl _) same
  · intro arrival perm
    rcases moved arrival perm with ⟨arrived, again, found, arrivedPerm, others⟩
    refine ⟨_, found, ?_⟩
    rw [List.forall₂_map_left_iff, List.forall₂_map_right_iff]
    exact nearest.forall₂ others arrivedPerm same
  · intro different
    rw [← map_key_of_mapM each] at different
    have rows := nodup_rows isScored different
    have unique : ∀ left ∈ scored, ∀ right ∈ scored, left.row = right.row → left = right := by
      intro left isLeft right isRight
      exact List.inj_on_of_nodup_map rows isLeft isRight
    have isFirst := nearest.forall₂ alsoNearest (.refl _) unique
    rw [List.forall₂_eq_eq_eq] at isFirst
    refine ⟨isFirst ▸ scanned, nearest.pairwise_precedes isScored rows, ?_⟩
    intro arrival perm
    rcases moved arrival perm with ⟨arrived, again, found, arrivedPerm, others⟩
    have isAgain := nearest.forall₂ others arrivedPerm unique
    rw [List.forall₂_eq_eq_eq] at isAgain
    rw [found, isAgain]

theorem rerank_of_mapM_error {candidates : List Value} {count : Int} {fault : Fault}
    (positive : 0 < count)
    (failure : candidates.mapM (scoreOf distance dataset query) = .error fault) :
    (rerank distance dataset candidates query (.ofInt count)).outcome = .error fault := by
  rcases Int.eq_ofNat_of_zero_le positive.le with ⟨capacity, rfl⟩
  rw [Counting.outcome, rerank_outcome (by omega), failure, Outcome.error_bind]

/-- What a heap search succeeds with has been found among candidates that are all scored. -/
theorem exists_scored_of_reranked {candidates : List Value} {count : Int} {kept : List Neighbor}
    (positive : 0 < count)
    (reranked : (rerank distance dataset candidates query (.ofInt count)).outcome = .ok kept) :
    ∃ scored, candidates.mapM (scoreOf distance dataset query) = .ok scored ∧
      ((∀ candidate ∈ scored, candidate.isUndefined = false) →
        FoundByBoth distance dataset query count candidates kept) := by
  rcases Int.eq_ofNat_of_zero_le positive.le with ⟨capacity, rfl⟩
  have run := reranked
  rw [Counting.outcome, rerank_outcome (by omega)] at run
  rcases Outcome.bind_eq_ok.mp run with ⟨scored, each, _⟩
  refine ⟨scored, each, ?_⟩
  intro defined
  rcases exists_foundByBoth positive each defined with ⟨found, both⟩
  cases reranked.symm.trans both.reranked
  exact both

end

/-- A search with a bounded heap has the outcome of a full scan. -/
theorem rerank_agrees_with_scan (distance : Distance) (dataset : Dataset) (query : Point)
    (count : Int) (candidates : List Value) :
    (count ≤ 0 →
      (rerank distance dataset candidates query (.ofInt count)).outcome =
        .error (.nonPositiveCount (.ofInt count)) ∧
      (nearestByScan distance dataset candidates query (.ofInt count)).outcome =
        .error (.nonPositiveCount (.ofInt count))) ∧
    (0 < count → ∀ before candidate after fault, candidates = before ++ candidate :: after →
      (∀ earlier ∈ before, ∃ scored, scoreOf distance dataset query earlier = .ok scored) →
      scoreOf distance dataset query candidate = .error fault →
      (rerank distance dataset candidates query (.ofInt count)).outcome = .error fault ∧
      (nearestByScan distance dataset candidates query (.ofInt count)).outcome = .error fault) ∧
    (0 < count → ∀ scored, candidates.mapM (scoreOf distance dataset query) = .ok scored →
      (∀ candidate ∈ scored, candidate.isUndefined = false) →
      ∃ found, FoundByBoth distance dataset query count candidates found) := by
  refine ⟨?_, ?_, ?_⟩
  · intro nonpositive
    have refused := readNeighborCount_of_nonpositive nonpositive
    refine ⟨rerank_outcome_of_error refused 0, ?_⟩
    rw [Counting.outcome, scan_outcome, refused, Outcome.error_bind]
  · intro positive before candidate after fault split earlier failure
    have stopped : (before ++ candidate :: after).mapM (scoreOf distance dataset query) =
        .error fault := Outcome.mapM_of_first_error earlier failure
    rcases Int.eq_ofNat_of_zero_le positive.le with ⟨capacity, rfl⟩
    rw [Counting.outcome, Counting.outcome, split, rerank_outcome (by omega), stopped,
      Outcome.error_bind, scan_outcome, readNeighborCount_of_positive positive, Outcome.ok_bind,
      stopped, Outcome.error_bind]
    exact ⟨rfl, rfl⟩
  · intro positive scored each defined
    exact exists_foundByBoth positive each defined

theorem exists_foundByBoth_hamming :
    ∃ keys, ∃ dataset, KeySequence.ofValues [.text "a", .ofInt 7, .truth true] = .ok keys ∧
      Dataset.ofPoints keys [[1, 0], [0, 0], [0, 0]] = .ok dataset ∧
      ∃ found, FoundByBoth .hamming dataset [0, 0] 2 [.ofInt 1, .ofInt 7, .text "a", .truth true]
        found := by
  refine ⟨_, _, rfl, rfl, ?_⟩
  apply (rerank_agrees_with_scan .hamming _ [0, 0] 2 _).2.2 (by decide) _ rfl
  decide

end CurveNeighbors
