import CurveNeighbors.Neighbors.Rerank
import CurveNeighbors.Neighbors.FullScan
import CurveNeighbors.Proofs.Computation
import CurveNeighbors.Proofs.KeySequence
import CurveNeighbors.Proofs.Neighbors.Retention

/-!
# Scoring candidates

How a candidate is scored depends on its row alone: candidates in one row are equal
keys at the same distance. So the entries that scored candidates make can all be
compared with each other, even where a distance is undefined, because two keys never
have to be put in order. A bounded heap therefore takes them all in, and the first
fault of a search is that of the first candidate that cannot be scored.
-/

namespace CurveNeighbors

theorem Key.toKey_value (key : Key) : key.value.toKey = .ok key :=
  dif_pos key.hashable

theorem Key.value_of_toKey {value : Value} {key : Key} (known : value.toKey = .ok key) :
    key.value = value := by
  unfold Value.toKey at known
  split at known
  · cases known
    rfl
  · cases known

/-- The outcome of scoring a candidate. -/
def scoreOf (distance : Distance) (dataset : Dataset) (query : Point) (candidate : Value) :
    Outcome ScoredCandidate :=
  (scoreCandidate distance dataset query candidate).outcome

namespace ScoredCandidate

/-- A scored candidate as an entry of a heap. -/
def entry (candidate : ScoredCandidate) : HeapEntry :=
  ⟨candidate.distance, .whole candidate.row, candidate.key⟩

end ScoredCandidate

section

variable {distance : Distance} {dataset : Dataset} {query : Point}

theorem evaluate_apply (distance : Distance) (left right : Point) (evaluations : Nat) :
    distance.evaluate left right evaluations =
      ((distance.evaluate left right).outcome, evaluations + 1) := by
  simp only [Counting.outcome, Distance.evaluate, Computation.bind_apply, Counting.once]
  cases distance left right with
  | error fault => rfl
  | ok number => cases found : number.toFloat? <;> simp only [found] <;> rfl

/-- A candidate is scored by its row and the distance of the point there. -/
theorem scoreCandidate_apply (candidate : Value) (evaluations : Nat) :
    scoreCandidate distance dataset query candidate evaluations =
      match candidate.toKey >>= dataset.rowOf with
      | .error fault => (.error fault, evaluations)
      | .ok row =>
          match dataset.pointAt row with
          | .error fault => (.error fault, evaluations)
          | .ok point =>
              ((distance.evaluate query point).outcome.map fun value => ⟨candidate, row, value⟩,
                evaluations + 1) := by
  simp only [scoreCandidate, Computation.bind_apply, Counting.pure, evaluate_apply,
    Computation.pure_apply]
  cases candidate.toKey with
  | error fault => rfl
  | ok key =>
      rw [Outcome.ok_bind]
      cases placed : dataset.rowOf key with
      | error fault => simp only [placed]
      | ok row =>
          cases located : dataset.pointAt row with
          | error fault => simp only [placed, located]
          | ok point =>
              simp only [placed, located]
              cases (distance.evaluate query point).outcome <;> rfl

theorem scoreOf_eq (candidate : Value) :
    scoreOf distance dataset query candidate = do
      let row ← candidate.toKey >>= dataset.rowOf
      let point ← dataset.pointAt row
      let value ← (distance.evaluate query point).outcome
      return ⟨candidate, row, value⟩ := by
  rw [scoreOf, Counting.outcome, scoreCandidate_apply]
  cases candidate.toKey >>= dataset.rowOf with
  | error fault => rfl
  | ok row =>
      rw [Outcome.ok_bind]
      dsimp only
      cases dataset.pointAt row with
      | error fault => rfl
      | ok point =>
          rw [Outcome.ok_bind]
          dsimp only
          cases (distance.evaluate query point).outcome <;> rfl

theorem scoreOf_of_placed {key : Key} {row : Nat} {point : Point} {value : Float}
    (placed : dataset.rowOf key = .ok row) (located : dataset.pointAt row = .ok point)
    (evaluated : (distance.evaluate query point).outcome = .ok value) :
    scoreOf distance dataset query key.value = .ok ⟨key.value, row, value⟩ := by
  rw [scoreOf_eq, key.toKey_value, Outcome.ok_bind, placed, Outcome.ok_bind, located,
    Outcome.ok_bind, evaluated]
  rfl

theorem scoreCandidate_outcome (candidate : Value) (evaluations : Nat) :
    (scoreCandidate distance dataset query candidate evaluations).1 =
      scoreOf distance dataset query candidate := by
  rw [scoreOf, Counting.outcome, scoreCandidate_apply, scoreCandidate_apply]
  cases candidate.toKey >>= dataset.rowOf with
  | error fault => rfl
  | ok row =>
      dsimp only
      cases dataset.pointAt row <;> rfl

theorem scoreOf_eq_ok {candidate : Value} {scored : ScoredCandidate}
    (success : scoreOf distance dataset query candidate = .ok scored) :
    scored.key = candidate ∧ candidate.toKey >>= dataset.rowOf = .ok scored.row ∧
      ∃ point, dataset.pointAt scored.row = .ok point ∧
        (distance.evaluate query point).outcome = .ok scored.distance := by
  rw [scoreOf_eq] at success
  rcases Outcome.bind_eq_ok.mp success with ⟨row, placed, success⟩
  rcases Outcome.bind_eq_ok.mp success with ⟨point, located, success⟩
  rcases Outcome.bind_eq_ok.mp success with ⟨value, evaluated, success⟩
  cases success
  exact ⟨rfl, placed, point, located, evaluated⟩

/-- The candidate is scored by what its key gives. -/
def IsScored (distance : Distance) (dataset : Dataset) (query : Point)
    (scored : ScoredCandidate) : Prop :=
  scoreOf distance dataset query scored.key = .ok scored

theorem isScored_of_scoreOf {candidate : Value} {scored : ScoredCandidate}
    (success : scoreOf distance dataset query candidate = .ok scored) :
    IsScored distance dataset query scored := by
  rw [IsScored, (scoreOf_eq_ok success).1, success]

theorem IsScored.exists_key {candidate : ScoredCandidate}
    (isScored : IsScored distance dataset query candidate) :
    ∃ key, candidate.key.toKey = .ok key ∧ dataset.rowOf key = .ok candidate.row :=
  Outcome.bind_eq_ok.mp (scoreOf_eq_ok isScored).2.1

/-- Candidates in one row are equal keys at the same distance. -/
theorem IsScored.eq_of_row_eq {left right : ScoredCandidate}
    (isLeft : IsScored distance dataset query left)
    (isRight : IsScored distance dataset query right) (sameRow : left.row = right.row) :
    left.distance = right.distance ∧ left.key.same right.key = true := by
  rcases scoreOf_eq_ok isLeft with ⟨_, leftPlaced, leftPoint, leftLocated, leftEvaluated⟩
  rcases scoreOf_eq_ok isRight with ⟨_, rightPlaced, rightPoint, rightLocated, rightEvaluated⟩
  rcases Outcome.bind_eq_ok.mp leftPlaced with ⟨leftKey, leftKnown, leftRow⟩
  rcases Outcome.bind_eq_ok.mp rightPlaced with ⟨rightKey, rightKnown, rightRow⟩
  rw [sameRow] at leftRow leftLocated
  cases leftLocated.symm.trans rightLocated
  refine ⟨Except.ok.inj (leftEvaluated.symm.trans rightEvaluated), ?_⟩
  have same := KeySequence.beq_of_position leftRow rightRow
  rw [← Key.value_of_toKey leftKnown, ← Key.value_of_toKey rightKnown]
  exact same

theorem isScored_of_mapM {candidates : List Value} {scored : List ScoredCandidate}
    (success : candidates.mapM (scoreOf distance dataset query) = .ok scored) :
    ∀ result ∈ scored, IsScored distance dataset query result := by
  intro result isResult
  rcases Outcome.exists_of_mem_mapM success isResult with ⟨candidate, _, found⟩
  exact isScored_of_scoreOf found

theorem map_key_of_mapM {candidates : List Value} {scored : List ScoredCandidate}
    (success : candidates.mapM (scoreOf distance dataset query) = .ok scored) :
    scored.map ScoredCandidate.key = candidates := by
  have each := Outcome.forall₂_of_mapM success
  clear success
  induction each with
  | nil => rfl
  | cons found _ ih => rw [List.map_cons, ih, (scoreOf_eq_ok found).1]

/-- The entries of scored candidates can be compared, since no two keys have to be put in order. -/
theorem comparable_entries {scored : List ScoredCandidate}
    (isScored : ∀ candidate ∈ scored, IsScored distance dataset query candidate) :
    BoundedHeap.Comparable (scored.map ScoredCandidate.entry).toArray := by
  intro entry isEntry other isOther
  simp only [List.mem_toArray, List.mem_map] at isEntry isOther
  rcases isEntry with ⟨left, isLeft, rfl⟩
  rcases isOther with ⟨right, isRight, rfl⟩
  simp only [HeapEntry.worse?, ScoredCandidate.entry, Number.same_whole, Number.less_whole]
  by_cases sameRow : left.row = right.row
  · have same := ((isScored left isLeft).eq_of_row_eq (isScored right isRight) sameRow).2
    split
    · rfl
    · split
      · rfl
      · simp [sameRow, same]
  · have otherRow : (left.row : Int) ≠ right.row := by omega
    split
    · rfl
    · split
      · rfl
      · simp [otherRow]

/-! ## Searching -/

theorem mapM_scoreCandidate_outcome (candidates : List Value) (evaluations : Nat) :
    (candidates.mapM (scoreCandidate distance dataset query) evaluations).1 =
      candidates.mapM (scoreOf distance dataset query) := by
  induction candidates generalizing evaluations with
  | nil => rfl
  | cons candidate candidates ih =>
      rw [List.mapM_cons, List.mapM_cons, Computation.bind_apply,
        ← scoreCandidate_outcome candidate evaluations]
      rcases scoreCandidate distance dataset query candidate evaluations with ⟨outcome, left⟩
      cases outcome with
      | error fault => rfl
      | ok result =>
          dsimp only
          rw [Computation.bind_apply, Outcome.ok_bind, ← ih left]
          rcases candidates.mapM (scoreCandidate distance dataset query) left with ⟨rest, final⟩
          cases rest <;> rfl

theorem scoreCandidate_of_scoreOf {candidate : Value} {outcome : Outcome ScoredCandidate}
    (scored : scoreOf distance dataset query candidate = outcome) (evaluations : Nat) :
    ∃ left, scoreCandidate distance dataset query candidate evaluations = (outcome, left) :=
  ⟨_, Prod.ext ((scoreCandidate_outcome candidate evaluations).trans scored) rfl⟩

theorem offerCandidate_of_ok {heap next : BoundedHeap} {candidate : Value}
    {scored : ScoredCandidate} (success : scoreOf distance dataset query candidate = .ok scored)
    (inserted : heap.insert scored.entry = (.ok (), next)) (evaluations : Nat) :
    ∃ left, offerCandidate distance dataset query heap candidate evaluations =
      (.ok next, left) := by
  rcases scoreCandidate_of_scoreOf success evaluations with ⟨left, found⟩
  rw [ScoredCandidate.entry] at inserted
  refine ⟨left, ?_⟩
  rw [offerCandidate, Computation.bind_of_ok found, inserted]
  rfl

theorem offerCandidate_of_error {heap : BoundedHeap} {candidate : Value} {fault : Fault}
    (failure : scoreOf distance dataset query candidate = .error fault) (evaluations : Nat) :
    ∃ left, offerCandidate distance dataset query heap candidate evaluations =
      (.error fault, left) := by
  rcases scoreCandidate_of_scoreOf failure evaluations with ⟨left, found⟩
  exact ⟨left, by rw [offerCandidate, Computation.bind_of_error found]⟩

/-- Candidates can be scored first and offered to the heap afterwards. -/
theorem foldlM_offerCandidate_outcome {capacity : Nat} (positive : 0 < capacity)
    (earlier : List ScoredCandidate) {heap : BoundedHeap}
    (limited : heap.capacity = .ofInt capacity)
    (isScored : ∀ candidate ∈ earlier, IsScored distance dataset query candidate)
    (within : ∀ entry ∈ heap.entries, entry ∈ earlier.map ScoredCandidate.entry)
    (candidates : List Value) (evaluations : Nat) :
    (candidates.foldlM (offerCandidate distance dataset query) heap evaluations).1 =
      candidates.mapM (scoreOf distance dataset query) >>= fun scored =>
        heap.insertAll (scored.map ScoredCandidate.entry) := by
  -- What the heap holds was scored earlier, so an insertion cannot fail for want of an order,
  -- and the first fault is that of a candidate.
  induction candidates generalizing earlier heap evaluations with
  | nil => rfl
  | cons candidate candidates ih =>
      rw [List.foldlM_cons, Outcome.mapM_cons]
      cases found : scoreOf distance dataset query candidate with
      | error fault =>
          rcases offerCandidate_of_error found evaluations with ⟨left, offered⟩
          rw [Computation.bind_of_error offered]
          rfl
      | ok scored =>
          have isScoredNow : ∀ candidate ∈ scored :: earlier,
              IsScored distance dataset query candidate := by
            intro candidate isCandidate
            rcases List.mem_cons.mp isCandidate with rfl | old
            · exact isScored_of_scoreOf found
            · exact isScored candidate old
          have comparable : BoundedHeap.Comparable (heap.entries.push scored.entry) := by
            apply (comparable_entries isScoredNow).mono
            intro entry isEntry
            rw [List.map_cons, List.mem_toArray, List.mem_cons]
            rcases Array.mem_push.mp isEntry with old | rfl
            · exact Or.inr (within entry old)
            · exact Or.inl rfl
          rcases BoundedHeap.insert_ok positive limited comparable with
            ⟨next, inserted, unchanged, nextWithin⟩
          rcases offerCandidate_of_ok found inserted evaluations with ⟨left, offered⟩
          have stillWithin : ∀ entry ∈ next.entries,
              entry ∈ (scored :: earlier).map ScoredCandidate.entry := by
            intro entry isEntry
            rw [List.map_cons, List.mem_cons]
            rcases Array.mem_push.mp (nextWithin entry isEntry) with old | rfl
            · exact Or.inr (within entry old)
            · exact Or.inl rfl
          rw [Computation.bind_of_ok offered,
            ih (scored :: earlier) (unchanged.trans limited) isScoredNow stillWithin left,
            Outcome.ok_bind]
          cases candidates.mapM (scoreOf distance dataset query) with
          | error fault => rfl
          | ok rest =>
              rw [Outcome.ok_bind, Outcome.ok_bind, Outcome.ok_bind, List.map_cons,
                BoundedHeap.insertAll_cons _ inserted]

end

end CurveNeighbors
