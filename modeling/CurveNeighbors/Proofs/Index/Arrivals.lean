import CurveNeighbors.Proofs.Index.QueryStates

/-!
# Candidates in any order

The keys of a dataset are never put in order. What is asked of a key is only whether it
equals another, and of two candidates at the same distance the row decides, which no two
keys share. So keys may be of types that cannot be ordered among each other, a query never
fails for that, and what it keeps of its candidates does not depend on the order in which
they arrive. If it fails when they are scored, it fails in every order, though it may be
another distance that fails first.
-/

namespace CurveNeighbors

namespace Dataset

theorem mem_of_pointAt {dataset : Dataset} {row : Nat} {point : Point}
    (located : dataset.pointAt row = .ok point) : point ∈ dataset.points := by
  rw [pointAt] at located
  split at located
  · next found =>
      cases located
      exact List.mem_of_getElem? found
  · cases located

theorem mem_of_pointOf {dataset : Dataset} {key : Key} {point : Point}
    (located : dataset.pointOf key = .ok point) : point ∈ dataset.points := by
  rcases Outcome.bind_eq_ok.mp located with ⟨row, _, located⟩
  exact mem_of_pointAt located

/-- A key that cannot be scored is at a distance that cannot be evaluated. -/
theorem exists_fault_of_scoreOf {dataset : Dataset} {distance : Distance} {point : Point}
    {key : Key} {fault : Fault} (present : dataset.contains key = true)
    (failure : scoreOf distance dataset point key.value = .error fault) :
    ∃ other ∈ dataset.points, (distance.evaluate point other).outcome = .error fault := by
  rcases KeySequence.exists_position_iff.mpr present with ⟨row, placed⟩
  have placed : dataset.rowOf key = .ok row := placed
  rcases exists_pointAt placed with ⟨other, isOther, located⟩
  refine ⟨other, isOther, ?_⟩
  rw [scoreOf_eq, key.toKey_value, Outcome.ok_bind, placed, Outcome.ok_bind, located,
    Outcome.ok_bind] at failure
  cases evaluated : (distance.evaluate point other).outcome with
  | error raised =>
      rw [evaluated] at failure
      cases failure
      rfl
  | ok value =>
      rw [evaluated] at failure
      cases failure

/-- There are points of a dataset between which the distance fails with a fault. -/
def Raises (dataset : Dataset) (distance : Distance) (fault : Fault) : Prop :=
  ∃ left ∈ dataset.points, ∃ right ∈ dataset.points,
    (distance.evaluate left right).outcome = .error fault

/-- Whatever the order in which candidates are scored, only the distance can fail. -/
theorem raises_of_arrival {dataset : Dataset} {distance : Distance} {point : Point}
    {found : KeySequence} {arrival : List Value} {fault : Fault}
    (known : ∀ key ∈ found.keys, dataset.contains key = true) (isPoint : point ∈ dataset.points)
    (perm : arrival.Perm found.values)
    (failure : arrival.mapM (scoreOf distance dataset point) = .error fault) :
    dataset.Raises distance fault := by
  rcases Outcome.exists_of_mapM_error failure with ⟨value, isValue, unscored⟩
  rcases List.mem_map.mp (perm.mem_iff.mp isValue) with ⟨key, isKey, rfl⟩
  rcases exists_fault_of_scoreOf (known key isKey) unscored with ⟨right, isRight, raised⟩
  exact ⟨point, isPoint, right, isRight, raised⟩

/-- Where not all candidates can be scored, a search fails in whatever order they arrive. -/
theorem exists_raised_of_arrival {dataset : Dataset} {distance : Distance} {point : Point}
    {found : KeySequence} {arrival : List Value} {count : Int} {fault : Fault}
    (known : ∀ key ∈ found.keys, dataset.contains key = true) (isPoint : point ∈ dataset.points)
    (positive : 0 < count) (perm : arrival.Perm found.values)
    (unscored : found.values.mapM (scoreOf distance dataset point) = .error fault) :
    ∃ raised, dataset.Raises distance raised ∧
      (rerank distance dataset arrival point (.ofInt count)).outcome = .error raised := by
  rcases each : arrival.mapM (scoreOf distance dataset point) with raised | scored
  · exact ⟨raised, raises_of_arrival known isPoint perm each, rerank_of_mapM_error positive each⟩
  · rcases Outcome.exists_mapM_of_perm perm.symm each with ⟨moved, found, _⟩
    cases unscored.symm.trans found

/-- No distance between points of a dataset is undefined. -/
def Defines (dataset : Dataset) (distance : Distance) : Prop :=
  ∀ left ∈ dataset.points, ∀ right ∈ dataset.points, ∀ value,
    (distance.evaluate left right).outcome = .ok value → Binary64.isUndefined value = false

theorem Defines.of_mapM {dataset : Dataset} {distance : Distance} {point : Point}
    {candidates : List Value} {scored : List ScoredCandidate} (defines : dataset.Defines distance)
    (isPoint : point ∈ dataset.points)
    (each : candidates.mapM (scoreOf distance dataset point) = .ok scored) :
    ∀ candidate ∈ scored, candidate.isUndefined = false := by
  intro candidate isCandidate
  rcases Outcome.exists_of_mem_mapM each isCandidate with ⟨value, _, success⟩
  rcases scoreOf_eq_ok success with ⟨_, _, other, located, evaluated⟩
  exact defines point isPoint other (mem_of_pointAt located) _ evaluated

end Dataset

/-! ## Faults of an order that is missing -/

theorem Outcome.bind_ne_error {α β : Type} {outcome : Outcome α} {next : α → Outcome β}
    {fault : Fault} (first : outcome ≠ .error fault)
    (each : ∀ result, next result ≠ .error fault) : (outcome >>= next) ≠ .error fault := by
  cases outcome with
  | error other => exact fun failure => first (congrArg Except.error (Except.error.inj failure))
  | ok result => exact each result

namespace CurveMask

theorem readCurve_ne_unordered (value : Value) : readCurve value ≠ .error .unordered := by
  apply Outcome.bind_ne_error
  · intro failure
    cases Value.fault_of_toNumber failure
  · intro number
    cases number.less (.whole 0) with
    | true => rintro ⟨⟩
    | false =>
        cases number with
        | whole curve =>
            intro failure
            rcases fault_of_bitPosition failure with impossible | impossible <;> cases impossible
        | real _ | undefined _ => rintro ⟨⟩

theorem ofBits_ne_unordered (value : Value) : ofBits value ≠ .error .unordered := by
  rw [ofBits.eq_def]
  split
  · split <;> rintro ⟨⟩
  · rintro ⟨⟩

theorem ofValues_ne_unordered (curves : List Value) : ofValues curves ≠ .error .unordered := by
  intro failure
  rcases read : curves.mapM readCurve with fault | numbers
  · rw [ofValues, read] at failure
    cases failure
    rcases Outcome.exists_of_mapM_error read with ⟨value, _, unread⟩
    exact readCurve_ne_unordered value unread
  · rw [ofValues, read] at failure
    cases failure

theorem ofSelection_ne_unordered (selection : CurveSelection) :
    ofSelection selection ≠ .error .unordered := by
  rw [ofSelection.eq_def]
  split
  · rintro ⟨⟩
  · split
    · exact ofBits_ne_unordered _
    · exact ofBits_ne_unordered _
    · apply Outcome.bind_ne_error
      · rw [Value.toItems]
        split <;> rintro ⟨⟩
      · exact ofValues_ne_unordered
  · exact ofValues_ne_unordered _

end CurveMask

namespace Index

variable {index : Index} {query : Query}

theorem check_ne_unordered (index : Index) (query : Query) :
    index.check query ≠ .error .unordered := by
  rw [check, readMask_eq]
  apply Outcome.bind_ne_error
  · intro failure
    cases fault_of_readCount failure
  intro count
  apply Outcome.bind_ne_error
  · intro failure
    cases fault_of_readHalfWindow failure
  intro halfWindow
  apply Outcome.bind_ne_error
  · apply Outcome.bind_ne_error (CurveMask.ofSelection_ne_unordered _)
    intro mask
    split
    · rintro ⟨⟩
    · split <;> rintro ⟨⟩
  intro mask
  apply Outcome.bind_ne_error
  · intro failure
    cases fault_of_checkScale failure
  intro _
  apply Outcome.bind_ne_error
  · rw [Value.toKey]
    split <;> rintro ⟨⟩
  intro key
  apply Outcome.bind_ne_error
  · intro failure
    by_cases indexed : index.dataset.contains key = true
    · rcases exists_positionsOf indexed with ⟨positions, placed, _⟩
      cases placed.symm.trans failure
    · rw [positionsOf, if_neg indexed] at failure
      cases failure
  intro positions
  split <;> rintro ⟨⟩

theorem candidates_ne_unordered (index : Index) (query : Query) (source : RandomSource) :
    (index.candidates query source).1 ≠ .error .unordered := by
  rcases success : index.check query with fault | checked
  · rw [candidates_apply, success]
    intro failure
    cases failure
    exact index.check_ne_unordered query success
  · rcases exists_asks_of_check success with ⟨demand, exist, asks, _⟩
    cases none : checked.mask.isEmpty with
    | false =>
        cases reflexive : demand.key.equals demand.key with
        | true =>
            rw [demand.candidates_eq reflexive none exist asks]
            rintro ⟨⟩
        | false =>
            rcases demand.exists_fault_of_irreflexive reflexive none exist asks source with
              ⟨fault, consistency, failure⟩
            rw [failure]
            rintro ⟨⟩
            cases consistency
    | true =>
        rw [demand.candidates_eq_sample none asks]
        split
        · next started =>
            rcases fault_of_start started with rfl | rfl <;> rintro ⟨⟩
        · split <;> rintro ⟨⟩

/-- Only the distance itself can make a query fail for an order that is missing. -/
theorem raises_of_query_unordered {state : QueryState}
    (reflexive : ∀ key ∈ index.dataset.keys.keys, (key == key) = true)
    (failure : (index.query query state).1 = .error .unordered) :
    index.dataset.Raises index.distance .unordered := by
  rcases state with ⟨source, evaluations⟩
  rcases run : index.candidates query source with ⟨fault | found, left⟩
  · rw [query_of_candidates_fault run evaluations] at failure
    cases failure
    exact absurd (congrArg Prod.fst run) (index.candidates_ne_unordered query source)
  · rcases exists_asksAt run with ⟨demand, mask, point, asked, isPoint⟩
    rw [asked.query_of_found run evaluations] at failure
    rcases each : (index.arrangement.values found).mapM
      (scoreOf index.distance index.dataset point) with fault | scored
    · cases (rerank_of_mapM_error demand.positive each).symm.trans failure
      exact Dataset.raises_of_arrival (contains_of_found reflexive run) isPoint
        (index.arrangement.values_perm found) each
    · rcases rerank_ok demand.positive each 0 with ⟨kept, reranked⟩
      cases reranked.symm.trans failure

/-! ## Candidates that arrive in any order -/

/-- A query never has to put keys in order. What it keeps of its candidates is the same in whatever
order they arrive, and if they cannot all be scored, it fails in whatever order they arrive, with a
fault of the distance. -/
structure IgnoresOrder (index : Index) (query : Query) : Prop where
  unordered : ∀ state, (index.query query state).1 = .error .unordered →
    index.dataset.Raises index.distance .unordered
  arrival : ∀ state kept after, index.query query state = (.ok kept, after) →
    ∃ (demand : Demand index) (mask : CurveMask) (point : Point) (found : KeySequence),
      index.AsksAt query demand mask point ∧ (index.candidates query state.source).1 = .ok found ∧
      ∀ arrival : List Value, arrival.Perm found.values →
        (rerank index.distance index.dataset arrival point (.ofInt demand.count)).outcome = .ok kept
  failure : ∀ state fault after found, index.query query state = (.error fault, after) →
    (index.candidates query state.source).1 = .ok found →
    ∃ (demand : Demand index) (mask : CurveMask) (point : Point),
      index.AsksAt query demand mask point ∧
      ∀ arrival : List Value, arrival.Perm found.values →
        ∃ raised, index.dataset.Raises index.distance raised ∧
          (rerank index.distance index.dataset arrival point (.ofInt demand.count)).outcome =
            .error raised

theorem ignoresOrder (reflexive : ∀ key ∈ index.dataset.keys.keys, (key == key) = true)
    (defines : index.dataset.Defines index.distance) (query : Query) :
    index.IgnoresOrder query := by
  refine ⟨fun state => raises_of_query_unordered reflexive, ?_, ?_⟩
  · intro state kept after run
    rcases exists_found_of_query run with ⟨demand, mask, point, found, asked, drawn, reranked⟩
    refine ⟨demand, mask, point, found, asked, drawn, ?_⟩
    rcases exists_scored_of_reranked demand.positive reranked with ⟨scored, each, nearest⟩
    have both := nearest (defines.of_mapM (Dataset.mem_of_pointOf asked.located) each)
    intro arrival perm
    exact (both.withoutRepeats (index.arrangement.pairwise_values found)).2.2 arrival
      (perm.trans (index.arrangement.values_perm found).symm)
  · rintro ⟨source, evaluations⟩ fault after found run drawn
    rcases candidatesRun : index.candidates query source with ⟨outcome, left⟩
    cases (congrArg Prod.fst candidatesRun).symm.trans drawn
    rcases exists_asksAt candidatesRun with ⟨demand, mask, point, asked, isPoint⟩
    refine ⟨demand, mask, point, asked, ?_⟩
    intro arrival perm
    rw [asked.query_of_found candidatesRun evaluations] at run
    have known := contains_of_found reflexive candidatesRun
    rcases each : found.values.mapM (scoreOf index.distance index.dataset point) with other | scored
    · exact Dataset.exists_raised_of_arrival known isPoint demand.positive perm each
    · -- If all of them are scored in one order, they are in the order of the query as well.
      rcases Outcome.exists_mapM_of_perm (index.arrangement.values_perm found) each with
        ⟨moved, arrived, _⟩
      rcases rerank_ok demand.positive arrived 0 with ⟨kept, reranked⟩
      have failed : (rerank index.distance index.dataset _ point (.ofInt demand.count)).outcome =
          .error fault := congrArg Prod.fst run
      cases reranked.symm.trans failed

end Index

end CurveNeighbors
