import CurveNeighbors.Proofs.Index.Checks
import CurveNeighbors.Proofs.Index.CurveCandidates
import CurveNeighbors.Proofs.Index.SampleCandidates
import CurveNeighbors.Proofs.Neighbors.Searches
import CurveNeighbors.Proofs.Random.Streams

/-!
# The answers to queries

A query is refused by the first of its checks that fails, and by nothing else. Parts of
the answer have been computed when some of the checks are made, and all functions on
the way have faults of their own. That none of these can occur follows from what an
index carries: the keys of its dataset have positions on all curves, so no position
that is handed on is refused, every window is on its curve, and every candidate has a
row and a distance.
-/

namespace CurveNeighbors

namespace Dataset

/-- A distance can be evaluated between any two points of a dataset. -/
def Measures (dataset : Dataset) (distance : Distance) : Prop :=
  ∀ left ∈ dataset.points, ∀ right ∈ dataset.points,
    ∃ value, (distance.evaluate left right).outcome = .ok value

theorem exists_pointAt {dataset : Dataset} {key : Key} {row : Nat}
    (placed : dataset.rowOf key = .ok row) :
    ∃ point ∈ dataset.points, dataset.pointAt row = .ok point := by
  have inside : row < dataset.points.length := by
    rw [dataset.aligned]
    exact KeySequence.lt_size_of_position placed
  refine ⟨dataset.points[row], List.getElem_mem inside, ?_⟩
  rw [Dataset.pointAt, List.getElem?_eq_getElem inside]

theorem exists_pointOf {dataset : Dataset} {key : Key} (present : dataset.contains key = true) :
    ∃ point ∈ dataset.points, dataset.pointOf key = .ok point := by
  rcases KeySequence.exists_position_iff.mpr present with ⟨row, placed⟩
  have placed : dataset.rowOf key = .ok row := placed
  rcases exists_pointAt placed with ⟨point, isPoint, located⟩
  refine ⟨point, isPoint, ?_⟩
  rw [pointOf, placed, Outcome.ok_bind, located]

end Dataset

theorem exists_scoreOf {distance : Distance} {dataset : Dataset} {point : Point} {key : Key}
    (measured : dataset.Measures distance) (isPoint : point ∈ dataset.points)
    (present : dataset.contains key = true) :
    ∃ scored, scoreOf distance dataset point key.value = .ok scored := by
  rcases KeySequence.exists_position_iff.mpr present with ⟨row, placed⟩
  have placed : dataset.rowOf key = .ok row := placed
  rcases Dataset.exists_pointAt placed with ⟨other, isOther, located⟩
  rcases measured point isPoint other isOther with ⟨value, evaluated⟩
  exact ⟨_, scoreOf_of_placed placed located evaluated⟩

namespace Index

variable {index : Index} {query : Query}

/-- A query that passes its checks reranks its candidates by their distance from the point of its
key. -/
theorem query_of_candidates {checked : CheckedQuery} {state : QueryState} {found : KeySequence}
    {source : RandomSource} {point : Point} {answer : List Neighbor}
    (success : index.check query = .ok checked)
    (run : index.candidatesOf checked state.source = (.ok found, source))
    (isPoint : index.dataset.pointOf checked.key = .ok point)
    (reranked : (rerank index.distance index.dataset (index.arrangement.values found) point
      (.ofInt checked.count) state.evaluations).1 = .ok answer) :
    ∃ left, index.query query state = (.ok answer, left) := by
  have checkRun : Querying.pure (index.check query) state = (.ok checked, state) :=
    congrArg (·, state) success
  have drawRun : Querying.ofDrawing (index.candidatesOf checked) state =
      (.ok found, { state with source := source }) := by
    rw [Querying.ofDrawing, run]
  have pointRun : Querying.pure (index.dataset.pointOf checked.key)
      { state with source := source } = (.ok point, { state with source := source }) :=
    congrArg (·, _) isPoint
  rw [Index.query, Computation.bind_of_ok checkRun, Index.answer, Computation.bind_of_ok drawRun,
    Computation.bind_of_ok pointRun]
  exact ⟨_, Prod.ext reranked rfl⟩

theorem exists_answer_of_candidates {checked : CheckedQuery} {state : QueryState}
    {found : KeySequence} {source : RandomSource} (positive : 0 < checked.count)
    (measured : index.dataset.Measures index.distance)
    (indexed : index.dataset.contains checked.key = true)
    (success : index.check query = .ok checked)
    (run : index.candidatesOf checked state.source = (.ok found, source))
    (within : ∀ key ∈ found.keys, index.dataset.contains key = true) :
    ∃ answer left, index.query query state = (.ok answer, left) := by
  rcases Dataset.exists_pointOf indexed with ⟨point, isPoint, located⟩
  have each : ∀ value ∈ index.arrangement.values found, ∃ scored,
      scoreOf index.distance index.dataset point value = .ok scored := by
    intro value isValue
    rcases List.mem_map.mp ((index.arrangement.values_perm found).mem_iff.mp isValue) with
      ⟨key, isKey, rfl⟩
    exact exists_scoreOf measured isPoint (within key isKey)
  rcases Outcome.exists_mapM each with ⟨scored, allScored⟩
  rcases rerank_ok positive allScored state.evaluations with ⟨answer, reranked⟩
  exact ⟨answer, query_of_candidates success run located reranked⟩

theorem candidatesOf_eq {checked : CheckedQuery} (success : index.check query = .ok checked)
    (source : RandomSource) :
    index.candidatesOf checked source = index.candidates query source := by
  rw [candidates, success, Drawing.pure_ok_bind]

theorem query_of_candidates_error {checked : CheckedQuery} {state : QueryState} {fault : Fault}
    (success : index.check query = .ok checked)
    (run : index.candidatesOf checked state.source = (.error fault, state.source)) :
    index.query query state = (.error fault, state) := by
  have checkRun : Querying.pure (index.check query) state = (.ok checked, state) :=
    congrArg (·, state) success
  have drawRun : Querying.ofDrawing (index.candidatesOf checked) state = (.error fault, state) := by
    rw [Querying.ofDrawing, run]
  rw [Index.query, Computation.bind_of_ok checkRun, Index.answer,
    Computation.bind_of_error drawRun]

/-- A query that fails a check is refused with the fault of the first one. -/
theorem query_of_firstFault? {state : QueryState} {fault : Fault} (room : index.HasRoom query)
    (fails : index.firstFault? query state.source = some fault) :
    index.query query state = (.error fault, state) := by
  rw [firstFault?_eq room] at fails
  rcases success : index.check query with other | checked
  · rw [success] at fails
    cases fails
    have checkRun : Querying.pure (index.check query) state = (.error fault, state) :=
      congrArg (·, state) success
    rw [Index.query, Computation.bind_of_error checkRun]
  · rw [success] at fails
    dsimp only at fails
    split at fails
    · next none =>
        -- All other checks have passed, so the source is asked for a generator and has none.
        rcases exists_asks_of_check success with ⟨demand, _, asks, _⟩
        have run := candidatesOf_eq success state.source
        rw [demand.candidates_eq_sample none asks] at run
        rcases started : state.source.start with other | generator
        · rw [started] at fails run
          cases fails
          exact query_of_candidates_error success run
        · rw [started] at fails
          cases fails
    · cases fails

/-- Where a query needs a sample, the stream of its generator is enough for it. -/
def Draws (index : Index) (query : Query) (source : RandomSource) : Prop :=
  ∀ (demand : Demand index) (mask : CurveMask) (generator : MersenneTwister),
    query.Asks demand mask → mask.isEmpty = true → source.start = .ok generator →
      Sampling.Suffices index.dataset.size demand.sampleSize generator

theorem query_of_not_draws {state : QueryState} (exhausted : ¬ index.Draws query state.source) :
    index.query query state = (.error .drawsExhausted, state) := by
  simp only [Draws, not_forall] at exhausted
  rcases exhausted with ⟨demand, mask, generator, asks, none, started, insufficient⟩
  rcases check_of_asks (index.hasCurvesOf_of_isEmpty none) asks with ⟨positions, success, _⟩
  have sampled : Sampling.sample index.dataset.size demand.sampleSize generator = .none := by
    apply Option.eq_none_iff_forall_ne_some.mpr
    intro found isSample
    exact insufficient (Sampling.exists_sample_iff.mp ⟨found, isSample⟩)
  apply query_of_candidates_error success
  rw [candidatesOf_eq success, demand.candidates_eq_sample none asks, started]
  simp only [sampled]

/-- A query that passes all checks has candidates, if the stream is enough for the sample it may
need: its own key and others of the dataset. -/
theorem exists_candidates {source : RandomSource}
    (reflexive : ∀ key ∈ index.dataset.keys.keys, key.equals key = true)
    (room : index.HasRoom query) (draws : index.Draws query source)
    (accepts : index.Accepts query source) :
    ∃ (demand : Demand index) (mask : CurveMask) (found : KeySequence) (left : RandomSource),
      index.HasCurvesOf mask ∧ query.Asks demand mask ∧
      index.candidates query source = (.ok found, left) ∧ found.contains demand.key = true ∧
      ∀ key ∈ found.keys, index.dataset.contains key = true := by
  have passes := firstFault?_eq_none_iff.mpr accepts
  rw [firstFault?_eq room] at passes
  rcases success : index.check query with fault | checked
  · rw [success] at passes
    cases passes
  · rw [success] at passes
    rcases exists_asks_of_check success with ⟨demand, exist, asks, _⟩
    refine ⟨demand, checked.mask, ?_⟩
    cases none : checked.mask.isEmpty with
    | false =>
        have selfEqual := KeySequence.equals_self_of_contains reflexive demand.indexed
        exact ⟨_, _, exist, asks, demand.candidates_eq selfEqual none exist asks source,
          demand.contains_self_curveCandidates _, demand.contains_of_mem_curveCandidates exist⟩
    | true =>
        dsimp only at passes
        rw [if_pos none] at passes
        rcases started : source.start with fault | generator
        · rw [started] at passes
          cases passes
        · have enough := draws demand checked.mask generator asks none started
          rcases Sampling.exists_sample_iff.mpr enough with ⟨⟨rows, left⟩, sampled⟩
          have run := demand.candidates_eq_sample none asks source
          rw [started] at run
          simp only [sampled] at run
          exact ⟨_, _, exist, asks, run, demand.contains_self_sampleCandidates rows,
            demand.contains_of_mem_sampleCandidates
              (fun key isKey => Key.beq_self_of_equals (reflexive key isKey)) rows⟩

/-- A query that passes all checks is answered, if the stream is enough for the sample it may
need. -/
theorem exists_answer {state : QueryState}
    (reflexive : ∀ key ∈ index.dataset.keys.keys, key.equals key = true)
    (measured : index.dataset.Measures index.distance) (room : index.HasRoom query)
    (draws : index.Draws query state.source) (accepts : index.Accepts query state.source) :
    ∃ answer left, index.query query state = (.ok answer, left) := by
  rcases exists_candidates reflexive room draws accepts with
    ⟨demand, mask, found, source, exist, asks, run, _, within⟩
  rcases check_of_asks exist asks with ⟨positions, success, _⟩
  rw [← candidatesOf_eq success] at run
  exact exists_answer_of_candidates demand.positive measured demand.indexed success run within

end Index

end CurveNeighbors
