import CurveNeighbors.Proofs.Counting
import CurveNeighbors.Proofs.Index.Queries

/-!
# What a query does to its state

A query takes its candidates, which may be drawn from the source of randomness, and then
searches them, which evaluates distances and draws nothing. So the source is left as the
candidates leave it. They draw only after every check has passed and only without curves:
a failure to find candidates leaves the source as it was, and for a mask of curves there
is no difference between one source and another.
-/

namespace CurveNeighbors

namespace Querying

variable {α β : Type}

/-- A computation that is not told how many distances were evaluated before. -/
def Steady (computation : Querying α) : Prop :=
  ∀ source evaluations, computation ⟨source, evaluations⟩ =
    ((computation ⟨source, 0⟩).1,
      ⟨(computation ⟨source, 0⟩).2.source, evaluations + (computation ⟨source, 0⟩).2.evaluations⟩)

theorem Steady.result_eq {computation : Querying α} (steady : computation.Steady)
    (source : RandomSource) (evaluations : Nat) :
    ((computation ⟨source, evaluations⟩).1, (computation ⟨source, evaluations⟩).2.source) =
      ((computation ⟨source, 0⟩).1, (computation ⟨source, 0⟩).2.source) := by
  rw [steady source evaluations]

theorem steady_pure (outcome : Outcome α) : (Querying.pure outcome).Steady := by
  intro source evaluations
  simp only [Querying.pure, Nat.add_zero]

theorem steady_ofDrawing (drawing : Drawing α) : (ofDrawing drawing).Steady := by
  intro source evaluations
  rfl

theorem steady_ofCounting {counting : Counting α} (steady : counting.Steady) :
    (ofCounting counting).Steady := by
  intro source evaluations
  simp only [ofCounting, steady evaluations]
  rfl

theorem Steady.bind {computation : Querying α} {next : α → Querying β}
    (steady : computation.Steady) (each : ∀ result, (next result).Steady) :
    (computation >>= next).Steady := by
  intro source evaluations
  rw [Computation.bind_apply, Computation.bind_apply, steady source evaluations]
  rcases computation ⟨source, 0⟩ with ⟨fault | result, ⟨left, count⟩⟩
  · rfl
  · simp only [each result left (evaluations + count), each result left count, Nat.add_assoc]

theorem map_apply (f : α → β) (computation : Querying α) (state : QueryState) :
    (f <$> computation) state = ((computation state).1.map f, (computation state).2) :=
  Computation.map_apply f computation state

theorem Steady.map {computation : Querying α} (steady : computation.Steady) (f : α → β) :
    (f <$> computation).Steady :=
  steady.bind fun result => steady_pure (.ok (f result))

end Querying

namespace Index

variable {index : Index} {query : Query} {source left : RandomSource} {fault : Fault}

/-! ## Candidates -/

theorem candidates_apply (index : Index) (query : Query) (source : RandomSource) :
    index.candidates query source =
      match index.check query with
      | .error fault => (.error fault, source)
      | .ok checked => index.candidatesOf checked source := by
  rw [candidates]
  cases index.check query <;> rfl

theorem exists_candidatesOf_of_nonempty {checked : CheckedQuery}
    (nonempty : checked.mask.isEmpty = false) :
    ∃ outcome, ∀ source, index.candidatesOf checked source = (outcome, source) := by
  rw [candidatesOf, if_neg (by simp [nonempty])]
  exact ⟨_, fun _ => rfl⟩

/-- From a mask of curves there is one outcome for all sources, which are left as they are. -/
theorem exists_candidates_of_nonempty {mask : CurveMask}
    (selected : CurveMask.ofSelection query.selection = .ok mask)
    (nonempty : mask.isEmpty = false) :
    ∃ outcome, ∀ source, index.candidates query source = (outcome, source) := by
  rcases success : index.check query with fault | checked
  · refine ⟨.error fault, ?_⟩
    intro source
    simp only [candidates_apply, success]
  · rcases exists_asks_of_check success with ⟨demand, exist, asks, _⟩
    cases selected.symm.trans asks.selection
    simp only [candidates_apply, success]
    exact exists_candidatesOf_of_nonempty nonempty

/-- Candidates that are not found leave the source as it was. -/
theorem source_of_candidates_error (run : index.candidates query source = (.error fault, left)) :
    left = source := by
  rcases success : index.check query with other | checked
  · simp only [candidates_apply, success] at run
    cases run
    rfl
  · rcases exists_asks_of_check success with ⟨demand, exist, asks, _⟩
    cases none : checked.mask.isEmpty with
    | false =>
        rcases exists_candidates_of_nonempty asks.selection none with ⟨outcome, unchanged⟩
        rw [unchanged] at run
        cases run
        rfl
    | true =>
        rw [demand.candidates_eq_sample none asks] at run
        -- The draws come last, and what is drawn is a result.
        split at run
        · cases run
          rfl
        · split at run
          · cases run
            rfl
          · cases run

/-! ## Queries -/

theorem query_of_candidates_fault (run : index.candidates query source = (.error fault, left))
    (evaluations : Nat) :
    index.query query ⟨source, evaluations⟩ = (.error fault, ⟨source, evaluations⟩) := by
  cases source_of_candidates_error run
  rcases success : index.check query with other | checked
  · simp only [candidates_apply, success] at run
    cases run
    have checkRun : Querying.pure (index.check query) ⟨source, evaluations⟩ =
        (.error fault, ⟨source, evaluations⟩) := congrArg (·, _) success
    rw [Index.query, Computation.bind_of_error checkRun]
  · rw [← candidatesOf_eq success] at run
    exact query_of_candidates_error success run

/-- What a query asks for, and the point of its key. -/
structure AsksAt (index : Index) (query : Query) (demand : Demand index) (mask : CurveMask)
    (point : Point) : Prop where
  exist : index.HasCurvesOf mask
  asks : query.Asks demand mask
  located : index.dataset.pointOf demand.key = .ok point

variable {demand : Demand index} {mask : CurveMask} {point : Point} {found : KeySequence}

theorem exists_asksAt (run : index.candidates query source = (.ok found, left)) :
    ∃ demand mask point, index.AsksAt query demand mask point ∧ point ∈ index.dataset.points := by
  rcases success : index.check query with other | checked
  · simp only [candidates_apply, success] at run
    cases run
  · rcases exists_asks_of_check success with ⟨demand, exist, asks, _⟩
    rcases Dataset.exists_pointOf demand.indexed with ⟨point, isPoint, located⟩
    exact ⟨demand, checked.mask, point, ⟨exist, asks, located⟩, isPoint⟩

/-- There are candidates if no sample is needed or one can be drawn. -/
theorem AsksAt.exists_found (asked : index.AsksAt query demand mask point)
    (reflexive : mask.isEmpty = false → demand.key.equals demand.key = true)
    (drawn : mask.isEmpty = true → source.IsValid ∧ index.Draws query source) :
    ∃ found left, index.candidates query source = (.ok found, left) := by
  cases none : mask.isEmpty with
  | false => exact ⟨_, _, demand.candidates_eq (reflexive none) none asked.exist asked.asks source⟩
  | true =>
      rcases drawn none with ⟨valid, draws⟩
      rcases RandomSource.exists_start_iff.mpr valid with ⟨generator, started⟩
      have enough := draws demand mask generator asked.asks none started
      rcases Sampling.exists_sample_iff.mpr enough with ⟨⟨rows, left⟩, sampled⟩
      have run := demand.candidates_eq_sample none asked.asks source
      simp only [started, sampled] at run
      exact ⟨_, _, run⟩

/-- A query searches its candidates for the nearest to the point of its key. -/
theorem AsksAt.query_of_found (asked : index.AsksAt query demand mask point)
    (run : index.candidates query source = (.ok found, left)) (evaluations : Nat) :
    index.query query ⟨source, evaluations⟩ =
      ((rerank index.distance index.dataset (index.arrangement.values found) point
          (.ofInt demand.count)).outcome,
        ⟨left, evaluations + (rerank index.distance index.dataset (index.arrangement.values found)
          point (.ofInt demand.count)).cost⟩) := by
  rcases check_of_asks asked.exist asked.asks with ⟨positions, success, _⟩
  let checked : CheckedQuery :=
    ⟨demand.key, positions, mask, demand.halfWindow, demand.count, query.scale.toValue⟩
  have checkRun : Querying.pure (index.check query) ⟨source, evaluations⟩ =
      (.ok checked, ⟨source, evaluations⟩) := congrArg (·, _) success
  have drawRun : Querying.ofDrawing (index.candidatesOf checked) ⟨source, evaluations⟩ =
      (.ok found, ⟨left, evaluations⟩) := by
    have drawn : index.candidatesOf checked source = (.ok found, left) :=
      (candidatesOf_eq success source).trans run
    simp only [Querying.ofDrawing, drawn]
  have pointRun : Querying.pure (index.dataset.pointOf demand.key) ⟨left, evaluations⟩ =
      (.ok point, ⟨left, evaluations⟩) := congrArg (·, _) asked.located
  rw [Index.query, Computation.bind_of_ok checkRun, Index.answer, Computation.bind_of_ok drawRun,
    Computation.bind_of_ok pointRun, Querying.ofCounting,
    steady_rerank index.distance index.dataset point]

/-- What is answered has been found among candidates. -/
theorem exists_found_of_query {state after : QueryState} {kept : List Neighbor}
    (run : index.query query state = (.ok kept, after)) :
    ∃ (demand : Demand index) (mask : CurveMask) (point : Point) (found : KeySequence),
      index.AsksAt query demand mask point ∧ (index.candidates query state.source).1 = .ok found ∧
      (rerank index.distance index.dataset (index.arrangement.values found) point
        (.ofInt demand.count)).outcome = .ok kept := by
  rcases state with ⟨source, evaluations⟩
  rcases candidatesRun : index.candidates query source with ⟨fault | found, left⟩
  · rw [query_of_candidates_fault candidatesRun evaluations] at run
    cases run
  · rcases exists_asksAt candidatesRun with ⟨demand, mask, point, asked, _⟩
    rw [asked.query_of_found candidatesRun evaluations] at run
    exact ⟨demand, mask, point, found, asked, rfl, congrArg Prod.fst run⟩

theorem contains_of_found (reflexive : ∀ key ∈ index.dataset.keys.keys, (key == key) = true)
    (run : index.candidates query source = (.ok found, left)) :
    ∀ key ∈ found.keys, index.dataset.contains key = true := by
  rcases exists_asksAt run with ⟨demand, mask, point, asked, _⟩
  cases none : mask.isEmpty with
  | false =>
      have reflexive := demand.equals_self_of_candidates none asked.exist asked.asks run
      rw [demand.candidates_eq reflexive none asked.exist asked.asks] at run
      cases run
      exact demand.contains_of_mem_curveCandidates asked.exist
  | true =>
      rw [demand.candidates_eq_sample none asked.asks] at run
      split at run
      · cases run
      · split at run
        · cases run
        · cases run
          exact demand.contains_of_mem_sampleCandidates reflexive _

/-- A query is answered if candidates are found for it. -/
theorem exists_answer_of_found (reflexive : ∀ key ∈ index.dataset.keys.keys, (key == key) = true)
    (measured : index.dataset.Measures index.distance)
    (run : index.candidates query source = (.ok found, left)) (evaluations : Nat) :
    ∃ kept after, index.query query ⟨source, evaluations⟩ = (.ok kept, after) := by
  rcases exists_asksAt run with ⟨demand, mask, point, asked, isPoint⟩
  have each : ∀ value ∈ index.arrangement.values found, ∃ scored,
      scoreOf index.distance index.dataset point value = .ok scored := by
    intro value isValue
    rcases List.mem_map.mp ((index.arrangement.values_perm found).mem_iff.mp isValue) with
      ⟨key, isKey, rfl⟩
    exact exists_scoreOf measured isPoint (contains_of_found reflexive run key isKey)
  rcases Outcome.exists_mapM each with ⟨scored, allScored⟩
  rcases rerank_ok demand.positive allScored 0 with ⟨kept, reranked⟩
  exact ⟨kept, _, (asked.query_of_found run evaluations).trans (congrArg (·, _) reranked)⟩

/-- A query that fails leaves everything as it was. -/
theorem state_of_query_error {state after : QueryState}
    (reflexive : ∀ key ∈ index.dataset.keys.keys, (key == key) = true)
    (measured : index.dataset.Measures index.distance)
    (run : index.query query state = (.error fault, after)) : after = state := by
  rcases state with ⟨source, evaluations⟩
  rcases candidatesRun : index.candidates query source with ⟨other | found, left⟩
  · rw [query_of_candidates_fault candidatesRun evaluations] at run
    cases run
    rfl
  · rcases exists_answer_of_found reflexive measured candidatesRun evaluations with
      ⟨kept, left, answered⟩
    rw [answered] at run
    cases run

/-- How many distances were evaluated before makes no difference to an answer. -/
theorem steady_answer (index : Index) (query : CheckedQuery) : (index.answer query).Steady := by
  apply (Querying.steady_ofDrawing _).bind
  intro candidates
  apply (Querying.steady_pure _).bind
  intro point
  exact Querying.steady_ofCounting (steady_rerank _ _ _ _ _)

theorem steady_query (index : Index) (query : Query) : (index.query query).Steady := by
  apply (Querying.steady_pure _).bind
  intro checked
  exact steady_answer index checked

/-- What is asked of a mask of curves is answered in the same way from all sources. -/
theorem query_of_nonempty {mask : CurveMask}
    (selected : CurveMask.ofSelection query.selection = .ok mask) (nonempty : mask.isEmpty = false)
    (source other : RandomSource) (evaluations : Nat) :
    (index.query query ⟨source, evaluations⟩).1 = (index.query query ⟨other, evaluations⟩).1 := by
  rcases exists_candidates_of_nonempty selected nonempty with ⟨fault | found, run⟩
  · rw [query_of_candidates_fault (run source), query_of_candidates_fault (run other)]
  · rcases exists_asksAt (run source) with ⟨demand, mask, point, asked, _⟩
    rw [asked.query_of_found (run source), asked.query_of_found (run other)]

/-- A query leaves the source as its candidates leave it. -/
theorem source_of_query (index : Index) (query : Query) (state : QueryState) :
    (index.query query state).2.source = (index.candidates query state.source).2 := by
  rcases run : index.candidates query state.source with ⟨fault | found, left⟩
  · cases source_of_candidates_error run
    rw [query_of_candidates_fault run state.evaluations]
  · rcases exists_asksAt run with ⟨demand, mask, point, asked, _⟩
    rw [asked.query_of_found run state.evaluations]

end Index

end CurveNeighbors
