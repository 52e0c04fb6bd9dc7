import CurveNeighbors.Index.Session
import CurveNeighbors.Proofs.Index.Answers
import CurveNeighbors.Proofs.Index.QueryStates

/-!
# Generators that are shared

Calls that share a generator take it up where the one before left it. A search, which is
a call for the candidates of a query or for its answer, draws only if it selects no curves
and succeeds, and then both calls draw the same: the answer is found among the candidates
without any further draws. All other searches go unnoticed. What comes of the searches
before and after is what would have come of them if such a search had not been made.

Generators are compared by what is found under their names, since the order in which
they are kept shows nowhere.
-/

namespace CurveNeighbors

/-! ## Generators under names -/

namespace Generators

/-- The same generators are found under all names. -/
def Alike (left right : Generators) : Prop :=
  ∀ name, left.lookup name = right.lookup name

theorem lookup_filter_bne (states : List (String × MersenneTwister)) {name other : String}
    (different : other ≠ name) :
    (states.filter (·.1 != name)).lookup other = states.lookup other := by
  induction states with
  | nil => rfl
  | cons entry states ih =>
      rcases entry with ⟨found, state⟩
      rw [List.filter_cons]
      split
      · rw [List.lookup_cons, List.lookup_cons, ih]
      · next dropped =>
          have isName : found = name := by simpa using dropped
          rw [ih, List.lookup_cons, isName, beq_false_of_ne different]

theorem lookup_store (generators : Generators) (name : String) (state : MersenneTwister)
    (other : String) :
    (generators.store name (.generator state)).lookup other =
      if other = name then .generator state else generators.lookup other := by
  simp only [store, lookup, List.lookup_cons]
  by_cases same : other = name
  · rw [if_pos same, same, beq_self_eq_true]
  · rw [if_neg same, beq_false_of_ne same]
    dsimp only
    rw [lookup_filter_bne _ same]

variable {left right : Generators}

theorem Alike.resolve (alike : left.Alike right) (choice : SourceChoice) :
    left.resolve choice = right.resolve choice := by
  cases choice with
  | own source => rfl
  | shared name => exact alike name

theorem Alike.keep (alike : left.Alike right) (choice : SourceChoice) (source : RandomSource) :
    (left.keep choice source).Alike (right.keep choice source) := by
  cases choice with
  | own _ => exact alike
  | shared name =>
      cases source with
      | absent | seed _ => exact alike
      | generator state =>
          intro other
          simp only [Generators.keep, lookup_store, alike other]

/-- Keeping a source that has not changed changes nothing. -/
theorem keep_resolve (generators : Generators) (choice : SourceChoice) :
    (generators.keep choice (generators.resolve choice)).Alike generators := by
  cases choice with
  | own _ => exact fun _ => rfl
  | shared name =>
      intro other
      simp only [Generators.keep, Generators.resolve]
      rcases found : generators.lookup name with _ | _ | state
      · rfl
      · rfl
      · rw [lookup_store]
        split
        · next same => rw [same, found]
        · rfl

end Generators

/-! ## Searches -/

/-- A call for the candidates of a query or, if these are to be ranked, for its answer. -/
structure Search where
  query : Query
  choice : SourceChoice
  ranked : Bool

namespace Search

def call (search : Search) : Call :=
  if search.ranked then .query search.query search.choice
  else .candidates search.query search.choice

/-- What a search computes with an index. -/
def computation (search : Search) (index : Index) : Querying Answer :=
  if search.ranked then .neighbors <$> index.query search.query
  else .candidates <$> Querying.ofDrawing (index.candidates search.query)

variable {index : Index} {query : Query} {choice : SourceChoice} {ranked : Bool}

theorem computation_ranked (index : Index) (query : Query) (choice : SourceChoice)
    (state : QueryState) :
    Search.computation ⟨query, choice, true⟩ index state =
      ((index.query query state).1.map .neighbors, (index.query query state).2) :=
  Querying.map_apply ..

theorem computation_unranked (index : Index) (query : Query) (choice : SourceChoice)
    (state : QueryState) :
    Search.computation ⟨query, choice, false⟩ index state =
      ((index.candidates query state.source).1.map .candidates,
        ⟨(index.candidates query state.source).2, state.evaluations⟩) :=
  Querying.map_apply ..

theorem steady_computation (search : Search) (index : Index) :
    (search.computation index).Steady := by
  rw [computation]
  split
  · exact (index.steady_query search.query).map _
  · exact (Querying.steady_ofDrawing _).map _

/-- All searches leave the source as the candidates leave it. -/
theorem source_of_computation (search : Search) (index : Index) (state : QueryState) :
    (search.computation index state).2.source =
      (index.candidates search.query state.source).2 := by
  rcases search with ⟨query, choice, _ | _⟩
  · rw [computation_unranked]
  · rw [computation_ranked, Index.source_of_query]

/-- On a mask of curves a search comes to the same from all sources, and leaves them as they are. -/
theorem exists_outcome_of_nonempty {mask : CurveMask}
    (selected : CurveMask.ofSelection query.selection = .ok mask) (nonempty : mask.isEmpty = false)
    (ranked : Bool) :
    ∃ outcome, ∀ choice state,
      (Search.computation ⟨query, choice, ranked⟩ index state).1 = outcome ∧
      (Search.computation ⟨query, choice, ranked⟩ index state).2.source = state.source := by
  rcases index.exists_candidates_of_nonempty selected nonempty with ⟨found, run⟩
  refine ⟨(Search.computation ⟨query, .own .absent, ranked⟩ index ⟨.absent, 0⟩).1, ?_⟩
  intro choice state
  refine ⟨?_, by rw [source_of_computation, run state.source]⟩
  cases ranked with
  | false => rw [computation_unranked, computation_unranked, run state.source, run .absent]
  | true =>
      rw [computation_ranked, computation_ranked,
        index.query_of_nonempty selected nonempty state.source .absent state.evaluations,
        index.steady_query query .absent state.evaluations]

/-- A search that fails leaves the source as it was. -/
theorem source_of_failure (reflexive : ∀ key ∈ index.dataset.keys.keys, (key == key) = true)
    (measured : index.dataset.Measures index.distance) {state : QueryState} {fault : Fault}
    (failure : (Search.computation ⟨query, choice, ranked⟩ index state).1 = .error fault) :
    (Search.computation ⟨query, choice, ranked⟩ index state).2.source = state.source := by
  cases ranked with
  | false =>
      rw [computation_unranked] at failure ⊢
      rcases run : index.candidates query state.source with ⟨other | found, left⟩
      · exact Index.source_of_candidates_error run
      · rw [run] at failure
        cases failure
  | true =>
      rw [computation_ranked] at failure ⊢
      rcases run : index.query query state with ⟨other | answer, left⟩
      · exact congrArg _ (Index.state_of_query_error reflexive measured run)
      · rw [run] at failure
        cases failure

end Search

/-! ## Sessions -/

namespace Session

variable {session left right : Session}

/-- Sessions with one index whose generators are alike. -/
structure Alike (left right : Session) : Prop where
  index : left.index = right.index
  generators : left.generators.Alike right.generators

/-- What a search takes up from a session. -/
def stateFor (session : Session) (choice : SourceChoice) : QueryState :=
  ⟨session.generators.resolve choice, session.evaluations⟩

theorem perform_call (session : Session) (search : Search) :
    session.perform search.call =
      ((search.computation session.index (session.stateFor search.choice)).1,
        { session with
          generators := session.generators.keep search.choice
            (search.computation session.index (session.stateFor search.choice)).2.source
          evaluations :=
            (search.computation session.index (session.stateFor search.choice)).2.evaluations }) := by
  rcases search with ⟨query, choice, _ | _⟩ <;> rfl

/-- A search is told nothing but what its source is. -/
theorem Alike.perform (alike : left.Alike right) (search : Search) :
    (left.perform search.call).1 = (right.perform search.call).1 ∧
      (left.perform search.call).2.Alike (right.perform search.call).2 := by
  rw [perform_call, perform_call]
  simp only [stateFor, alike.index, alike.generators.resolve,
    search.steady_computation right.index _ left.evaluations,
    search.steady_computation right.index _ right.evaluations, true_and]
  exact ⟨rfl, alike.generators.keep _ _⟩

/-- What comes of several searches. -/
def outcomes (session : Session) (searches : List Search) : List (Outcome Answer) :=
  (session.run (searches.map Search.call)).1

/-- What is left of a session when searches have been made. -/
def after (session : Session) (searches : List Search) : Session :=
  (session.run (searches.map Search.call)).2

theorem outcomes_cons (session : Session) (search : Search) (searches : List Search) :
    session.outcomes (search :: searches) =
      (session.perform search.call).1 :: (session.perform search.call).2.outcomes searches :=
  rfl

theorem after_cons (session : Session) (search : Search) (searches : List Search) :
    session.after (search :: searches) = (session.perform search.call).2.after searches :=
  rfl

theorem outcomes_append (session : Session) (before searches : List Search) :
    session.outcomes (before ++ searches) =
      session.outcomes before ++ (session.after before).outcomes searches := by
  induction before generalizing session with
  | nil => rfl
  | cons search before ih =>
      rw [List.cons_append, outcomes_cons, ih, outcomes_cons, after_cons, List.cons_append]

theorem after_append (session : Session) (before searches : List Search) :
    session.after (before ++ searches) = (session.after before).after searches := by
  induction before generalizing session with
  | nil => rfl
  | cons search before ih => rw [List.cons_append, after_cons, ih, after_cons]

theorem length_outcomes (session : Session) (searches : List Search) :
    (session.outcomes searches).length = searches.length := by
  induction searches generalizing session with
  | nil => rfl
  | cons search searches ih =>
      rw [outcomes_cons, List.length_cons, ih, List.length_cons]

theorem index_after (session : Session) (searches : List Search) :
    (session.after searches).index = session.index := by
  induction searches generalizing session with
  | nil => rfl
  | cons search searches ih =>
      rw [after_cons, ih, perform_call]

/-- Searches come to the same in sessions that are alike. -/
theorem Alike.searches (alike : left.Alike right) (searches : List Search) :
    left.outcomes searches = right.outcomes searches ∧
      (left.after searches).Alike (right.after searches) := by
  induction searches generalizing left right with
  | nil => exact ⟨rfl, alike⟩
  | cons search searches ih =>
      rcases alike.perform search with ⟨same, next⟩
      rcases ih next with ⟨others, last⟩
      exact ⟨by rw [outcomes_cons, outcomes_cons, same, others], last⟩

theorem getElem?_outcomes (session : Session) (before : List Search) (search : Search)
    (later : List Search) :
    (session.outcomes (before ++ search :: later))[before.length]? =
      some (search.computation session.index
        ((session.after before).stateFor search.choice)).1 := by
  rw [outcomes_append, outcomes_cons, ← session.length_outcomes before,
    List.getElem?_append_right (le_refl _), Nat.sub_self, List.getElem?_cons_zero, perform_call,
    index_after]

/-! ## Searches that go unnoticed -/

variable {before later : List Search} {query : Query} {choice : SourceChoice} {ranked : Bool}

/-- A search among others has an outcome, and all else is as it would be without this search. -/
structure PassesOver (session : Session) (before : List Search) (search : Search)
    (later : List Search) (outcome : Outcome Answer) : Prop where
  outcome : (session.outcomes (before ++ search :: later))[before.length]? = some outcome
  others : (session.outcomes (before ++ search :: later)).eraseIdx before.length =
    session.outcomes (before ++ later)
  generators : (session.after (before ++ search :: later)).generators.Alike
    (session.after (before ++ later)).generators

/-- A search that leaves the generators as they were goes unnoticed. -/
theorem passesOver_of_keep {search : Search} {outcome : Outcome Answer} {state : QueryState}
    (run : search.computation session.index ((session.after before).stateFor search.choice) =
      (outcome, state))
    (same : ((session.after before).generators.keep search.choice state.source).Alike
      (session.after before).generators) :
    session.PassesOver before search later outcome := by
  have alike : ((session.after before).perform search.call).2.Alike (session.after before) := by
    rw [perform_call, index_after, run]
    exact ⟨(index_after session before).symm, same⟩
  rcases alike.searches later with ⟨outcomes, last⟩
  refine ⟨?_, ?_, ?_⟩
  · rw [getElem?_outcomes, run]
  · rw [outcomes_append, outcomes_append, outcomes_cons, ← session.length_outcomes before,
      List.eraseIdx_append_of_length_le (le_refl _), Nat.sub_self, List.eraseIdx_cons_zero,
      outcomes]
  · rw [after_append, after_append, after_cons]
    exact last.generators

theorem passesOver_of_source {search : Search} {outcome : Outcome Answer} {state : QueryState}
    (run : search.computation session.index ((session.after before).stateFor search.choice) =
      (outcome, state))
    (same : state.source = (session.after before).generators.resolve search.choice) :
    session.PassesOver before search later outcome := by
  apply passesOver_of_keep run
  rw [same]
  exact Generators.keep_resolve _ _

/-- A search on a mask of curves goes unnoticed, and the same comes of it whatever source it is
given. -/
theorem exists_passesOver_of_nonempty (session : Session) {mask : CurveMask}
    (selected : CurveMask.ofSelection query.selection = .ok mask) (nonempty : mask.isEmpty = false)
    (ranked : Bool) :
    ∃ outcome, ∀ choice before later,
      session.PassesOver before ⟨query, choice, ranked⟩ later outcome := by
  rcases Search.exists_outcome_of_nonempty selected nonempty ranked with ⟨outcome, each⟩
  refine ⟨outcome, ?_⟩
  intro choice before later
  rcases each choice ((session.after before).stateFor choice) with ⟨isOutcome, same⟩
  exact passesOver_of_source (Prod.ext isOutcome rfl) same

/-- A search that fails goes unnoticed. -/
theorem passesOver_of_error {fault : Fault}
    (reflexive : ∀ key ∈ session.index.dataset.keys.keys, (key == key) = true)
    (measured : session.index.dataset.Measures session.index.distance)
    (failure : (session.outcomes (before ++ ⟨query, choice, ranked⟩ :: later))[before.length]? =
      some (.error fault)) :
    session.PassesOver before ⟨query, choice, ranked⟩ later (.error fault) := by
  rw [getElem?_outcomes] at failure
  have failed := Option.some.inj failure
  exact passesOver_of_source (Prod.ext failed rfl)
    (Search.source_of_failure reflexive measured failed)

/-- A search with a source of its own goes unnoticed, and the same comes of it wherever it is
made. -/
theorem exists_passesOver_of_own (session : Session) (query : Query) (source : RandomSource)
    (ranked : Bool) :
    ∃ outcome, ∀ before later,
      session.PassesOver before ⟨query, .own source, ranked⟩ later outcome := by
  refine ⟨(Search.computation ⟨query, .own source, ranked⟩ session.index ⟨source, 0⟩).1, ?_⟩
  intro before later
  have run := Search.steady_computation ⟨query, .own source, ranked⟩ session.index source
    (session.after before).evaluations
  exact passesOver_of_keep run fun _ => rfl

/-! ## Answers and candidates -/

/-- What a query keeps of the candidates that are found for it: as many of the nearest to its point
as it asks for. -/
structure Keeps (session : Session) (demand : Demand session.index) (point : Point)
    (found : KeySequence) (kept : List Neighbor) : Prop where
  reranked : (rerank session.index.distance session.index.dataset
    (session.index.arrangement.values found) point (.ofInt demand.count)).outcome = .ok kept
  nearest : ∃ scored,
    found.values.mapM (scoreOf session.index.distance session.index.dataset point) = .ok scored ∧
    ((∀ candidate ∈ scored, candidate.isUndefined = false) →
      FoundByBoth session.index.distance session.index.dataset point demand.count found.values
        kept ∧
      (nearestByScan session.index.distance session.index.dataset found.values point
        (.ofInt demand.count)).outcome = .ok kept)

theorem keeps_of_reranked {demand : Demand session.index} {point : Point} {found : KeySequence}
    {kept : List Neighbor}
    (reranked : (rerank session.index.distance session.index.dataset
      (session.index.arrangement.values found) point (.ofInt demand.count)).outcome = .ok kept) :
    session.Keeps demand point found kept := by
  have perm := session.index.arrangement.values_perm found
  rcases exists_scored_of_reranked demand.positive reranked with ⟨arrived, arrivedEach, _⟩
  rcases Outcome.exists_mapM_of_perm perm.symm arrivedEach with ⟨scored, each, _⟩
  refine ⟨reranked, scored, each, ?_⟩
  intro defined
  rcases exists_foundByBoth demand.positive each defined with ⟨nearest, byBoth⟩
  rcases byBoth.withoutRepeats (List.pairwise_map.mpr found.distinct) with ⟨scanned, _, anyOrder⟩
  cases reranked.symm.trans (anyOrder _ perm)
  exact ⟨byBoth, scanned⟩

/-- A search among others has an answer that is found among the candidates, and all else is as if
these had been asked for in its place. -/
structure RanksCandidates (session : Session) (before : List Search) (query : Query)
    (choice : SourceChoice) (later : List Search) (found : KeySequence) : Prop where
  outcomes : (session.outcomes (before ++ ⟨query, choice, true⟩ :: later)).set before.length
      (.ok (.candidates found)) =
    session.outcomes (before ++ ⟨query, choice, false⟩ :: later)
  generators : (session.after (before ++ ⟨query, choice, true⟩ :: later)).generators.Alike
    (session.after (before ++ ⟨query, choice, false⟩ :: later)).generators

/-- The two searches for a query leave the generators alike. -/
theorem alike_perform (session : Session) (query : Query) (choice : SourceChoice) :
    (session.perform (Search.call ⟨query, choice, true⟩)).2.Alike
      (session.perform (Search.call ⟨query, choice, false⟩)).2 := by
  rw [perform_call, perform_call]
  refine ⟨rfl, ?_⟩
  rw [Search.source_of_computation, Search.source_of_computation]
  exact fun _ => rfl

theorem ranksCandidates_of_found {found : KeySequence}
    (run : (session.index.candidates query
      ((session.after before).generators.resolve choice)).1 = .ok found) :
    session.RanksCandidates before query choice later found := by
  rcases ((session.after before).alike_perform query choice).searches later with ⟨outcomes, last⟩
  have unranked : ((session.after before).perform (Search.call ⟨query, choice, false⟩)).1 =
      .ok (.candidates found) := by
    rw [perform_call, index_after, Search.computation_unranked, stateFor, run]
    rfl
  constructor
  · rw [outcomes_append, outcomes_append, outcomes_cons, outcomes_cons,
      ← session.length_outcomes before, List.set_append_right _ _ (le_refl _), Nat.sub_self,
      List.set_cons_zero, outcomes, unranked]
  · rw [after_append, after_append, after_cons, after_cons]
    exact last.generators

/-- A search without curves takes a sample from a shared generator. What is left of the generator
after that is found under its name by the next search. -/
structure Draws (session : Session) (before : List Search) (query : Query) (name : String)
    (demand : Demand session.index) (found : KeySequence) (state left : MersenneTwister) :
    Prop where
  start : (session.after before).generators.lookup name = .generator state
  sample : ∃ rows, found = demand.sampleCandidates rows ∧
    Sampling.IsSample session.index.dataset.size demand.sampleSize state rows left
  advanced : ∃ outputs, min demand.sampleSize (session.index.dataset.size - 1) ≤ outputs ∧
    left = state.after outputs
  finish : ∀ ranked, (session.after (before ++ [⟨query, .shared name, ranked⟩])).generators.lookup
    name = .generator left

theorem exists_draws_of_found {demand : Demand session.index} {mask : CurveMask} {name : String}
    {found : KeySequence} (none : mask.isEmpty = true) (asks : query.Asks demand mask)
    (run : (session.index.candidates query
      ((session.after before).generators.resolve (.shared name))).1 = .ok found) :
    ∃ state left, session.Draws before query name demand found state left := by
  rw [Generators.resolve] at run
  rcases started : (session.after before).generators.lookup name with _ | _ | state
  · rw [started, demand.candidates_eq_sample none asks] at run
    cases run
  · rw [Generators.lookup] at started
    split at started <;> cases started
  · have drawn := demand.candidates_eq_sample none asks (.generator state)
    rw [started] at run
    rcases sampled : Sampling.sample session.index.dataset.size demand.sampleSize state with
      _ | ⟨rows, left⟩
    · simp only [RandomSource.start, sampled] at drawn
      rw [drawn] at run
      cases run
    · simp only [RandomSource.start, sampled] at drawn
      rw [drawn] at run
      cases run
      have isSample := Sampling.isSample_of_sample
        (Nat.pos_of_ne_zero session.index.nonempty) demand.sampleSize_le.1 sampled
      refine ⟨state, left, started, ⟨rows, rfl, isSample⟩, isSample.exists_after, ?_⟩
      intro ranked
      have advanced : (Search.computation ⟨query, .shared name, ranked⟩ session.index
          ((session.after before).stateFor (.shared name))).2.source = .generator left := by
        rw [Search.source_of_computation, stateFor, Generators.resolve, started, drawn]
        rfl
      rw [after_append, after_cons, perform_call, index_after, advanced]
      exact (Generators.lookup_store ..).trans (if_pos rfl)

theorem exists_ranksCandidates {answer : Answer}
    (success : (session.outcomes (before ++ ⟨query, choice, true⟩ :: later))[before.length]? =
      some (.ok answer)) :
    ∃ demand mask point found kept, session.index.AsksAt query demand mask point ∧
      session.Keeps demand point found kept ∧ answer = .neighbors kept ∧
      session.RanksCandidates before query choice later found ∧
      (mask.isEmpty = true → ∀ name, choice = .shared name →
        ∃ state left, session.Draws before query name demand found state left) := by
  rw [getElem?_outcomes, Search.computation_ranked] at success
  rcases run : session.index.query query ((session.after before).stateFor choice) with
    ⟨fault | kept, left⟩
  · rw [run] at success
    cases success
  · rw [run] at success
    cases success
    rcases Index.exists_found_of_query run with ⟨demand, mask, point, found, asked, drawn, reranked⟩
    refine ⟨demand, mask, point, found, kept, asked, keeps_of_reranked reranked, rfl,
      ranksCandidates_of_found drawn, ?_⟩
    rintro none name rfl
    exact exists_draws_of_found none asked.asks drawn

end Session

/-- What searches that share generators do to each other: nothing, unless one of them draws. Then
the generator is left behind what was drawn. -/
theorem searches_share_generators (session : Session)
    (reflexive : ∀ key ∈ session.index.dataset.keys.keys, (key == key) = true)
    (measured : session.index.dataset.Measures session.index.distance) (query : Query) :
    (∀ mask ranked, CurveMask.ofSelection query.selection = .ok mask → mask.isEmpty = false →
      ∃ outcome, ∀ choice before later,
        session.PassesOver before ⟨query, choice, ranked⟩ later outcome) ∧
    (∀ choice ranked before later fault,
      (session.outcomes (before ++ ⟨query, choice, ranked⟩ :: later))[before.length]? =
        some (.error fault) →
      session.PassesOver before ⟨query, choice, ranked⟩ later (.error fault)) ∧
    (∀ choice before later answer,
      (session.outcomes (before ++ ⟨query, choice, true⟩ :: later))[before.length]? =
        some (.ok answer) →
      ∃ demand mask point found kept, session.index.AsksAt query demand mask point ∧
        session.Keeps demand point found kept ∧ answer = .neighbors kept ∧
        session.RanksCandidates before query choice later found ∧
        (mask.isEmpty = true → ∀ name, choice = .shared name →
          ∃ state left, session.Draws before query name demand found state left)) ∧
    ∀ source ranked, ∃ outcome, ∀ before later,
      session.PassesOver before ⟨query, .own source, ranked⟩ later outcome := by
  refine ⟨?_, ?_, ?_, ?_⟩
  · intro mask ranked selected nonempty
    exact session.exists_passesOver_of_nonempty selected nonempty ranked
  · intro choice ranked before later fault failure
    exact Session.passesOver_of_error reflexive measured failure
  · intro choice before later answer success
    exact Session.exists_ranksCandidates success
  · intro source ranked
    exact session.exists_passesOver_of_own query source ranked

/-- The sample of a single row out of two that is drawn from a shared generator. -/
theorem searches_share_generators_two_keys :
    ∃ (session : Session) (query : Query) (kept : List Neighbor) (found : KeySequence)
      (state : MersenneTwister) (outputs : Nat),
      CurveMask.ofSelection query.selection = .ok .empty ∧
      session.outcomes [⟨query, .shared "draws", true⟩] = [.ok (.neighbors kept)] ∧
      session.RanksCandidates [] query (.shared "draws") [] found ∧
      session.generators.lookup "draws" = .generator state ∧ 0 < outputs ∧
      (session.after [⟨query, .shared "draws", true⟩]).generators.lookup "draws" =
        .generator (state.after outputs) := by
  let query : Query := ⟨.ofInt 2, .value (.ofInt 0), .ofInt 1, .ofInt 1, .null⟩
  let demand : Demand Demand.twoKeys :=
    ⟨Key.ofInt 2, 1, 1, none, by decide, by decide, by decide⟩
  have asks : query.Asks demand .empty := ⟨rfl, rfl, rfl, rfl, rfl, rfl⟩
  have reflexive : ∀ key ∈ Demand.twoKeys.dataset.keys.keys, (key == key) = true := by decide
  have measured : Demand.twoKeys.dataset.Measures .hamming := by
    intro left isLeft right isRight
    simp only [Demand.twoKeys, List.mem_cons, List.not_mem_nil, or_false] at isLeft isRight
    rcases isLeft with rfl | rfl <;> rcases isRight with rfl | rfl <;> exact ⟨_, rfl⟩
  have fromAny (state : MersenneTwister) : ∃ kept found outputs,
      Session.outcomes ⟨Demand.twoKeys, ⟨[("draws", state)]⟩, 0⟩
        [⟨query, .shared "draws", true⟩] = [.ok (.neighbors kept)] ∧
      Session.RanksCandidates ⟨Demand.twoKeys, ⟨[("draws", state)]⟩, 0⟩ [] query
        (.shared "draws") [] found ∧ 0 < outputs ∧
      (Session.after ⟨Demand.twoKeys, ⟨[("draws", state)]⟩, 0⟩
        [⟨query, .shared "draws", true⟩]).generators.lookup "draws" =
          .generator (state.after outputs) := by
    rcases Sampling.exists_sample_two state with ⟨row, left, run⟩
    have drawn : Sampling.sample Demand.twoKeys.dataset.size demand.sampleSize state =
        some ([row], left) := run
    have found := Demand.candidates_eq_sample rfl asks (.generator state)
    simp only [RandomSource.start, drawn] at found
    rcases Index.exists_answer_of_found reflexive measured found 0 with ⟨kept, after, answered⟩
    have outcomes : Session.outcomes ⟨Demand.twoKeys, ⟨[("draws", state)]⟩, 0⟩
        [⟨query, .shared "draws", true⟩] = [.ok (.neighbors kept)] := by
      rw [Session.outcomes_cons, Session.perform_call, Search.computation_ranked]
      exact congrArg (fun run => [run.1.map Answer.neighbors]) answered
    have success := congrArg (·[0]?) outcomes
    rcases (searches_share_generators ⟨Demand.twoKeys, ⟨[("draws", state)]⟩, 0⟩ reflexive measured
      query).2.2.1 (.shared "draws") [] [] (.neighbors kept) success with
      ⟨⟨_, halfWindow, count, scale, _, _, _⟩, mask, _, candidates, _, asked, _, _, ranks, draws⟩
    rcases asked.asks with ⟨_, ⟨⟩, ⟨⟩, ⟨⟩, isScale, _⟩
    rcases scale with _ | factor
    rotate_left
    · cases isScale
    rcases draws rfl "draws" rfl with ⟨start, final, started, _, ⟨outputs, enough, rfl⟩, ended⟩
    cases started
    exact ⟨kept, candidates, outputs, outcomes, ranks, enough, ended true⟩
  rcases fromAny (.ofSeed 7) with ⟨kept, found, outputs, outcomes, ranks, some_outputs, ended⟩
  exact ⟨_, query, kept, found, _, outputs, rfl, outcomes, ranks, rfl, some_outputs, ended⟩

end CurveNeighbors
