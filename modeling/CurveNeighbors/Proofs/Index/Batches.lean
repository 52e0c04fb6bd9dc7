import CurveNeighbors.Proofs.Index.Schedules

/-!
# Batches of queries

The answers of a batch are the answers to its queries, each of which draws from the
generator that is spawned from the seed for its place. So an answer depends on the seed,
on its own key and on the place of this key, but neither on the other keys nor on the
order in which several workers come to the queries. A batch fails with the fault of the
first query that fails, whichever of them was tried first.

All this is said of queries that are fixed beforehand. A mask that can be read only once
is the exception: the query that reads it first has the curves, all others are asked
without any, and which is the first may be up to the workers.
-/

namespace CurveNeighbors

namespace Index

variable {index : Index} {seed workers : Value} {entropy : Nat} {words : List UInt32}
  {keys : List Value} {query : Value → Query} {asked : Value × Nat → Query}

/-- What a query comes to that draws from a source, whatever has been counted before. -/
def ComesTo (index : Index) (query : Query) (source : RandomSource)
    (outcome : Outcome (List Neighbor)) : Prop :=
  ∀ evaluations, (index.query query ⟨source, evaluations⟩).1 = outcome

/-- What comes of the query for a key at a place of a batch. -/
def outcomeAt (index : Index) (words : List UInt32) (asked : Value × Nat → Query)
    (entry : Value × Nat) : Outcome (List Neighbor) :=
  (index.query (asked entry) ⟨.generator (SeedTree.spawn words entry.2), 0⟩).1

theorem comesTo_outcomeAt (index : Index) (words : List UInt32) (asked : Value × Nat → Query)
    (entry : Value × Nat) :
    index.ComesTo (asked entry) (.generator (SeedTree.spawn words entry.2))
      (index.outcomeAt words asked entry) := by
  intro evaluations
  rw [index.steady_query (asked entry)]
  rfl

theorem ComesTo.eq {query : Query} {source : RandomSource} {left right : Outcome (List Neighbor)}
    (isLeft : index.ComesTo query source left) (isRight : index.ComesTo query source right) :
    left = right :=
  (isLeft 0).symm.trans (isRight 0)

theorem steady_batchQuery (index : Index) (words : List UInt32) (place : Nat) (query : Query) :
    (index.batchQuery words place query).Steady := by
  intro evaluations
  simp only [batchQuery, index.steady_query query _ evaluations]
  rfl

theorem queryBatch_outcome (seeded : Seed.ofBatch entropy seed = .ok words) (evaluations : Nat) :
    (index.queryBatch keys query seed workers entropy evaluations).1 =
      checkWorkers workers >>= fun _ =>
        keys.zipIdx.mapM (index.outcomeAt words (askedAt query 0)) := by
  have steady : (keys.zipIdx.mapM fun entry =>
      index.batchQuery words entry.2 (askedAt query 0 entry)).Steady := by
    apply Counting.steady_mapM
    intro entry _
    exact steady_batchQuery index words entry.2 (askedAt query 0 entry)
  rw [queryBatch, Counting.pure_bind, seeded, Outcome.ok_bind, Counting.pure_bind]
  apply bind_congr
  intro done
  rw [steady evaluations]
  exact Counting.outcome_mapM fun entry _ =>
    steady_batchQuery index words entry.2 (askedAt query 0 entry)

/-! ## Answers of batches -/

/-- Each query of a batch is answered by itself. -/
structure Answers (index : Index) (words : List UInt32) (asked : Value × Nat → Query)
    (keys : List Value) (answers : List (List Neighbor)) : Prop where
  length : answers.length = keys.length
  each : ∀ (place : Nat) key, keys[place]? = some key → ∃ answer, answers[place]? = some answer ∧
    index.ComesTo (asked (key, place)) (.generator (SeedTree.spawn words place)) (.ok answer)

/-- A query of a batch fails, and all before it are answered. -/
def FailsFirst (index : Index) (words : List UInt32) (asked : Value × Nat → Query)
    (keys : List Value) (fault : Fault) : Prop :=
  ∃ (place : Nat) (key : Value), keys[place]? = some key ∧
    index.ComesTo (asked (key, place)) (.generator (SeedTree.spawn words place)) (.error fault) ∧
    ∀ earlier < place, ∀ other, keys[earlier]? = some other → ∃ answer,
      index.ComesTo (asked (other, earlier)) (.generator (SeedTree.spawn words earlier))
        (.ok answer)

theorem outcomeAt_eq_iff {entry : Value × Nat} {outcome : Outcome (List Neighbor)} :
    index.outcomeAt words asked entry = outcome ↔
      index.ComesTo (asked entry) (.generator (SeedTree.spawn words entry.2)) outcome := by
  have comes := index.comesTo_outcomeAt words asked entry
  constructor
  · rintro rfl
    exact comes
  · exact comes.eq

theorem mapM_outcomeAt_eq_ok_iff {answers : List (List Neighbor)} :
    keys.zipIdx.mapM (index.outcomeAt words asked) = .ok answers ↔
      index.Answers words asked keys answers := by
  rw [Outcome.mapM_eq_ok_iff, List.length_zipIdx]
  constructor
  · rintro ⟨length, each⟩
    refine ⟨length, ?_⟩
    intro place key isKey
    rcases each place (key, place) (by simp [List.getElem?_zipIdx, isKey]) with
      ⟨answer, isAnswer, found⟩
    exact ⟨answer, isAnswer, outcomeAt_eq_iff.mp found⟩
  · rintro ⟨length, each⟩
    refine ⟨length, ?_⟩
    intro place entry isEntry
    rw [List.getElem?_zipIdx, Nat.zero_add] at isEntry
    rcases Option.map_eq_some_iff.mp isEntry with ⟨key, isKey, rfl⟩
    rcases each place key isKey with ⟨answer, isAnswer, comes⟩
    exact ⟨answer, isAnswer, outcomeAt_eq_iff.mpr comes⟩

theorem mapM_outcomeAt_eq_error_iff {fault : Fault} :
    keys.zipIdx.mapM (index.outcomeAt words asked) = .error fault ↔
      index.FailsFirst words asked keys fault := by
  rw [Outcome.mapM_eq_error_iff]
  constructor
  · rintro ⟨place, entry, isEntry, failed, before⟩
    rw [List.getElem?_zipIdx, Nat.zero_add] at isEntry
    rcases Option.map_eq_some_iff.mp isEntry with ⟨key, isKey, rfl⟩
    refine ⟨place, key, isKey, outcomeAt_eq_iff.mp failed, ?_⟩
    intro earlier below other isOther
    rcases before earlier below (other, earlier) (by simp [List.getElem?_zipIdx, isOther]) with
      ⟨answer, found⟩
    exact ⟨answer, outcomeAt_eq_iff.mp found⟩
  · rintro ⟨place, key, isKey, failed, before⟩
    refine ⟨place, (key, place), by simp [List.getElem?_zipIdx, isKey],
      outcomeAt_eq_iff.mpr failed, ?_⟩
    intro earlier below entry isEntry
    rw [List.getElem?_zipIdx, Nat.zero_add] at isEntry
    rcases Option.map_eq_some_iff.mp isEntry with ⟨other, isOther, rfl⟩
    rcases before earlier below other isOther with ⟨answer, comes⟩
    exact ⟨answer, outcomeAt_eq_iff.mpr comes⟩

theorem answers_of_queryBatch (seeded : Seed.ofBatch entropy seed = .ok words)
    {answers : List (List Neighbor)} {evaluations left : Nat}
    (run : index.queryBatch keys query seed workers entropy evaluations = (.ok answers, left)) :
    index.Answers words (askedAt query 0) keys answers := by
  have success : (index.queryBatch keys query seed workers entropy evaluations).1 =
      .ok answers := by
    rw [run]
  rw [queryBatch_outcome seeded] at success
  rcases Outcome.bind_eq_ok.mp success with ⟨_, _, each⟩
  exact mapM_outcomeAt_eq_ok_iff.mp each

namespace Answers

variable {answers more : List (List Neighbor)} {others : List Value} {place : Nat}

/-- A key at a place has one answer, whatever the other keys. -/
theorem agree (isBatch : index.Answers words asked keys answers)
    (isOther : index.Answers words asked others more) (same : others[place]? = keys[place]?) :
    more[place]? = answers[place]? := by
  cases found : keys[place]? with
  | none =>
      rw [found] at same
      rw [List.getElem?_eq_none_iff] at found same
      rw [List.getElem?_eq_none_iff.mpr (isBatch.length.trans_le found),
        List.getElem?_eq_none_iff.mpr (isOther.length.trans_le same)]
  | some key =>
      rcases isBatch.each place key found with ⟨answer, isAnswer, comes⟩
      rcases isOther.each place key (same.trans found) with ⟨other, isOther, alsoComes⟩
      cases comes.eq alsoComes
      rw [isAnswer, isOther]

/-- The first keys have the first answers. -/
theorem take (isBatch : index.Answers words asked keys answers) (length : Nat) :
    index.Answers words asked (keys.take length) (answers.take length) := by
  refine ⟨by rw [List.length_take, List.length_take, isBatch.length], ?_⟩
  intro place key isKey
  rw [List.getElem?_take] at isKey
  split at isKey
  · next below =>
      rcases isBatch.each place key isKey with ⟨answer, isAnswer, comes⟩
      exact ⟨answer, (List.getElem?_take_of_lt below).trans isAnswer, comes⟩
  · cases isKey

/-- What is asked of a mask of curves is answered as by a plain query. -/
theorem comesTo_of_nonempty (isBatch : index.Answers words asked keys answers) {key : Value}
    {mask : CurveMask} (isKey : keys[place]? = some key)
    (selected : CurveMask.ofSelection (asked (key, place)).selection = .ok mask)
    (nonempty : mask.isEmpty = false) :
    ∃ answer, answers[place]? = some answer ∧
      ∀ source, index.ComesTo (asked (key, place)) source (.ok answer) := by
  rcases isBatch.each place key isKey with ⟨answer, isAnswer, comes⟩
  refine ⟨answer, isAnswer, ?_⟩
  intro source evaluations
  rw [← query_of_nonempty selected nonempty (.generator (SeedTree.spawn words place))]
  exact comes evaluations

end Answers

end Index

namespace Workload

/-- The tasks of a batch before any of them is begun. -/
def ofBatch (words : List UInt32) (keys : List Value) (asked : Value × Nat → Query)
    (evaluations : Nat) : Workload where
  tasks := keys.zipIdx.map fun entry =>
    .waiting (asked entry) (.generator (SeedTree.spawn words entry.2))
  evaluations := evaluations

theorem mapM_result_ofBatch (index : Index) (words : List UInt32) (keys : List Value)
    (asked : Value × Nat → Query) (evaluations : Nat) :
    ((ofBatch words keys asked evaluations).tasks.mapM fun task => (task.result index).1) =
      keys.zipIdx.mapM (index.outcomeAt words asked) :=
  List.mapM_map

/-- A task that is finished has come to what its query comes to by itself, and has left the source
of its query alone as that does. -/
theorem comesTo_of_finished {index : Index} {words : List UInt32} {keys : List Value}
    {asked : Value × Nat → Query} {evaluations place : Nat} {schedule : List Nat}
    {outcome : Outcome (List Neighbor)} {source : RandomSource}
    (finished : ((ofBatch words keys asked evaluations).run index schedule).tasks[place]? =
      some (.finished outcome source)) :
    ∃ key, keys[place]? = some key ∧
      index.ComesTo (asked (key, place)) (.generator (SeedTree.spawn words place)) outcome ∧
      (index.candidates (asked (key, place)) (.generator (SeedTree.spawn words place))).2 =
        source := by
  have found : (ofBatch words keys asked evaluations).tasks[place]?.map (Task.result index) =
      some (outcome, source) := by
    rw [← List.getElem?_map, ← map_result_run index _ schedule, List.getElem?_map, finished]
    rfl
  simp only [ofBatch, List.getElem?_map, List.getElem?_zipIdx, Option.map_map,
    Nat.zero_add] at found
  rcases Option.map_eq_some_iff.mp found with ⟨key, isKey, result⟩
  rcases Prod.mk.inj result with ⟨isOutcome, isSource⟩
  refine ⟨key, isKey, ?_, (index.source_of_query (asked (key, place)) _).symm.trans isSource⟩
  intro count
  rw [index.steady_query (asked (key, place))]
  exact isOutcome

end Workload

/-! ## Batches -/

/-- What comes of a batch of queries is an outcome, in whatever order several workers come to
them. -/
structure Index.BatchComesTo (index : Index) (words : List UInt32) (asked : Value × Nat → Query)
    (keys : List Value) (evaluations : Nat) (outcome : Outcome (List (List Neighbor))) : Prop where
  answered : ∀ answers, outcome = .ok answers ↔ index.Answers words asked keys answers
  failed : ∀ fault, outcome = .error fault ↔ index.FailsFirst words asked keys fault
  finished : ∀ (schedule : List Nat) (place : Nat) ended source,
    ((Workload.ofBatch words keys asked evaluations).run index schedule).tasks[place]? =
      some (.finished ended source) →
    ∃ key, keys[place]? = some key ∧
      index.ComesTo (asked (key, place)) (.generator (SeedTree.spawn words place)) ended ∧
      (index.candidates (asked (key, place)) (.generator (SeedTree.spawn words place))).2 = source
  collected : ∀ schedule ended, Workload.collected
      ((Workload.ofBatch words keys asked evaluations).run index schedule).tasks = some ended →
    ended = outcome
  finishes : ∀ schedule, ∃ more, Workload.collected
      ((Workload.ofBatch words keys asked evaluations).run index (schedule ++ more)).tasks =
    some outcome

theorem Index.batchComesTo (index : Index) (words : List UInt32) (asked : Value × Nat → Query)
    (keys : List Value) (evaluations : Nat) :
    index.BatchComesTo words asked keys evaluations
      (keys.zipIdx.mapM (index.outcomeAt words asked)) := by
  have collects (schedule : List Nat) :=
    Workload.collected_run index (.ofBatch words keys asked evaluations) schedule
  simp only [Workload.mapM_result_ofBatch] at collects
  exact {
    answered := fun answers => Index.mapM_outcomeAt_eq_ok_iff
    failed := fun fault => Index.mapM_outcomeAt_eq_error_iff
    finished := fun schedule place ended source => Workload.comesTo_of_finished
    collected := fun schedule => (collects schedule).1
    finishes := fun schedule => (collects schedule).2 }

/-- Where the mask can be read again, it makes no difference which query reads it first. -/
theorem Index.askedAt_of_lasting {query : Value → Query} {entry : Value × Nat}
    (lasting : (query entry.1).selection.reread = (query entry.1).selection) (first : Nat) :
    Index.askedAt query first entry = query entry.1 := by
  rw [Index.askedAt]
  split
  · rfl
  · rw [Query.again, lasting]

/-- A query for two neighbours from the windows on two curves. -/
def queryOnBothCurves (key : Value) : Query :=
  ⟨key, .value (.ofInt 3), .ofInt 1, .ofInt 2, .null⟩

end CurveNeighbors
