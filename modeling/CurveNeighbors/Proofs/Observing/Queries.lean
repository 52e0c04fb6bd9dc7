import CurveNeighbors.Index.Session
import CurveNeighbors.Proofs.Index.Batches
import CurveNeighbors.Proofs.Observing.Searches
import Mathlib.Algebra.Ring.Nat

/-!
# Queries with an observed distance

A query evaluates the distance when it searches its candidates, and at no other time. An
observer that notes the comparisons therefore finds one for each candidate when the query is
answered: the point of the key that is asked about with the point of the candidate. As many
are counted, whatever the number of neighbours that are kept. In a batch every query adds the
number of its own candidates.
-/

namespace CurveNeighbors

open CurveNeighbors.Computation

namespace Observed

variable {σ τ α : Type}

/-- A computation that draws, with the observer looking on. -/
def ofDrawing (drawing : Drawing α) : ExceptT Fault (StateM (RandomSource × σ)) α :=
  fun state => ((drawing state.1).1, (drawing state.1).2, state.2)

/-- A computation that draws nothing. -/
def ofObserving (computation : ExceptT Fault (StateM σ) α) :
    ExceptT Fault (StateM (RandomSource × σ)) α :=
  fun state => ((computation state.2).1, state.1, (computation state.2).2)

variable (observed : Observed σ) (index : Index)

def answer (query : CheckedQuery) : ExceptT Fault (StateM (RandomSource × σ)) (List Neighbor) := do
  let candidates ← ofDrawing (index.candidatesOf query)
  let point ← ofOutcome (index.dataset.pointOf query.key)
  ofObserving (observed.rerank index.dataset (index.arrangement.values candidates) point
    (.ofInt query.count))

def query (query : Query) : ExceptT Fault (StateM (RandomSource × σ)) (List Neighbor) := do
  let checked ← ofOutcome (index.check query)
  observed.answer index checked

def batchQuery (seed : List UInt32) (place : Nat) (query : Query) :
    ExceptT Fault (StateM σ) (List Neighbor) := fun state =>
  let (outcome, left) := observed.query index query (.generator (SeedTree.spawn seed place), state)
  (outcome, left.2)

def queryBatch (keys : List Value) (query : Value → Query) (seed workers : Value)
    (entropy : Nat) : ExceptT Fault (StateM σ) (List (List Neighbor)) := do
  let seed ← ofOutcome (Seed.ofBatch entropy seed)
  ofOutcome (Index.checkWorkers workers)
  keys.zipIdx.mapM fun entry =>
    observed.batchQuery index seed entry.2 (Index.askedAt query 0 entry)

def evaluateQuery (query : Query) : ExceptT Fault (StateM (RandomSource × σ)) Evaluation := do
  let checked ← ofOutcome (index.check query)
  let candidates ← ofDrawing (index.candidatesOf checked)
  let point ← ofOutcome (index.dataset.pointOf checked.key)
  let count := Value.ofInt checked.count
  let nearest := fun candidates =>
    ofObserving (observed.nearestByScan index.dataset candidates point count)
  let approximate ← nearest (index.arrangement.values candidates)
  let exact ← nearest index.dataset.keys.values
  let recallRate ← ofOutcome (candidateRecall (exact.map Index.listed) candidates.values count)
  let distanceError ← ofOutcome (relativeDistanceError
    (approximate.map Index.listed) (exact.map Index.listed) count)
  return ⟨approximate, exact, recallRate, distanceError⟩

variable {observed index} {R : σ → Nat → Prop}

/-- The source is the same, and the state of the observer is related to the count. -/
def Alongside (R : σ → Nat → Prop) (state : RandomSource × σ) (other : QueryState) : Prop :=
  state.1 = other.source ∧ R state.2 other.evaluations

theorem related_ofDrawing (drawing : Drawing α) :
    Related (Alongside R) (ofDrawing drawing) (Querying.ofDrawing drawing) := by
  rintro ⟨source, state⟩ ⟨_, evaluations⟩ ⟨rfl, related⟩
  exact ⟨rfl, rfl, related⟩

theorem related_ofObserving {computation : ExceptT Fault (StateM σ) α} {counting : Counting α}
    (both : Related R computation counting) :
    Related (Alongside R) (ofObserving computation) (Querying.ofCounting counting) := by
  rintro ⟨source, state⟩ ⟨_, evaluations⟩ ⟨rfl, related⟩
  rcases both state evaluations related with ⟨same, related⟩
  exact ⟨same, rfl, related⟩

namespace Follows

theorem answer (follows : Follows R observed index.distance) (query : CheckedQuery) :
    Related (Alongside R) (observed.answer index query) (index.answer query) := by
  apply (related_ofDrawing _).bind
  intro candidates
  apply (related_ofOutcome _).bind
  intro point
  exact related_ofObserving (follows.rerank index.dataset _ point _)

theorem query (follows : Follows R observed index.distance) (query : Query) :
    Related (Alongside R) (observed.query index query) (index.query query) := by
  apply (related_ofOutcome _).bind
  intro checked
  exact follows.answer checked

theorem batchQuery (follows : Follows R observed index.distance) (seed : List UInt32)
    (place : Nat) (query : Query) :
    Related R (observed.batchQuery index seed place query) (index.batchQuery seed place query) := by
  intro state evaluations related
  rcases follows.query query (.generator (SeedTree.spawn seed place), state)
    ⟨.generator (SeedTree.spawn seed place), evaluations⟩ ⟨rfl, related⟩ with ⟨same, _, related⟩
  exact ⟨same, related⟩

theorem queryBatch (follows : Follows R observed index.distance) (keys : List Value)
    (query : Value → Query) (seed workers : Value) (entropy : Nat) :
    Related R (observed.queryBatch index keys query seed workers entropy)
      (index.queryBatch keys query seed workers entropy) := by
  apply (related_ofOutcome _).bind
  intro words
  apply (related_ofOutcome _).bind
  intro done
  apply related_mapM
  intro entry
  exact follows.batchQuery words entry.2 (Index.askedAt query 0 entry)

theorem evaluateQuery (follows : Follows R observed index.distance) (query : Query) :
    Related (Alongside R) (observed.evaluateQuery index query) (index.evaluate query) := by
  apply (related_ofOutcome _).bind
  intro checked
  apply (related_ofDrawing _).bind
  intro candidates
  apply (related_ofOutcome _).bind
  intro point
  have nearest (candidates : List Value) := related_ofObserving
    (follows.nearestByScan index.dataset candidates point (.ofInt checked.count))
  apply (nearest (index.arrangement.values candidates)).bind
  intro approximate
  apply (nearest index.dataset.keys.values).bind
  intro exact
  apply (related_ofOutcome _).bind
  intro recallRate
  apply (related_ofOutcome _).bind
  intro distanceError
  exact related_ofOutcome (.ok _)

end Follows

/-! ## What is noted -/

section

variable {source left : RandomSource} {state final : σ} {result : α}

theorem ofDrawing_eq_ok {drawing : Drawing α} :
    ofDrawing drawing (source, state) = (.ok result, left, final) ↔
      drawing source = (.ok result, left) ∧ state = final := by
  constructor
  · intro run
    rcases Prod.mk.inj run with ⟨isResult, run⟩
    rcases Prod.mk.inj run with ⟨isLeft, same⟩
    exact ⟨Prod.ext isResult isLeft, same⟩
  · rintro ⟨run, rfl⟩
    rw [ofDrawing, run]

theorem ofObserving_eq_ok {computation : ExceptT Fault (StateM σ) α} :
    ofObserving computation (source, state) = (.ok result, left, final) ↔
      computation state = (.ok result, final) ∧ source = left := by
  constructor
  · intro run
    rcases Prod.mk.inj run with ⟨isResult, run⟩
    rcases Prod.mk.inj run with ⟨same, isFinal⟩
    exact ⟨Prod.ext isResult isFinal, same⟩
  · rintro ⟨run, rfl⟩
    rw [ofObserving, run]

end

/-- The point of the key that a query asks about is compared with the points of all candidates. -/
def Compares (index : Index) (query : Query) (found : KeySequence)
    (comparisons : List (Point × Point)) : Prop :=
  ∃ point, query.key.toKey >>= index.dataset.pointOf = .ok point ∧
    ComparesEach index.dataset point (index.arrangement.values found) comparisons

theorem Compares.length_eq {query : Query} {found : KeySequence}
    {comparisons : List (Point × Point)} (compares : Compares index query found comparisons) :
    comparisons.length = found.size := by
  rcases compares with ⟨point, _, each⟩
  rw [← each.length_eq, (index.arrangement.values_perm found).length_eq, KeySequence.values,
    List.length_map, KeySequence.size]

theorem noted_query {distance : Distance} {query : Query} {source left : RandomSource}
    {kept : List Neighbor} {notes noticed : List (Point × Point)}
    (run : (noted distance).query index query (source, notes) = (.ok kept, left, noticed)) :
    ∃ found comparisons, index.candidates query source = (.ok found, left) ∧
      Compares index query found comparisons ∧ noticed = notes ++ comparisons := by
  rcases ofOutcome_bind_eq_ok.mp run with ⟨checked, success, run⟩
  rcases bind_eq_ok.mp run with ⟨found, ⟨middle, same⟩, drawn, run⟩
  rcases ofOutcome_bind_eq_ok.mp run with ⟨point, located, reranked⟩
  rcases ofDrawing_eq_ok.mp drawn with ⟨isFound, rfl⟩
  rcases ofObserving_eq_ok.mp reranked with ⟨isKept, rfl⟩
  rcases noted_rerank isKept with ⟨comparisons, each, rfl⟩
  have asked : query.key.toKey = .ok checked.key := by
    rcases Index.exists_asks_of_check success with ⟨demand, _, asks, sameKey, _⟩
    rw [sameKey, asks.key]
  refine ⟨found, comparisons, ?_, ⟨point, ?_, each⟩, rfl⟩
  · rw [← Index.candidatesOf_eq success, isFound]
  · rw [asked, Outcome.ok_bind, located]

end Observed

namespace Index

variable {index : Index}

open Observed

/-- A query that is answered compares the point of its key with each of its candidates once, and
counts these comparisons. -/
theorem exists_compared {query : Query} {state after : QueryState} {kept : List Neighbor}
    (run : index.query query state = (.ok kept, after)) :
    ∃ found, index.candidates query state.source = (.ok found, after.source) ∧
      Compares index query found
        ((noted index.distance).query index query (state.source, [])).2.2 ∧
      after.evaluations = state.evaluations + found.size := by
  have both := (follows_noted index.distance state.evaluations).query query (state.source, []) state
    ⟨rfl, rfl⟩
  rw [run] at both
  rcases noticed : (noted index.distance).query index query (state.source, []) with
    ⟨outcome, left, comparisons⟩
  rw [noticed] at both
  rcases both with ⟨rfl, rfl, counted⟩
  rcases noted_query noticed with ⟨found, _, candidates, compares, rfl⟩
  refine ⟨found, candidates, compares, ?_⟩
  rw [← compares.length_eq]
  exact counted

/-- The candidates of the queries of a batch. -/
def CandidatesOfBatch (index : Index) (words : List UInt32) (asked : Value × Nat → Query)
    (keys : List Value) (sets : List KeySequence) : Prop :=
  List.Forall₂ (fun entry found => (index.candidates (asked entry)
    (.generator (SeedTree.spawn words entry.2))).1 = .ok found) keys.zipIdx sets

end Index

/-- If every success adds the size of something that belongs to the item, all together add the sum
of these sizes. -/
theorem Counting.exists_of_mapM {α β γ : Type} {f : α → Counting β} {P : α → γ → Prop}
    {size : γ → Nat} (each : ∀ item count result left, f item count = (.ok result, left) →
      ∃ found, P item found ∧ left = count + size found) {items : List α} {count left : Nat}
    {results : List β} (run : items.mapM f count = (.ok results, left)) :
    ∃ sets, List.Forall₂ P items sets ∧ left = count + (sets.map size).sum := by
  induction items generalizing count results with
  | nil =>
      cases run
      exact ⟨[], .nil, rfl⟩
  | cons item items ih =>
      rw [List.mapM_cons] at run
      rcases bind_eq_ok.mp run with ⟨result, middle, first, run⟩
      rcases bind_eq_ok.mp run with ⟨rest, last, others, run⟩
      cases run
      rcases each item count result middle first with ⟨found, belongs, rfl⟩
      rcases ih others with ⟨sets, belong, rfl⟩
      refine ⟨found :: sets, .cons belongs belong, ?_⟩
      rw [List.map_cons, List.sum_cons, Nat.add_assoc]

/-- A batch that is answered counts the candidates of all its queries. -/
theorem Index.exists_compared_batch {index : Index} {keys : List Value} {query : Value → Query}
    {seed workers : Value} {entropy evaluations left : Nat} {answers : List (List Neighbor)}
    (run : index.queryBatch keys query seed workers entropy evaluations = (.ok answers, left)) :
    ∃ words sets, Seed.ofBatch entropy seed = .ok words ∧
      index.CandidatesOfBatch words (askedAt query 0) keys sets ∧
      left = evaluations + (sets.map KeySequence.size).sum := by
  rcases ofOutcome_bind_eq_ok.mp run with ⟨words, seeded, run⟩
  rcases ofOutcome_bind_eq_ok.mp run with ⟨_, _, run⟩
  have each (entry : Value × Nat) (count : Nat) (answer : List Neighbor) (left : Nat)
      (answered : index.batchQuery words entry.2 (askedAt query 0 entry) count =
        (.ok answer, left)) :
      ∃ found, (index.candidates (askedAt query 0 entry)
        (.generator (SeedTree.spawn words entry.2))).1 = .ok found ∧
        left = count + found.size := by
    rcases single : index.query (askedAt query 0 entry)
      ⟨.generator (SeedTree.spawn words entry.2), count⟩ with ⟨outcome, after⟩
    simp only [Index.batchQuery, single] at answered
    cases answered
    rcases Index.exists_compared single with ⟨found, candidates, _, counted⟩
    exact ⟨found, congrArg Prod.fst candidates, counted⟩
  rcases Counting.exists_of_mapM each run with ⟨sets, candidates, counted⟩
  exact ⟨words, sets, seeded, candidates, counted⟩

end CurveNeighbors
