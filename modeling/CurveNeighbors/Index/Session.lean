import CurveNeighbors.Index.Basic
import CurveNeighbors.Neighbors.FullScan
import CurveNeighbors.Neighbors.Quality
import CurveNeighbors.Random.Generators

/-!
# Sessions with an index

A session is an index in use: the generators that its calls share, and the count
of distances that have been evaluated since the last reset. `perform` is one
call, `run` a sequence of them. A call that fails ends neither the session nor
the sequence.
-/

namespace CurveNeighbors

/-- An index, the generators in use, and the number of distances evaluated. -/
structure Session where
  index : Index
  generators : Generators
  evaluations : Nat

/-- The candidates of a query compared with the true nearest neighbours. -/
structure Evaluation where
  approximate : List Neighbor
  exact : List Neighbor
  recallRate : Float
  distanceError : Option Float

inductive Call where
  | seedGenerator (name : String) (seed : Value) (fresh : MersenneTwister)
  | candidates (query : Query) (source : SourceChoice)
  | query (query : Query) (source : SourceChoice)
  | queryBatch (keys : List Value) (query : Value → Query) (seed workers : Value) (entropy : Nat)
  | evaluate (query : Query) (source : SourceChoice)
  | rerank (candidates : List Value) (point : Point) (count : Value)
  | distance (left right : Point)
  | evaluations
  | resetEvaluations

inductive Answer where
  | none
  | candidates (keys : KeySequence)
  | neighbors (neighbors : List Neighbor)
  | batch (answers : List (List Neighbor))
  | evaluation (evaluation : Evaluation)
  | distance (number : Number)
  | evaluations (count : Nat)

namespace Index

def listed (neighbor : Neighbor) : Value :=
  .tuple [neighbor.key, .number (.real neighbor.distance)]

/-- Compares the candidates of a query with the true nearest neighbours. -/
def evaluate (index : Index) (query : Query) : Querying Evaluation := do
  let checked ← Querying.pure (index.check query)
  let candidates ← Querying.ofDrawing (index.candidatesOf checked)
  let point ← Querying.pure (index.dataset.pointOf checked.key)
  let count := Value.ofInt checked.count
  let nearest := fun candidates =>
    Querying.ofCounting (nearestByScan index.distance index.dataset candidates point count)
  let approximate ← nearest (index.arrangement.values candidates)
  let exact ← nearest index.dataset.keys.values
  let recallRate ← Querying.pure (candidateRecall (exact.map listed) candidates.values count)
  let distanceError ← Querying.pure (relativeDistanceError
    (approximate.map listed) (exact.map listed) count)
  return ⟨approximate, exact, recallRate, distanceError⟩

end Index

namespace Session

def start (index : Index) : Session := ⟨index, .empty, 0⟩

/-- Performs a computation that draws from the chosen source and evaluates distances. -/
def querying {α : Type} (session : Session) (source : SourceChoice) (computation : Querying α) :
    Outcome α × Session :=
  let (outcome, state) :=
    computation ⟨session.generators.resolve source, session.evaluations⟩
  (outcome, { session with
    generators := session.generators.keep source state.source
    evaluations := state.evaluations })

def counting {α : Type} (session : Session) (computation : Counting α) : Outcome α × Session :=
  let (outcome, evaluations) := computation session.evaluations
  (outcome, { session with evaluations := evaluations })

def perform (session : Session) : Call → Outcome Answer × Session
  | .seedGenerator name seed fresh =>
      match session.generators.seed name fresh seed with
      | .ok generators => (.ok .none, { session with generators := generators })
      | .error fault => (.error fault, session)
  | .candidates query source =>
      session.querying source
        (.candidates <$> Querying.ofDrawing (session.index.candidates query))
  | .query query source => session.querying source (.neighbors <$> session.index.query query)
  | .queryBatch keys query seed workers entropy =>
      session.counting (.batch <$> session.index.queryBatch keys query seed workers entropy)
  | .evaluate query source =>
      session.querying source (.evaluation <$> session.index.evaluate query)
  | .rerank candidates point count =>
      session.counting (.neighbors <$>
        CurveNeighbors.rerank session.index.distance session.index.dataset candidates point count)
  | .distance left right =>
      session.counting (.distance <$> Counting.once (session.index.distance left right))
  | .evaluations => (.ok (.evaluations session.evaluations), session)
  | .resetEvaluations =>
      (.ok (.evaluations session.evaluations), { session with evaluations := 0 })

def run (session : Session) : List Call → List (Outcome Answer) × Session
  | [] => ([], session)
  | call :: calls =>
      let (outcome, session) := session.perform call
      let (outcomes, session) := run session calls
      (outcome :: outcomes, session)

end Session

end CurveNeighbors
