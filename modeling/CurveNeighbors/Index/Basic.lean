import CurveNeighbors.Candidates.Basic
import CurveNeighbors.Index.Argument
import CurveNeighbors.Neighbors.Rerank

/-!
# Indexes

An index answers for each of its keys which points are nearest to it, as far as
the candidates show: it takes the candidates of the key and keeps the nearest of
them by exact distance. Every curve of an index visits exactly the keys of its
dataset. The order in which candidates are scored is not up to the index.

A query is checked before anything is computed, and nothing is drawn from a
source of randomness until every check has passed. The queries of a batch have
generators of their own, so each answer depends on the seed and on the place of
its key in the batch alone. They do share the mask, and if it can be read only
once, it is the first query to read it that has the curves.
-/

namespace CurveNeighbors

/-- A dataset with curves over its keys, a distance, and the order in which candidates come to be
scored. -/
structure Index where
  dataset : Dataset
  curves : CurveSet
  distance : Distance
  arrangement : Arrangement
  nonempty : dataset.size ≠ 0
  covered : curves.checkCovers dataset.keys = .ok ()

/-- What a caller asks of an index. A scale that is not null takes the place of all scale
factors. -/
structure Query where
  key : Value
  selection : CurveSelection
  halfWindow : Argument
  count : Argument
  scale : Argument

/-- A query with what is left of its mask when that has been read. -/
def Query.again (query : Query) : Query :=
  { query with selection := query.selection.reread }

/-- A query that has passed all checks. -/
structure CheckedQuery where
  key : Key
  positions : List Nat
  mask : CurveMask
  halfWindow : Int
  count : Int
  scale : Value

/-- What queries change: the source of randomness they draw from, and the number of distances that
have been evaluated. -/
structure QueryState where
  source : RandomSource
  evaluations : Nat

/-- A computation that may fail, draw and evaluate distances. The state is kept when it fails. -/
abbrev Querying (α : Type) := ExceptT Fault (StateM QueryState) α

namespace Querying

/-- An outcome that changes nothing. -/
def pure {α : Type} (outcome : Outcome α) : Querying α :=
  fun state => (outcome, state)

def ofDrawing {α : Type} (drawing : Drawing α) : Querying α := fun state =>
  let (outcome, source) := drawing state.source
  (outcome, { state with source := source })

def ofCounting {α : Type} (counting : Counting α) : Querying α := fun state =>
  let (outcome, evaluations) := counting state.evaluations
  (outcome, { state with evaluations := evaluations })

end Querying

namespace Index

/-- The index of a dataset and curves that visit its keys. -/
def ofCurves (dataset : Dataset) (curves : CurveSet) (distance : Distance)
    (arrangement : Arrangement) : Outcome Index :=
  if nonempty : dataset.size ≠ 0 then
    match covered : curves.checkCovers dataset.keys with
    | .ok () => .ok ⟨dataset, curves, distance, arrangement, nonempty, covered⟩
    | .error fault => .error fault
  else .error .emptyIndex

def generator (index : Index) : CandidateGenerator :=
  ⟨index.dataset, index.curves⟩

def positionsOf (index : Index) (key : Key) : Outcome (List Nat) :=
  if index.dataset.contains key then
    if index.curves.size = 0 then .ok [] else index.curves.positionsOf key
  else .error (.unknownKey key)

def readCount (value : Value) : Outcome Int :=
  match value with
  | .number (.whole count) => if 0 < count then .ok count else .error (.badNeighborCount value)
  | _ => .error (.badNeighborCount value)

def readHalfWindow (value : Value) : Outcome Int :=
  match value with
  | .number (.whole halfWindow) =>
      if 0 ≤ halfWindow then .ok halfWindow else .error (.badHalfWindow value)
  | _ => .error (.badHalfWindow value)

/-- Refuses the scale of a query unless it is null or a positive integer. -/
def checkScale (value : Value) : Outcome Unit :=
  match value with
  | .null => .ok ()
  | .number (.whole scale) => if 0 < scale then .ok () else .error (.badScale value)
  | _ => .error (.badScale value)

/-- The mask of a query, all of whose curves have to exist. -/
def readMask (index : Index) (selection : CurveSelection) : Outcome CurveMask := do
  let mask ← CurveMask.ofSelection selection
  if !mask.isEmpty && index.curves.size == 0 then throw (.maskWithoutCurves mask)
  mask.validate (.ofInt index.curves.size)
  return mask

/-- The largest number of positions that a window unit may come to. -/
def largestScale (index : Index) (scale : Value) : Int :=
  match scale with
  | .number (.whole scale) => scale
  | _ => (index.curves.scaleFactors.map (·.val)).foldr max index.curves.sampleScale.val

/-- Whether the types of all arguments hold what is computed from them: the ends of windows and the
sizes of samples. -/
def hasRoomFor (index : Index) (query : Query) (halfWindow count : Int) : Bool :=
  let reach := 2 * (index.dataset.size + halfWindow * index.largestScale query.scale.toValue)
  query.halfWindow.holds (-reach) reach && query.scale.holds (-reach) reach &&
    query.count.holds 0 (2 * min count index.dataset.size)

/-- Checks a query: first the number of neighbours, then the window size, the mask, the scale and
the key. -/
def check (index : Index) (query : Query) : Outcome CheckedQuery := do
  let count ← readCount query.count.toValue
  let halfWindow ← readHalfWindow query.halfWindow.toValue
  let mask ← index.readMask query.selection
  checkScale query.scale.toValue
  let key ← query.key.toKey
  let positions ← index.positionsOf key
  if !index.hasRoomFor query halfWindow count then throw .machineOverflow
  return ⟨key, positions, mask, halfWindow, count, query.scale.toValue⟩

def candidatesOf (index : Index) (query : CheckedQuery) : Drawing KeySequence :=
  if query.mask.isEmpty then
    index.generator.fromSample query.key (.ofInt query.halfWindow) (.ofInt query.count) query.scale
  else
    let positions := query.positions.map fun position : Nat => Value.ofInt position
    Drawing.pure (index.generator.fromWindows query.key (.list positions) query.mask
      (.ofInt query.halfWindow) query.scale)

def candidates (index : Index) (query : Query) : Drawing KeySequence := do
  let checked ← Drawing.pure (index.check query)
  index.candidatesOf checked

def answer (index : Index) (query : CheckedQuery) : Querying (List Neighbor) := do
  let candidates ← Querying.ofDrawing (index.candidatesOf query)
  let point ← Querying.pure (index.dataset.pointOf query.key)
  Querying.ofCounting (rerank index.distance index.dataset (index.arrangement.values candidates)
    point (.ofInt query.count))

def query (index : Index) (query : Query) : Querying (List Neighbor) := do
  let checked ← Querying.pure (index.check query)
  index.answer checked

/-- The answer to the query at a place of a batch, which draws from the generator that is spawned
for this place. -/
def batchQuery (index : Index) (seed : List UInt32) (place : Nat) (query : Query) :
    Counting (List Neighbor) :=
  fun evaluations =>
    let (outcome, state) := index.query query ⟨.generator (SeedTree.spawn seed place), evaluations⟩
    (outcome, state.evaluations)

/-- Refuses a number of workers that is no number; null is a single worker. -/
def checkWorkers : Value → Outcome Unit
  | .null => .ok ()
  | workers => do
      let _ ← workers.toNumber

/-- What is asked for a key at a place of a batch, if the mask is first read at a given place. -/
def askedAt (query : Value → Query) (first : Nat) (entry : Value × Nat) : Query :=
  if entry.2 = first then query entry.1 else (query entry.1).again

/-- The answers for several keys that share all else, one after the other. -/
def queryBatch (index : Index) (keys : List Value) (query : Value → Query)
    (seed workers : Value) (entropy : Nat) : Counting (List (List Neighbor)) := do
  let seed ← Counting.pure (Seed.ofBatch entropy seed)
  Counting.pure (checkWorkers workers)
  keys.zipIdx.mapM fun entry => index.batchQuery seed entry.2 (askedAt query 0 entry)

end Index

end CurveNeighbors
