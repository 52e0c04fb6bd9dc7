import CurveNeighbors.CurveOrder.Build
import CurveNeighbors.Index.Basic

/-!
# Building indexes

An index is built from a dataset and one curve key for each curve. Curves are
sorted independently of each other; if several of them cannot be sorted, the
first one's fault is reported. What there is to tell about a finished build is
an event for each line of the report; the times it took are not known here and
are left to whoever prints it.
-/

namespace CurveNeighbors

namespace Index

def defaultName (curve : Nat) : Value :=
  .text ("curve" ++ toString curve)

/-- The names of curves, which may be missing altogether. There have to be as many as curves. -/
def curveNames (names : Value) (curves : Nat) : Outcome Value :=
  match names with
  | .null => .ok (.list ((List.range curves).map defaultName))
  | names => do
      let items ← names.toItems
      if items.length = curves then return names
      else throw (.nameCountMismatch items.length curves)

/-- The names of the curves whose sorting was timed. Times are kept by name, so curves of one name
count once, and a name has to be a key. -/
def timedCurves (index : Index) : Outcome KeySequence :=
  KeySequence.ofValues index.curves.names

/-- Builds the index of a dataset with a curve for each curve key. The name of a curve is looked up
by its number before the curve is sorted. -/
def build (dataset : Dataset) (curveKeys : List CurveKey)
    (names scaleFactors sampleScale workers : Value) (distance : Distance)
    (arrangement : Arrangement) : Outcome Index := do
  let names ← curveNames names curveKeys.length
  checkWorkers workers
  let curves ← curveKeys.zipIdx.mapM fun entry => do
    let name ← names.itemAt entry.2
    (CurveOrder.build dataset entry.1 name).outcome
  let set ← CurveSet.build curves scaleFactors sampleScale
  let index ← ofCurves dataset set distance arrangement
  let _ ← index.timedCurves
  return index

end Index

structure IndexSummary where
  objects : Nat
  dimension : Nat
  curves : Nat
  curveNames : List Value
  scaleFactors : List Int
  sampleScale : Int

inductive BuildEvent where
  | started (curves objects : Nat)
  | sorted (curve : Value)
  | finished
  | summarized (summary : IndexSummary)

namespace BuildEvent

/-- The line that reports a step. The time it took is put in where it is told. -/
def text (event : BuildEvent) (time : String) : String :=
  match event with
  | .started curves objects =>
      "Building " ++ toString curves ++ " curve orders over " ++ toString objects ++ " objects..."
  | .sorted curve => "  " ++ curve.display ++ ": sorted in " ++ time
  | .finished => "Index built in " ++ time
  | .summarized summary =>
      "Statistics: " ++ toString summary.objects ++ " objects, " ++
        toString summary.dimension ++ " dims, " ++ toString summary.curves ++
        " curves, scale factors " ++ listText (summary.scaleFactors.map toString)

end BuildEvent

namespace Index

/-- The report of a build, in which all steps took the given time: each step ends a line. -/
def report (events : List BuildEvent) (time : String) : String :=
  String.join (events.map fun event => event.text time ++ "\n")

def summary (index : Index) : IndexSummary where
  objects := index.dataset.size
  dimension := index.dataset.dimension
  curves := index.curves.size
  curveNames := index.curves.names
  scaleFactors := index.curves.scaleFactors.map (·.val)
  sampleScale := index.curves.sampleScale.val

def buildEvents (index : Index) : List BuildEvent :=
  [.started index.curves.size index.dataset.size] ++ index.curves.names.map .sorted ++
    [.finished, .summarized index.summary]

end Index

end CurveNeighbors
