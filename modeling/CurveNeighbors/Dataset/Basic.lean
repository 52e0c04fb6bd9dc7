import CurveNeighbors.KeySequence
import CurveNeighbors.Point.Nested

/-!
# Datasets

A dataset holds points under different keys, in the order in which they were
given. The place of a point in that order is its row; rows are what a random
sample draws, and what decides between points at the same distance. All points
have the same dimension.

The dataset without points exists as a value, but no constructor gives it: it
serves to say what is refused by those that take a dataset.
-/

namespace CurveNeighbors

/-- Points of one dimension under different keys, in a fixed order. -/
structure Dataset where
  keys : KeySequence
  points : List Point
  dimension : Nat
  aligned : points.length = keys.size
  uniform : ∀ point ∈ points, point.length = dimension

namespace Dataset

def empty : Dataset where
  keys := .empty
  points := []
  dimension := 0
  aligned := rfl
  uniform := by simp

/-- The dataset of the given points under the given keys, all of the dimension of the first. -/
def ofPoints (keys : KeySequence) (points : List Point) : Outcome Dataset :=
  let dimension := (points.head?.map List.length).getD 0
  if aligned : points.length = keys.size then
    if uniform : ∀ point ∈ points, point.length = dimension then
      .ok ⟨keys, points, dimension, aligned, uniform⟩
    else
      match (keys.keys.zip points).find? fun entry => entry.2.length != dimension with
      | some (key, point) => .error (.dimensionMismatch key point.length dimension)
      | none => .error (.keyCountMismatch keys.size points.length)
  else .error (.keyCountMismatch keys.size points.length)

def size (dataset : Dataset) : Nat :=
  dataset.keys.size

def contains (dataset : Dataset) (key : Key) : Bool :=
  dataset.keys.contains key

def rowOf (dataset : Dataset) (key : Key) : Outcome Nat :=
  dataset.keys.position key

/-- The key of the point in a row, which may be counted from the end. -/
def keyAt (dataset : Dataset) (row : Int) : Outcome Key :=
  Sequence.itemAt dataset.keys.keys row

def pointAt (dataset : Dataset) (row : Nat) : Outcome Point :=
  match dataset.points[row]? with
  | some point => .ok point
  | none => .error .outOfRange

def pointOf (dataset : Dataset) (key : Key) : Outcome Point :=
  dataset.rowOf key >>= dataset.pointAt

def find? (dataset : Dataset) (key : Key) : Option Point :=
  (dataset.keys.position? key).bind (dataset.points[·]?)

def items (dataset : Dataset) : List (Key × Point) :=
  dataset.keys.keys.zip dataset.points

/-- Stored points are shared between queries, so every attempt to change one is refused. -/
def overwrite (_ : Dataset) (_row _column : Int) (_coordinate : Float) : Outcome Dataset :=
  .error .readOnly

/-- Whether two datasets hold equal points under equal keys in the same order. -/
def same (left right : Dataset) : Bool :=
  left.keys.same right.keys && left.dimension == right.dimension && left.points == right.points

def text (dataset : Dataset) : String :=
  "Dataset(size=" ++ toString dataset.size ++ ", dim=" ++ toString dataset.dimension ++ ")"

/-- The row of a key; a key of no point comes after all rows. -/
def rowOrEnd (dataset : Dataset) (key : Key) : Nat :=
  (dataset.keys.position? key).getD dataset.size

/-- Keys in the order of their rows, those of no point last. -/
def inRowOrder (dataset : Dataset) (keys : List Key) : List Key :=
  keys.mergeSort fun left right => dataset.rowOrEnd left ≤ dataset.rowOrEnd right

end Dataset

end CurveNeighbors
