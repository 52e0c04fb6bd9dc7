import CurveNeighbors.Neighbors.Basic

/-!
# How good an answer is

Two measures compare an approximate answer with the true nearest neighbours. The
recall is the share of the true neighbours that were among the candidates. The
relative error of the last distance says how much farther away the last answer
is than it should be.

True neighbours may be listed as keys or as keys with their distances. A tuple of
two whose second item is a number is taken to be a key with its distance. The
relative error needs the distances and takes what is listed second.
-/

namespace CurveNeighbors

def listedKey : Value → Value
  | .tuple [key, distance] =>
      match distance with
      | .number _ => key
      | .truth _ => key
      | _ => .tuple [key, distance]
  | value => value

/-- The number of different true neighbours that are among the candidates. -/
def foundCount (trueNeighbors candidates : List Value) : Outcome Nat := do
  let neighbors ← KeySequence.ofValues (trueNeighbors.map listedKey)
  let candidates ← candidates.mapM Value.toKey
  return neighbors.keys.countP fun key => candidates.any (· == key)

/-- The value of the double closest to a number of neighbours. For an integer up to `2 ^ 53` it is
that integer. -/
def roundedCount (count : Number) : Outcome ExactValue :=
  match count.toFloat? with
  | some rounded => .ok (Binary64.exact rounded)
  | none => .error .tooLarge

/-- The double closest to a share of a positive whole, which is never larger than one. Of an
infinite whole every share is nothing, and of an undefined one it is taken to be all. -/
def cappedShare (part : Nat) : ExactValue → Float
  | .finite whole =>
      let unit := whole.num.toNat
      Binary64.nearest false (min (part * whole.den) unit) unit
  | .undefined => Binary64.nearest false 1 1
  | _ => Binary64.nearest false 0 1

/-- The share of the `count` true nearest neighbours that are among the candidates, at most one. -/
def candidateRecall (trueNeighbors candidates : List Value) (count : Value) : Outcome Float := do
  let count ← readNeighborCount count
  let found ← foundCount trueNeighbors candidates
  let whole ← roundedCount count
  return cappedShare found whole

/-- The place of the last of a number of items, which has to be an integer. -/
def lastPlace : Number → Outcome Int
  | .whole count => .ok (count - 1)
  | _ => .error .notIntegral

/-- The distance that a neighbour is listed with at a place: the second item of what is listed. -/
def listedDistance (neighbors : List Value) (place : Int) : Outcome Number := do
  let neighbor ← Sequence.itemAt neighbors place
  (← neighbor.itemAt 1).toNumber

/-- How much larger the `count`-th distance of an answer is than the true one, relative to the true
one. There is no such measure if either list is too short or the true distance is not positive.
Distances are counted from the end for a `count` that is not positive. -/
def relativeDistanceError (approximate exact : List Value) (count : Value) :
    Outcome (Option Float) := do
  let count ← count.toNumber
  let isShort := fun neighbors : List Value => (Number.whole neighbors.length).less count
  if isShort approximate || isShort exact then return none
  let place ← lastPlace count
  let trueDistance ← listedDistance exact place
  if trueDistance.atMost (.whole 0) then return none
  let distance ← listedDistance approximate place
  match (distance.difference? trueDistance).bind (·.quotient? trueDistance) with
  | some error => return some error
  | none => throw .tooLarge

end CurveNeighbors
