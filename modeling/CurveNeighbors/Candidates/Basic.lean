import CurveNeighbors.CurveMask.Selection
import CurveNeighbors.CurveSet
import CurveNeighbors.Dataset.Basic
import CurveNeighbors.Random.RandomSource
import CurveNeighbors.Random.Sampling

/-!
# Candidate sets

The candidates of a key are the keys in the windows around it on all selected
curves. The positions of the key are given by the caller, and each is checked
against its curve before it is used: a position that is another key's would give
a window around that key instead, without anyone noticing.

When no curve is selected, the candidates are a random sample that is as large as
the windows of one curve would be, but no larger than the number of neighbours
that are asked for. In both cases the key itself is a candidate.
-/

namespace CurveNeighbors

/-- The number of keys in a random sample. It is an integer if all that it is computed from are
integers; that it is a number at all is asked where the sample is drawn. -/
def sampleSize (halfWindow scale count : Value) : Outcome Value := do
  let units ← (Value.ofInt 2).product halfWindow
  let size ← units.value.product scale
  count.smaller size.value

@[simp]
theorem sampleSize_ofInt (halfWindow scale count : Int) :
    sampleSize (.ofInt halfWindow) (.ofInt scale) (.ofInt count) =
      .ok (.ofInt (min count (2 * halfWindow * scale))) := by
  rw [← Value.smaller_ofInt]
  rfl

def isHalfOrLess (population : Nat) : Number → Bool
  | .whole size => 2 * size ≤ population
  | .real size => (Number.real (2 * size)).atMost (.whole population)
  | .undefined _ => false

/-- The smallest number of rows, out of a population, that is not less than a size. -/
def rowsReaching (population : Nat) (size : Number) : Nat :=
  let isEnough := fun rows : Nat => !(Number.whole rows).less size
  ((List.range population).find? isEnough).getD population

/-- Draws a sample of rows. A size that is no integer can be reached by collecting rows, but a
shuffle cannot be cut in the middle of a row, which shows only after it has been drawn. -/
def drawRows (state : MersenneTwister) (population : Nat) (size : Number) :
    Drawing (List Nat) := do
  match size with
  | .whole size => Drawing.draw state (Sampling.sample population size.toNat)
  | size =>
      if isHalfOrLess population size then
        Drawing.draw state (Sampling.collected population (rowsReaching population size))
      else
        let _ ← Drawing.draw state (Sampling.shuffle population)
        throw .notIntegral

/-- A request for the candidates of a key, with the window size in units and the number of
neighbours that are wanted. The scale of the request, unless it is null, takes the place of all
scale factors. -/
structure CandidateRequest where
  key : Value
  positions : Value
  selection : CurveSelection
  halfWindow : Value
  count : Value
  scale : Value

/-- A dataset and the curves that candidates are taken from. -/
structure CandidateGenerator where
  dataset : Dataset
  curves : CurveSet

namespace CandidateGenerator

def scaleOfSample (generator : CandidateGenerator) (scale : Value) : Value :=
  match scale with
  | .null => .ofInt generator.curves.sampleScale.val
  | scale => scale

/-- The half width in positions of the window on a curve. -/
def halfWidth (generator : CandidateGenerator) (curve : Nat) (halfWindow scale : Value) :
    Outcome Product :=
  match scale with
  | .null => generator.curves.halfWidth curve halfWindow
  | scale => halfWindow.product scale

/-- The position that is given for a key on a curve. It has to be on the curve, and what is there
has to compare as equal to the key. -/
def checkedPosition (generator : CandidateGenerator) (key : Key) (positions : Value)
    (curve : Nat) : Outcome (CurveOrder × Int) := do
  let order ← generator.curves.curveAt curve
  let position ← (← positions.itemAt curve).toInt
  if position < 0 ∨ (generator.dataset.size : Int) ≤ position then
    throw (.positionOutsideCurve position key curve generator.dataset.size)
  let holder ← order.keyAt position
  if holder.equals key then return (order, position)
  else throw (.positionOfOtherKey position key curve holder)

/-- Adds the keys in the window around a key on one curve. -/
def addWindow (generator : CandidateGenerator) (key : Key) (positions halfWindow scale : Value)
    (candidates : KeySequence) (curve : Nat) : Outcome KeySequence := do
  let (order, position) ← generator.checkedPosition key positions curve
  let halfWidth ← (← generator.halfWidth curve halfWindow scale).toNumber
  return candidates.insertAll (← order.keysAround generator.dataset.size position halfWidth)

/-- The keys in the windows around a key on all selected curves. -/
def fromWindows (generator : CandidateGenerator) (key : Key) (positions : Value)
    (mask : CurveMask) (halfWindow scale : Value) : Outcome KeySequence :=
  mask.toList.foldlM (generator.addWindow key positions halfWindow scale)
    (KeySequence.empty.insert key)

/-- A key and a random sample of keys. -/
def fromSample (generator : CandidateGenerator) (key : Key) (halfWindow count scale : Value) :
    Drawing KeySequence := do
  let state ← Drawing.start
  let population := generator.dataset.size
  let wanted ← Drawing.pure (sampleSize halfWindow (generator.scaleOfSample scale) count)
  let size ← Drawing.pure (wanted.smaller (.ofInt population) >>= Value.toNumber)
  let rows ← drawRows state population size
  return (KeySequence.empty.insert key).insertAll
    (rows.filterMap (generator.dataset.keys.keys[·]?))

def generate (generator : CandidateGenerator) (request : CandidateRequest) :
    Drawing KeySequence := do
  let mask ← Drawing.pure (CurveMask.ofSelection request.selection)
  let key ← Drawing.pure request.key.toKey
  if mask.isEmpty then
    generator.fromSample key request.halfWindow request.count request.scale
  else
    Drawing.pure
      (generator.fromWindows key request.positions mask request.halfWindow request.scale)

end CandidateGenerator

end CurveNeighbors
