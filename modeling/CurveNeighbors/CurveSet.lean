import CurveNeighbors.CurveOrder.Basic
import CurveNeighbors.Value.Arithmetic

/-!
# Curve sets

The curves of an index visit the same keys, each in its own order. A query gives
the size of its windows in units, and each curve multiplies the unit by a scale
factor of its own; a random sample, which belongs to no curve, has a scale of
its own as well. A key that is on one curve is on all of them, so the positions
of a key are one number for each curve.
-/

namespace CurveNeighbors

/-- A positive integer that turns window units into positions. -/
abbrev ScaleFactor := { factor : Int // 0 < factor }

namespace ScaleFactor

def one : ScaleFactor := ⟨1, by decide⟩

/-- A scale factor is read from any number or truth value that is a positive integer. -/
def read (value : Value) : Outcome ScaleFactor := do
  let factor ← value.toInt
  if positive : 0 < factor then
    if value.same (.ofInt factor) then return ⟨factor, positive⟩ else throw (.badScaleFactor value)
  else throw (.badScaleFactor value)

/-- The scale factors that are given for a number of curves, which are all one unless given. -/
def given (value : Value) (curves : Nat) :
    Outcome { factors : List Value // factors.length = curves } :=
  match value with
  | .null => .ok ⟨List.replicate curves (.ofInt 1), List.length_replicate⟩
  | value => do
      let factors ← value.toItems
      if aligned : factors.length = curves then return ⟨factors, aligned⟩
      else throw (.scaleCountMismatch factors.length curves)

def readAll : (values : List Value) →
    Outcome { factors : List ScaleFactor // factors.length = values.length }
  | [] => .ok ⟨[], rfl⟩
  | value :: values => do
      let factor ← read value
      let factors ← readAll values
      return ⟨factor :: factors.val, congrArg (· + 1) factors.property⟩

end ScaleFactor

/-- Curves over the same keys with one scale factor for each. -/
structure CurveSet where
  curves : List CurveOrder
  scaleFactors : List ScaleFactor
  sampleScale : ScaleFactor
  scaled : scaleFactors.length = curves.length
  alike : ∀ first ∈ curves.head?, ∀ curve ∈ curves.tail, first.order.covers curve.order = true

namespace CurveSet

/-- The set of the given curves, which all have to visit the keys of the first. -/
def ofCurves (curves : List CurveOrder) (scaleFactors : List ScaleFactor)
    (sampleScale : ScaleFactor) (scaled : scaleFactors.length = curves.length) :
    Outcome CurveSet :=
  match curves, scaled with
  | [], scaled => .ok ⟨[], scaleFactors, sampleScale, scaled, by simp⟩
  | first :: rest, scaled =>
      if alike : ∀ curve ∈ rest, first.order.covers curve.order = true then
        .ok ⟨first :: rest, scaleFactors, sampleScale, scaled, by simpa using alike⟩
      else
        let differing := rest.find? fun curve => !first.order.covers curve.order
        .error (.curvesDiffer ((differing.map (·.name)).getD .null) first.name)

/-- The set of the given curves with scale factors that are yet to be read. The factors are checked
before the curves are compared. -/
def build (curves : List CurveOrder) (scaleFactors sampleScale : Value) : Outcome CurveSet := do
  let given ← ScaleFactor.given scaleFactors curves.length
  let factors ← ScaleFactor.readAll given.val
  let sampleScale ← ScaleFactor.read sampleScale
  ofCurves curves factors.val sampleScale (factors.property.trans given.property)

def size (set : CurveSet) : Nat :=
  set.curves.length

/-- The curve with a number, which may be counted from the end. -/
def curveAt (set : CurveSet) (curve : Int) : Outcome CurveOrder :=
  Sequence.itemAt set.curves curve

def names (set : CurveSet) : List Value :=
  set.curves.map (·.name)

/-- The half width in positions that a number of units means on a curve, which may be counted from
the end. -/
def halfWidth (set : CurveSet) (curve : Int) (halfWindow : Value) : Outcome Product := do
  let factor ← Sequence.itemAt set.scaleFactors curve
  halfWindow.product (.ofInt factor.val)

/-- The positions of a key on all curves. Without curves no key has positions. -/
def positionsOf (set : CurveSet) (key : Key) : Outcome (List Nat) :=
  if set.curves.isEmpty then .error (.unknownKey key)
  else set.curves.mapM (·.position key)

/-- Cached positions are shared between queries, so every attempt to change one of those a key has
is refused. -/
def overwrite (set : CurveSet) (key : Key) (_curve _position : Int) : Outcome CurveSet := do
  let _ ← set.positionsOf key
  throw .readOnly

/-- Refuses a curve that is not a permutation of the given keys. -/
def checkCovers (set : CurveSet) (keys : KeySequence) : Outcome Unit :=
  match set.curves.find? fun curve => !curve.order.covers keys with
  | some curve => .error (.curveMissesDataset curve.name)
  | none => .ok ()

end CurveSet

end CurveNeighbors
