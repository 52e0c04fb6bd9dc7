import CurveNeighbors.CandidateWindow
import CurveNeighbors.KeySequence

/-!
# Curve orders

A curve that visits every point of a dataset once is known to this library only
by the order in which it visits the keys. An order answers two questions that
are inverse to each other: which key is at a position, and at which position is
a key.
-/

namespace CurveNeighbors

/-- The order in which a curve visits the keys, and the name of the curve, which is null if it has
none. -/
structure CurveOrder where
  name : Value
  order : KeySequence

namespace CurveOrder

/-- The curve that visits the given keys, none of which may occur twice. -/
def ofValues (keys : List Value) (name : Value) : Outcome CurveOrder := do
  let order ← KeySequence.read (.repeatedOnCurve · name) (keys.map .ok)
  return ⟨name, order⟩

def length (curve : CurveOrder) : Nat :=
  curve.order.size

/-- The key at a position, which may be counted from the end. -/
def keyAt (curve : CurveOrder) (position : Int) : Outcome Key :=
  Sequence.itemAt curve.order.keys position

def visits (curve : CurveOrder) (key : Key) : Bool :=
  curve.order.contains key

def position (curve : CurveOrder) (key : Key) : Outcome Nat :=
  curve.order.position key

def window (curve : CurveOrder) (position halfWidth : Value) : Outcome CandidateWindow :=
  CandidateWindow.read (.ofInt curve.length) position halfWidth

/-- The keys from one position to another, both included. -/
def keysBetween (curve : CurveOrder) (low high : Int) : List Key :=
  Sequence.slice curve.order.keys low (high + 1)

/-- The keys in the window of a half width around a position, where the curve is taken to have the
given length. A window whose half width is no integer has no ends, unless it is so wide that it is
the whole curve. -/
def keysAround (curve : CurveOrder) (length : Nat) (position : Int) :
    Number → Outcome (List Key)
  | .whole halfWidth => do
      let window ← candidateWindow length position halfWidth
      return curve.keysBetween window.low window.high
  | .real halfWidth =>
      if (Number.real halfWidth).less (.whole 0) then
        .error (.negativeHalfWidth (.number (.real halfWidth)))
      else if (Number.whole length).atMost (.real (2 * halfWidth + 1)) then
        .ok (curve.keysBetween 0 (length - 1))
      else .error .notIntegral
  | .undefined _ => .error .notIntegral

/-- Whether two curves visit equal keys in the same order, whatever their names. -/
def same (left right : CurveOrder) : Bool :=
  left.order.same right.order

def text (curve : CurveOrder) : String :=
  "CurveOrder(name=" ++ curve.name.render ++ ", size=" ++ toString curve.length ++ ")"

end CurveOrder

end CurveNeighbors
