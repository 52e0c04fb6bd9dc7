import CurveNeighbors.Value.Reading

/-!
# Selecting curves

A caller may name the curves of a query by a mask, by an integer whose bits are
the mask, or by a collection of curve numbers. A truth value is no integer here,
though it is one as a curve number inside a collection. A collection may be one
that can be read only once: whoever reads it again finds nothing in it.

A mask has as many bits as its highest curve number says. A curve number that
asks for more bits than there can be is refused before a mask is made of it.
-/

namespace CurveNeighbors

/-- What a caller gives to select curves. -/
inductive CurveSelection where
  | mask (mask : CurveMask)
  | value (value : Value)
  /-- Curve numbers that can be read only once. -/
  | once (curves : List Value)

namespace CurveMask

def ofBits : Value → Outcome CurveMask
  | .number (.whole bits) =>
      if bits < 0 then .error (.negativeMask bits) else .ok ⟨bits.toNat⟩
  | value => .error (.maskNotInteger value)

/-- The number of bits from which on a mask does not fit into memory. -/
def memoryLimit : Nat := 0x10000000000

/-- The number of bits from which on the bits of a mask cannot even be counted in machine words. -/
def wordLimit : Nat := 69175290276410818321

/-- The number of a bit that a mask can have. -/
def bitPosition (position : Nat) : Outcome Nat :=
  if wordLimit ≤ position then .error .tooLarge
  else if memoryLimit ≤ position then .error .outOfMemory
  else .ok position

/-- Reads a curve number. That it is not negative is asked of every number, before it is asked
whether the number is an integer. -/
def readCurve (value : Value) : Outcome Nat := do
  let number ← value.toNumber
  if number.less (.whole 0) then throw (.negativeCurve value)
  match number with
  | .whole curve => bitPosition curve.toNat
  | _ => throw .notIntegral

def ofValues (curves : List Value) : Outcome CurveMask :=
  ofCurves <$> curves.mapM readCurve

def ofCount (value : Value) : Outcome CurveMask :=
  match value.number? with
  | some (.whole count) =>
      if count < 0 then .error .negativeShift else firstCurves <$> bitPosition count.toNat
  | _ => .error .notIntegral

/-- The mask that a selection stands for. -/
def ofSelection : CurveSelection → Outcome CurveMask
  | .mask mask => .ok mask
  | .value value =>
      match value with
      | .number (.whole _) => ofBits value
      | .truth _ => ofBits value
      | value => value.toItems >>= ofValues
  | .once curves => ofValues curves

/-- Whether a value of any type is the number of a selected curve. -/
def selectsValue (mask : CurveMask) : Value → Bool
  | .number (.whole curve) => 0 ≤ curve && curve ≤ mask.highest && mask.selects curve.toNat
  | _ => false

/-- Whether a selection is this mask itself or its integer. -/
def matchesSelection (mask : CurveMask) : CurveSelection → Bool
  | .mask other => mask == other
  | .value (.number (.whole bits)) => (mask.bits : Int) == bits
  | .value _ => false
  | .once _ => false

/-- Refuses a mask that selects a curve from `count` on. -/
def validate (mask : CurveMask) (count : Value) : Outcome Unit := do
  let number ← count.toNumber
  if number.atMost (.whole mask.highest) then throw (.curveOutOfRange mask count)

end CurveMask

namespace CurveSelection

/-- What is left of a selection when it has been read. -/
def reread : CurveSelection → CurveSelection
  | .once _ => .once []
  | selection => selection

/-- Whether two selections count as one element of a set. A mask and its integer do. -/
def same : CurveSelection → CurveSelection → Bool
  | .mask left, right => left.matchesSelection right
  | .value left, .mask right => right.matchesSelection (.value left)
  | .value left, .value right => left.same right
  | _, _ => false

def addDistinct (seen : List CurveSelection) (selection : CurveSelection) :
    Outcome (List CurveSelection) :=
  match selection with
  | .value given =>
      if given.isHashable then
        .ok (if seen.any (·.same selection) then seen else seen ++ [selection])
      else .error .unhashable
  | .mask _ => .ok (if seen.any (·.same selection) then seen else seen ++ [selection])
  | .once _ => .ok (seen ++ [selection])

/-- How many of the given selections are distinct. Equality is not transitive here: a mask is the
same as its integer, and the integer as a double, but the mask is not the same as the double. So the
order of the selections counts, and what is kept is always the first. -/
def distinctCount (selections : List CurveSelection) : Outcome Nat :=
  List.length <$> selections.foldlM addDistinct []

end CurveSelection

end CurveNeighbors
