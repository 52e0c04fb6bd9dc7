import CurveNeighbors.CurveMask.Basic
import CurveNeighbors.Value.Text

/-!
# Faults

Everything that can go wrong has a cause, and each cause belongs to one kind. The
three kinds that are this library's own (a bad configuration, a position cache
that has drifted from its curve, a parameter out of range) and an unknown key
explain themselves in a message; the remaining kinds say it all.

A message shows the values that are to blame. If one of them is an integer with too
many digits to be written out, there is no such message, and what is reported in its
place is just that.
-/

namespace CurveNeighbors

/-- What went wrong. -/
inductive Fault where
  /-- A dataset was to be built from no points. -/
  | emptyDataset
  /-- A key occurs twice among the points of a dataset. -/
  | duplicateKey (key : Key)
  /-- The vector of a key is longer or shorter than the first vector. -/
  | dimensionMismatch (key : Key) (actual expected : Nat)
  /-- An array of vectors does not have exactly two dimensions. -/
  | notTwoDimensional (shape : List Nat)
  /-- There are more or fewer keys than vectors. -/
  | keyCountMismatch (keys vectors : Nat)
  /-- A key occurs twice on a curve. -/
  | repeatedOnCurve (key : Key) (curve : Value)
  /-- A curve was to be sorted over no points. -/
  | curveOverEmptyDataset
  /-- There are more or fewer scale factors than curves. -/
  | scaleCountMismatch (scales curves : Nat)
  /-- A scale factor is not a positive integer. -/
  | badScaleFactor (scale : Value)
  /-- Two curves of a set hold different keys. -/
  | curvesDiffer (curve first : Value)
  /-- A curve is not a permutation of the keys of the dataset. -/
  | curveMissesDataset (curve : Value)
  /-- An index was to be built over no points. -/
  | emptyIndex
  /-- A mask selects curves of an index that has none. -/
  | maskWithoutCurves (mask : CurveMask)
  /-- There are more or fewer curve names than curves. -/
  | nameCountMismatch (names curves : Nat)
  /-- A cached position lies outside its curve. -/
  | positionOutsideCurve (position : Int) (key : Key) (curve length : Nat)
  /-- A cached position is that of another key. -/
  | positionOfOtherKey (position : Int) (key : Key) (curve : Nat) (holder : Key)
  /-- A mask is not given by an integer. -/
  | maskNotInteger (mask : Value)
  /-- A mask is given by a negative integer. -/
  | negativeMask (bits : Int)
  /-- A mask is to select a curve with a negative number. -/
  | negativeCurve (curve : Value)
  /-- A mask selects a curve that does not exist. -/
  | curveOutOfRange (mask : CurveMask) (count : Value)
  /-- A window was asked of a curve without positions. -/
  | nonPositiveLength (length : Value)
  /-- A window has a negative half width. -/
  | negativeHalfWidth (halfWidth : Value)
  /-- A window was asked around a position that the curve does not have. -/
  | positionOffCurve (position length : Value)
  /-- The number of neighbours of a query is not a positive integer. -/
  | badNeighborCount (count : Value)
  /-- The window size of a query is not a non-negative integer. -/
  | badHalfWindow (halfWindow : Value)
  /-- The scale of a query is not a positive integer. -/
  | badScale (scale : Value)
  /-- A random sample was asked for without a source of randomness. -/
  | missingRandomSource
  /-- A number of neighbours is zero or less. -/
  | nonPositiveCount (count : Value)
  /-- No point has this key. -/
  | unknownKey (key : Key)
  /-- A value that may change was used as a key. -/
  | unhashable
  /-- Two values were compared that have no order. -/
  | unordered
  /-- A number was needed. -/
  | notNumeric
  /-- An integer was needed. -/
  | notIntegral
  /-- A collection was needed. -/
  | notCollection
  /-- A text does not spell a number. -/
  | unparsable
  /-- An integer has too many digits to be written out. -/
  | tooManyDigits
  /-- An undefined number has no integer part. -/
  | undefinedInteger
  /-- The rows of an array differ in shape. -/
  | ragged
  /-- Lists are nested too deeply. -/
  | tooDeep
  /-- An item is not a pair of a key and a vector. -/
  | notPair
  /-- Bits were to be shifted by a negative amount. -/
  | negativeShift
  /-- A seed lies outside the range of seeds. -/
  | invalidSeed
  /-- Two vectors differ in length. -/
  | lengthsDiffer
  /-- Stored vectors and positions cannot be overwritten. -/
  | readOnly
  /-- No metric has this name. -/
  | unknownMetric
  /-- A search tree cannot have leaves that small. -/
  | badLeafSize
  /-- A coordinate is not a finite number. -/
  | notFinite
  /-- A query vector has another dimension than the dataset. -/
  | wrongDimension
  /-- A position lies outside a sequence. -/
  | outOfRange
  /-- An integer is too large for a double, for a bit to be set, or for a machine word, or a text
  would become too long. -/
  | tooLarge
  /-- A result would not fit into memory. -/
  | outOfMemory
  /-- An infinite number has no integer part. -/
  | infiniteInteger
  /-- A curve key could not be computed. -/
  | curveKeyFailed
  /-- The evaluations of a distance are not counted. -/
  | notCounted
  /-- A source of randomness gave out, or never gave what was needed. -/
  | drawsExhausted
  /-- A number that is computed for a query does not fit into the machine type of an argument. What
  the arithmetic of the machine makes of it is left open. -/
  | machineOverflow

namespace Fault

/-- The kinds of faults. -/
inductive Kind where
  | configuration
  | consistency
  | parameter
  | lookup
  | type
  | value
  | index
  | overflow
  | curveKey
  | memory
  | feature
  | exhaustion
deriving DecidableEq

/-- The kind that a fault belongs to. -/
def kind : Fault → Kind
  | .emptyDataset => .configuration
  | .duplicateKey _ => .configuration
  | .dimensionMismatch _ _ _ => .configuration
  | .notTwoDimensional _ => .configuration
  | .keyCountMismatch _ _ => .configuration
  | .repeatedOnCurve _ _ => .configuration
  | .curveOverEmptyDataset => .configuration
  | .scaleCountMismatch _ _ => .configuration
  | .badScaleFactor _ => .configuration
  | .curvesDiffer _ _ => .configuration
  | .curveMissesDataset _ => .configuration
  | .emptyIndex => .configuration
  | .maskWithoutCurves _ => .configuration
  | .nameCountMismatch _ _ => .configuration
  | .positionOutsideCurve _ _ _ _ => .consistency
  | .positionOfOtherKey _ _ _ _ => .consistency
  | .maskNotInteger _ => .parameter
  | .negativeMask _ => .parameter
  | .negativeCurve _ => .parameter
  | .curveOutOfRange _ _ => .parameter
  | .nonPositiveLength _ => .parameter
  | .negativeHalfWidth _ => .parameter
  | .positionOffCurve _ _ => .parameter
  | .badNeighborCount _ => .parameter
  | .badHalfWindow _ => .parameter
  | .badScale _ => .parameter
  | .missingRandomSource => .parameter
  | .nonPositiveCount _ => .parameter
  | .unknownKey _ => .lookup
  | .unhashable => .type
  | .unordered => .type
  | .notNumeric => .type
  | .notIntegral => .type
  | .notCollection => .type
  | .unparsable => .value
  | .tooManyDigits => .value
  | .undefinedInteger => .value
  | .ragged => .value
  | .tooDeep => .value
  | .notPair => .value
  | .negativeShift => .value
  | .invalidSeed => .value
  | .lengthsDiffer => .value
  | .readOnly => .value
  | .unknownMetric => .value
  | .badLeafSize => .value
  | .notFinite => .value
  | .wrongDimension => .value
  | .outOfRange => .index
  | .tooLarge => .overflow
  | .outOfMemory => .memory
  | .infiniteInteger => .overflow
  | .curveKeyFailed => .curveKey
  | .notCounted => .feature
  | .drawsExhausted => .exhaustion
  | .machineOverflow => .overflow

/-- The name of a curve where it stands alone; a curve whose name is nothing is called unnamed. -/
def plainName (name : Value) : String :=
  if name.isNothing then "<unnamed>" else name.display

/-- What is to be said about a fault, if anything. -/
def message : Fault → Option String
  | .emptyDataset => some "Dataset must contain at least one point."
  | .duplicateKey key => some ("Duplicate key in dataset: " ++ key.render)
  | .dimensionMismatch key actual expected =>
      some ("Vector for key " ++ key.render ++ " has dimension " ++ toString actual ++
        ", expected " ++ toString expected)
  | .notTwoDimensional shape =>
      some ("Expected a 2-dimensional array, got shape " ++ tupleText (shape.map toString))
  | .keyCountMismatch keys vectors =>
      some ("Got " ++ toString keys ++ " keys for " ++ toString vectors ++ " vectors")
  | .repeatedOnCurve key curve =>
      some ("Key " ++ key.render ++ " appears twice on curve " ++ plainName curve)
  | .curveOverEmptyDataset => some "Cannot build a curve over an empty dataset."
  | .scaleCountMismatch scales curves =>
      some ("Got " ++ toString scales ++ " scale factors for " ++ toString curves ++ " curves")
  | .badScaleFactor scale =>
      some ("Scale factors must be positive integers, got " ++ scale.render)
  | .curvesDiffer curve first =>
      some ("Curve " ++ curve.render ++ " does not cover the same keys as curve " ++
        first.render)
  | .curveMissesDataset curve =>
      some ("Curve " ++ curve.render ++ " is not a permutation of the dataset keys")
  | .emptyIndex => some "Cannot index an empty dataset."
  | .maskWithoutCurves mask =>
      some ("Mask " ++ mask.text ++ " selects curves but the index has no curves.")
  | .nameCountMismatch names curves =>
      some ("Got " ++ toString names ++ " curve names for " ++ toString curves ++
        " key functions")
  | .positionOutsideCurve position key curve length =>
      some ("Cached position " ++ toString position ++ " of key " ++ key.render ++
        " is outside curve " ++ toString curve ++ " of length " ++ toString length)
  | .positionOfOtherKey position key curve holder =>
      some ("Cached position " ++ toString position ++ " of key " ++ key.render ++
        " on curve " ++ toString curve ++ " holds key " ++ holder.render)
  | .maskNotInteger mask => some ("Curve mask must be an int, got " ++ mask.render)
  | .negativeMask bits => some ("Curve mask must be non-negative, got " ++ toString bits)
  | .negativeCurve curve => some ("Curve index must be non-negative, got " ++ curve.render)
  | .curveOutOfRange mask count =>
      some ("Mask " ++ mask.text ++ " references curve " ++ toString mask.highest ++
        " but only " ++ count.render ++ " curves exist")
  | .nonPositiveLength length =>
      some ("Curve length must be positive, got " ++ length.display)
  | .negativeHalfWidth halfWidth =>
      some ("Half width must be non-negative, got " ++ halfWidth.display)
  | .positionOffCurve position length =>
      some ("Position " ++ position.display ++ " outside curve of length " ++ length.display)
  | .badNeighborCount count => some ("k must be a positive integer, got " ++ count.render)
  | .badHalfWindow halfWindow =>
      some ("half_window_unit must be a non-negative integer, got " ++ halfWindow.render)
  | .badScale scale => some ("scale must be positive, got " ++ scale.render)
  | .missingRandomSource =>
      some "Random sampling (empty curve mask) requires a random_state."
  | .nonPositiveCount count => some ("k must be positive, got " ++ count.render)
  | .unknownKey key => some key.render
  | .unhashable => none
  | .unordered => none
  | .notNumeric => none
  | .notIntegral => none
  | .notCollection => none
  | .unparsable => none
  | .tooManyDigits => none
  | .undefinedInteger => none
  | .ragged => none
  | .tooDeep => none
  | .notPair => none
  | .negativeShift => none
  | .invalidSeed => none
  | .lengthsDiffer => none
  | .readOnly => none
  | .unknownMetric => none
  | .badLeafSize => none
  | .notFinite => none
  | .wrongDimension => none
  | .outOfRange => none
  | .tooLarge => none
  | .outOfMemory => none
  | .infiniteInteger => none
  | .curveKeyFailed => none
  | .notCounted => none
  | .drawsExhausted => none
  | .machineOverflow => none

/-- The values that a message shows, as far as they may be integers of any size. -/
def shown : Fault → List Value
  | .duplicateKey key => [key.value]
  | .dimensionMismatch key _ _ => [key.value]
  | .repeatedOnCurve key curve => [key.value, curve]
  | .badScaleFactor scale => [scale]
  | .curvesDiffer curve first => [curve, first]
  | .curveMissesDataset curve => [curve]
  | .positionOutsideCurve position key _ _ => [.ofInt position, key.value]
  | .positionOfOtherKey position key _ holder => [.ofInt position, key.value, holder.value]
  | .maskNotInteger mask => [mask]
  | .negativeMask bits => [.ofInt bits]
  | .negativeCurve curve => [curve]
  | .curveOutOfRange _ count => [count]
  | .nonPositiveLength length => [length]
  | .negativeHalfWidth halfWidth => [halfWidth]
  | .positionOffCurve position length => [position, length]
  | .badNeighborCount count => [count]
  | .badHalfWindow halfWindow => [halfWindow]
  | .badScale scale => [scale]
  | .nonPositiveCount count => [count]
  | .unknownKey key => [key.value]
  | _ => []

/-- What is reported of a fault: the fault itself, unless its message cannot be written. -/
def reported (fault : Fault) : Fault :=
  if fault.shown.all Value.isWritable then fault else .tooManyDigits

end Fault

/-- The outcome of an operation that may fail. -/
abbrev Outcome (α : Type) := Except Fault α

end CurveNeighbors
