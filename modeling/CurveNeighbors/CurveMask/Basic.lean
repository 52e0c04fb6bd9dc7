/-!
# Curve masks

A curve mask is a finite set of curve numbers, held as the natural whose bit `c`
is set when curve `c` is selected. `toList` is the view through which all else is
stated: the selected curves in ascending order. A mask without curves is a
request for a random sample.
-/

namespace CurveNeighbors

/-- A finite set of curve numbers, one bit for each. -/
structure CurveMask where
  bits : Nat
deriving DecidableEq

namespace CurveMask

def empty : CurveMask := ⟨0⟩

/-- The mask that selects exactly the given curves, which may be listed in any order and more than
once. -/
def ofCurves (curves : List Nat) : CurveMask :=
  ⟨curves.foldl (fun bits curve => bits ||| 1 <<< curve) 0⟩

def firstCurves (count : Nat) : CurveMask := ⟨1 <<< count - 1⟩

def selects (mask : CurveMask) (curve : Nat) : Bool :=
  mask.bits.testBit curve

/-- The number of bits up to the highest selected curve. -/
def width (mask : CurveMask) : Nat :=
  if mask.bits = 0 then 0 else mask.bits.log2 + 1

/-- The selected curves in ascending order. -/
def toList (mask : CurveMask) : List Nat :=
  (List.range mask.width).filter mask.selects

def size (mask : CurveMask) : Nat :=
  mask.toList.length

def isEmpty (mask : CurveMask) : Bool :=
  mask.bits == 0

def union (left right : CurveMask) : CurveMask :=
  ⟨left.bits ||| right.bits⟩

def inter (left right : CurveMask) : CurveMask :=
  ⟨left.bits &&& right.bits⟩

/-- The highest selected curve, or -1 when no curve is selected. -/
def highest (mask : CurveMask) : Int :=
  mask.width - 1

/-- The text of a mask: its curves in ascending order. -/
def text (mask : CurveMask) : String :=
  "CurveMask.of(" ++ ", ".intercalate (mask.toList.map toString) ++ ")"

@[simp]
theorem selects_empty (curve : Nat) : empty.selects curve = false := by
  simp [empty, selects]

@[simp]
theorem selects_union (left right : CurveMask) (curve : Nat) :
    (left.union right).selects curve = (left.selects curve || right.selects curve) := by
  simp [union, selects]

@[simp]
theorem selects_inter (left right : CurveMask) (curve : Nat) :
    (left.inter right).selects curve = (left.selects curve && right.selects curve) := by
  simp [inter, selects]

/-- No curve is selected from the width on. -/
theorem selects_eq_false_of_width_le {mask : CurveMask} {curve : Nat} (high : mask.width ≤ curve) :
    mask.selects curve = false := by
  unfold width at high
  split at high
  next empty => simp [selects, empty]
  next nonempty =>
    exact Nat.testBit_lt_two_pow
      (Nat.lt_of_lt_of_le Nat.lt_log2_self (Nat.pow_le_pow_right (by decide) high))

/-- The listed curves are exactly the selected ones. -/
@[simp]
theorem mem_toList {mask : CurveMask} {curve : Nat} :
    curve ∈ mask.toList ↔ mask.selects curve = true := by
  have low (selected : mask.selects curve = true) : curve < mask.width := by
    apply Nat.lt_of_not_le
    intro high
    simp [selects_eq_false_of_width_le high] at selected
  simpa [toList] using low

end CurveMask

end CurveNeighbors
