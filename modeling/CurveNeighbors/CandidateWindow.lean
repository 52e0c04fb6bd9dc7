import CurveNeighbors.Value.Reading

/-!
# Windows of positions on a curve

The candidates of a query on one curve are the keys at the positions closest to
its own. `candidateWindow` gives that range of positions. Near an end of the
curve the window is shifted inwards instead of being cut off, so it keeps its
full width of `2 * halfWidth + 1` for as long as the curve has that many
positions; on a shorter curve it is the whole curve.

Lengths, positions and widths are integers here, because callers may ask for
windows that do not exist and are to be told what is wrong with them. They may even
be values of other types, which `CandidateWindow.read` tells apart in the order in
which it needs them.
-/

namespace CurveNeighbors

/-- The positions from `low` to `high`, both included, and the width that was asked for. -/
structure CandidateWindow where
  low : Int
  high : Int
  requestedSize : Int
deriving DecidableEq

namespace CandidateWindow

def size (window : CandidateWindow) : Int :=
  window.high - window.low + 1

/-- Whether the curve was too short for the width that was asked for. -/
def isTruncated (window : CandidateWindow) : Bool :=
  window.size < window.requestedSize

/-- Whether the window spans a whole curve of the given length. -/
def covers (window : CandidateWindow) (length : Int) : Bool :=
  window.low = 0 ∧ window.high = length - 1

def contains (window : CandidateWindow) (position : Int) : Bool :=
  window.low ≤ position ∧ position ≤ window.high

/-- Whether the window spans a whole curve whose length is a value of any type. The length does not
matter to a window that begins elsewhere. -/
def coversValue (window : CandidateWindow) (length : Value) : Outcome Bool :=
  if window.low = 0 then do
    match (← length.toNumber).difference? (.whole 1) with
    | some last => return last.same (.whole window.high)
    | none => throw .tooLarge
  else .ok false

theorem coversValue_ofInt (window : CandidateWindow) (length : Int) :
    window.coversValue (.ofInt length) = .ok (window.covers length) := by
  have known : (Value.ofInt length).toNumber = .ok (.whole length) := rfl
  by_cases first : window.low = 0
  · simp [coversValue, covers, first, known, bind, Except.bind, Number.difference?, pure,
      Except.pure, eq_comm]
  · simp [coversValue, covers, first]

/-- Whether a value of any type is a position in the window. The truth values are the positions
zero and one, and no double is a position. -/
def containsValue (window : CandidateWindow) : Value → Bool
  | .truth value => window.contains (if value then 1 else 0)
  | .number (.whole position) => window.contains position
  | _ => false

def first? (window : CandidateWindow) : Option Int :=
  if window.low ≤ window.high then some window.low else none

def last? (window : CandidateWindow) : Option Int :=
  if window.low ≤ window.high then some window.high else none

/-- The window of the `2 * halfWidth + 1` positions closest to the given one, on a curve of the
given length that has this position. -/
def around (length position halfWidth : Int) : CandidateWindow :=
  let width := 2 * halfWidth + 1
  if length ≤ width then ⟨0, length - 1, width⟩
  else if position ≤ halfWidth then ⟨0, 2 * halfWidth, width⟩
  else if length ≤ position + halfWidth then ⟨length - width, length - 1, width⟩
  else ⟨position - halfWidth, position + halfWidth, width⟩

end CandidateWindow

/-- The window around a position, unless the curve has no positions at all, the half width is
negative or the position is not on the curve. -/
def candidateWindow (length position halfWidth : Int) : Outcome CandidateWindow :=
  if length ≤ 0 then .error (.nonPositiveLength (.ofInt length))
  else if halfWidth < 0 then .error (.negativeHalfWidth (.ofInt halfWidth))
  else if position < 0 ∨ length ≤ position then
    .error (.positionOffCurve (.ofInt position) (.ofInt length))
  else .ok (.around length position halfWidth)

namespace CandidateWindow

/-- The window for a length, a position and a half width of any type. They are looked at one after
the other, and each of them is compared before the next one is asked to be a number at all. -/
def read (length position halfWidth : Value) : Outcome CandidateWindow := do
  let size ← length.toNumber
  if size.atMost (.whole 0) then throw (.nonPositiveLength length)
  let reach ← halfWidth.toNumber
  if reach.less (.whole 0) then throw (.negativeHalfWidth halfWidth)
  let place ← position.toNumber
  if !(Number.whole 0).atMost place || !place.less size then
    throw (.positionOffCurve position length)
  candidateWindow (← length.toPosition) (← position.toPosition) (← halfWidth.toPosition)

theorem read_ofInt (length position halfWidth : Int) :
    read (.ofInt length) (.ofInt position) (.ofInt halfWidth) =
      candidateWindow length position halfWidth := by
  have known (value : Int) : (Value.ofInt value).toNumber = .ok (.whole value) := rfl
  have placed (value : Int) : (Value.ofInt value).toPosition = .ok value := rfl
  have outside : (!decide (0 ≤ position) || !decide (position < length)) =
      decide (position < 0 ∨ length ≤ position) := by
    rw [Bool.eq_iff_iff]
    simp
  simp only [read, known, placed, candidateWindow, bind, Except.bind, Number.atMost_whole,
    Number.less_whole, outside]
  by_cases none : length ≤ 0 <;> by_cases negative : halfWidth < 0 <;>
    by_cases off : position < 0 ∨ length ≤ position <;>
    simp [none, negative, off, throw, throwThe, MonadExceptOf.throw]

end CandidateWindow

end CurveNeighbors
