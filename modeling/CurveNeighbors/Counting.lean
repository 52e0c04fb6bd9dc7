import CurveNeighbors.Fault

/-!
# Counting while computing

Calls of a curve key and evaluations of a distance are counted. A `Counting`
computation carries the count through and keeps it when it fails, so that what
was spent on a failure is known as well.
-/

namespace CurveNeighbors

/-- A computation that may fail and counts calls while it runs. -/
abbrev Counting (α : Type) := ExceptT Fault (StateM Nat) α

namespace Counting

def pure {α : Type} (outcome : Outcome α) : Counting α :=
  fun count => (outcome, count)

def once {α : Type} (outcome : Outcome α) : Counting α :=
  fun count => (outcome, count + 1)

/-- The outcome of a computation whose calls are counted from the beginning and then forgotten. -/
def outcome {α : Type} (computation : Counting α) : Outcome α :=
  (computation 0).1

end Counting

end CurveNeighbors
