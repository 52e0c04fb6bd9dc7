/-!
# Sources of bounded draws

All sampling is written against a source that draws naturals up to a given limit.
The source is a value: a draw gives the number and the source that is left.
`none` says that the source gave out, which lets a finite list of numbers be a
source as well as a generator.
-/

namespace CurveNeighbors

class BoundedDraws (σ : Type) where
  /-- Draws a natural no larger than the limit. -/
  upTo (limit : Nat) (source : σ) : Option (Nat × σ)

namespace BoundedDraws

/-- A list of numbers as a source that gives them in turn and ignores the limit. -/
instance : BoundedDraws (List Nat) where
  upTo _ numbers :=
    match numbers with
    | [] => none
    | number :: rest => some (number, rest)

end BoundedDraws

end CurveNeighbors
