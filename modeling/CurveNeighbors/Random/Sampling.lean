import CurveNeighbors.Random.BoundedDraws

/-!
# Random samples of rows

A sample of rows without repetition is drawn in one of two ways. A small one is
collected: rows are drawn one by one, and a row that was drawn before is passed
over. A large one is cut from a shuffle of all rows, since collecting would pass
over most draws. The limit between the two is one half of the rows. `sample`
chooses between them; either can also be asked for by itself. Collecting goes on
for as long as it takes, so there is no result if the source never gives enough.

A shuffle swaps each place, from the last one down, with a place drawn from those
up to it. Whatever is drawn, the result is an arrangement of all rows.
-/

namespace CurveNeighbors

namespace Sampling

variable {σ : Type} [BoundedDraws σ]

/-- Draws rows below `population` until `size` different ones have been gathered. -/
def gather (population size : Nat) (rows : List Nat) (source : σ) : Option (List Nat × σ) :=
  if size ≤ rows.length then some (rows, source)
  else do
    let (row, source) ← BoundedDraws.upTo (population - 1) source
    by
      apply gather
      · exact population
      · exact size
      · exact if rows.contains row then rows else rows ++ [row]
      · exact source
partial_fixpoint

/-- Swaps each of the places from `place` down to the first but one with a drawn place. -/
def shuffleFrom : (place : Nat) → (rows : Array Nat) → σ → Option (Array Nat × σ)
  | 0, rows, source => some (rows, source)
  | place + 1, rows, source => do
      let (other, source) ← BoundedDraws.upTo (place + 1) source
      shuffleFrom place (rows.swapIfInBounds (place + 1) other) source

def shuffle (population : Nat) (source : σ) : Option (List Nat × σ) := do
  let (rows, source) ← shuffleFrom (population - 1) (Array.range population) source
  return (rows.toList, source)

def collected (population size : Nat) (source : σ) : Option (List Nat × σ) :=
  gather population size [] source

/-- A sample of `size` different rows below `population`. -/
def sample (population size : Nat) (source : σ) : Option (List Nat × σ) :=
  if 2 * size ≤ population then collected population size source
  else do
    let (rows, source) ← shuffle population source
    return (rows.take size, source)

end Sampling

end CurveNeighbors
