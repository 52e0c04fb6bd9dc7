import CurveNeighbors.Random.Seeds

/-!
# Sources of randomness

A caller gives a call a seed or a generator to draw from, or nothing. A seed
stands for a new generator each time it is used; a generator is advanced by what
is drawn from it.
-/

namespace CurveNeighbors

/-- What a caller gives to draw from. -/
inductive RandomSource where
  | absent
  | seed (value : Value)
  | generator (state : MersenneTwister)

namespace RandomSource

def start : RandomSource → Outcome MersenneTwister
  | .absent => .error .missingRandomSource
  | .seed value =>
      match value with
      | .null => .error .missingRandomSource
      | value => Seed.ofCall value
  | .generator state => .ok state

/-- What is left of a source when the generator to draw from has come to the given state. -/
def advanced (source : RandomSource) (state : MersenneTwister) : RandomSource :=
  match source with
  | .generator _ => .generator state
  | source => source

end RandomSource

/-- A computation that may fail and may draw from a source of randomness. The source is kept when
it fails. -/
abbrev Drawing (α : Type) := ExceptT Fault (StateM RandomSource) α

namespace Drawing

def pure {α : Type} (outcome : Outcome α) : Drawing α :=
  fun source => (outcome, source)

/-- The generator to draw from. -/
def start : Drawing MersenneTwister :=
  fun source => (source.start, source)

/-- The result of draws from the given state of the generator, and what is left of the source after
them. Draws that come to no end are a fault of their own, which stands for a call that never
returns. -/
def draw {α : Type} (state : MersenneTwister)
    (draws : MersenneTwister → Option (α × MersenneTwister)) : Drawing α :=
  fun source =>
    match draws state with
    | some (result, state) => (.ok result, source.advanced state)
    | none => (.error .drawsExhausted, source)

end Drawing

end CurveNeighbors
