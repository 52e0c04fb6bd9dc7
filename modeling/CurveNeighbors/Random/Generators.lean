import CurveNeighbors.Random.RandomSource

/-!
# Named generators

Calls that share a generator refer to it by a name. Each call takes up the
generator in the state in which the one before left it.
-/

namespace CurveNeighbors

/-- What a call draws from: a source of its own or a generator that it shares. -/
inductive SourceChoice where
  | own (source : RandomSource)
  | shared (name : String)

structure Generators where
  states : List (String × MersenneTwister)

namespace Generators

def empty : Generators := ⟨[]⟩

def lookup (generators : Generators) (name : String) : RandomSource :=
  match generators.states.lookup name with
  | some state => .generator state
  | none => .absent

/-- Puts a source under a name if it is a generator. -/
def store (generators : Generators) (name : String) (source : RandomSource) : Generators :=
  match source with
  | .generator state => ⟨(name, state) :: generators.states.filter (·.1 != name)⟩
  | _ => generators

def seed (generators : Generators) (name : String) (fresh : MersenneTwister) (value : Value) :
    Outcome Generators := do
  let state ← Seed.ofGenerator fresh value
  return generators.store name (.generator state)

def resolve (generators : Generators) : SourceChoice → RandomSource
  | .own source => source
  | .shared name => generators.lookup name

/-- Keeps what is left of a source that is shared. -/
def keep (generators : Generators) (choice : SourceChoice) (source : RandomSource) : Generators :=
  match choice with
  | .own _ => generators
  | .shared name => generators.store name source

/-- Runs a computation that draws from the chosen source. -/
def run {α : Type} (generators : Generators) (choice : SourceChoice) (drawing : Drawing α) :
    Outcome α × Generators :=
  let (outcome, source) := drawing (generators.resolve choice)
  (outcome, generators.keep choice source)

end Generators

end CurveNeighbors
