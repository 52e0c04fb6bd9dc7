import CurveNeighbors.Random.MersenneTwister

/-!
# Generators spawned from one seed

The queries of a batch draw from generators of their own, which are spawned from
the seed of the batch. The words of the seed and the number of the child are
hashed into a pool of four words, and the pool is hashed out into the block of a
generator. A child depends on nothing but the seed and its number.
-/

namespace CurveNeighbors

namespace SeedTree

/-- The 32-bit words of a natural, the least significant one first. Zero has one word. -/
def wordsOf (value : Nat) : List UInt32 :=
  let word := UInt32.ofNat (value % 0x100000000)
  let rest := value / 0x100000000
  if rest = 0 then [word] else word :: wordsOf rest
termination_by value
decreasing_by omega

/-- The words of a seed, filled up to at least four, and after them those of the child. -/
def entropy (seed : List UInt32) (child : Nat) : List UInt32 :=
  seed ++ List.replicate (4 - seed.length) 0 ++ wordsOf child

/-- Hashes a word with a running factor. Gives the hash and the next factor. -/
def hash (multiplier factor word : UInt32) : UInt32 × UInt32 :=
  let next := factor * multiplier
  let product := (word ^^^ factor) * next
  (product ^^^ (product >>> 16), next)

def hashIn (factor word : UInt32) : UInt32 × UInt32 :=
  hash 0x931E8875 factor word

def mix (left right : UInt32) : UInt32 :=
  let mixed := (0xCA01F9DD : UInt32) * left - (0x4973F715 : UInt32) * right
  mixed ^^^ (mixed >>> 16)

/-- Four words into which entropy is mixed, and the running factor. -/
structure Pool where
  words : Vector UInt32 4
  factor : UInt32

namespace Pool

/-- Mixes a word into the word of the pool at an index. -/
def absorb (pool : Pool) (index : Fin 4) (word : UInt32) : Pool :=
  let (hashed, factor) := hashIn pool.factor word
  ⟨pool.words.set index (mix pool.words[index] hashed), factor⟩

/-- Sets the word of the pool at an index to the hash of a word. -/
def fill (pool : Pool) (index : Fin 4) (word : UInt32) : Pool :=
  let (hashed, factor) := hashIn pool.factor word
  ⟨pool.words.set index hashed, factor⟩

/-- Mixes each word of the pool into each of the others. -/
def stir (pool : Pool) : Pool :=
  (List.finRange 4).foldl
    (fun pool source =>
      (List.finRange 4).foldl
        (fun pool target =>
          if source = target then pool else pool.absorb target pool.words[source])
        pool)
    pool

def absorbAll (pool : Pool) (word : UInt32) : Pool :=
  (List.finRange 4).foldl (fun pool target => pool.absorb target word) pool

/-- The pool of some entropy: its first four words fill the pool, which is stirred, and then takes
in the rest. -/
def ofEntropy (entropy : List UInt32) : Pool :=
  let start : Pool := ⟨Vector.replicate 4 0, 0x43B0D7E5⟩
  let filled := (List.finRange 4).foldl
    (fun pool index => pool.fill index (entropy.getD index.val 0)) start
  (entropy.drop 4).foldl absorbAll filled.stir

/-- Words hashed out of the pool, which is read over and over. -/
def output (pool : Pool) : (count : Nat) → UInt32 → Nat → List UInt32
  | 0, _, _ => []
  | count + 1, factor, index =>
      let word := pool.words.get ⟨index % 4, Nat.mod_lt _ (by decide)⟩
      let (hashed, factor) := hash 0x58F38DED factor word
      hashed :: output pool count factor (index + 1)

end Pool

/-- The generator of a child of a seed. The first word of its block is fixed, and of the first block
only the last word is given out. -/
def spawn (seed : List UInt32) (child : Nat) : MersenneTwister :=
  let words := ((Pool.ofEntropy (entropy seed child)).output 624 0x8B51F9DD 0).toArray
  ⟨(Vector.ofFn fun index => words.getD index.val 0).set 0 0x80000000, 623⟩

end SeedTree

end CurveNeighbors
