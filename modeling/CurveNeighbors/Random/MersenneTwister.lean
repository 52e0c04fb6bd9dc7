import CurveNeighbors.Random.BoundedDraws

/-!
# The Mersenne Twister

The generator MT19937: a block of 624 words of 32 bits that are given out one
after the other, each tempered on its way, and replaced by the next block when
all are spent. All arithmetic wraps at 32 bits. A first block follows from a word
or from a key of any number of words.

A number no larger than a limit is drawn by rejection: an output is cut to as
many bits as the limit has, and discarded if it is still larger. Each output is
accepted with a probability of more than one half. If none ever were, the draw
would not come to an end, and there is no result for it.
-/

namespace CurveNeighbors

/-- A block of words and how many of them are spent. -/
structure MersenneTwister where
  words : Vector UInt32 624
  position : Nat

namespace MersenneTwister

def wordAt (words : Vector UInt32 624) (index : Nat) : UInt32 :=
  words.get ⟨index % 624, Nat.mod_lt _ (by decide)⟩

def setWord (words : Vector UInt32 624) (index : Nat) (word : UInt32) : Vector UInt32 624 :=
  words.setIfInBounds index word

def seedWords : (count : Nat) → UInt32 → Nat → List UInt32
  | 0, _, _ => []
  | count + 1, previous, index =>
      let word := (1812433253 : UInt32) * (previous ^^^ (previous >>> 30)) + UInt32.ofNat index
      word :: seedWords count word (index + 1)

def blockOfSeed (seed : UInt32) : Vector UInt32 624 :=
  let words := (seed :: seedWords 623 seed 1).toArray
  Vector.ofFn fun index => words.getD index.val 0

/-- The generator with the given seed. Its first block is spent before the first output. -/
def ofSeed (seed : UInt32) : MersenneTwister :=
  ⟨blockOfSeed seed, 624⟩

/-- The word at an index, changed by the one before it. -/
def spreadWord (factor : UInt32) (words : Vector UInt32 624) (index : Nat) : UInt32 :=
  let previous := wordAt words (index - 1)
  wordAt words index ^^^ ((previous ^^^ (previous >>> 30)) * factor)

/-- Replaces the word at an index and goes on to the next. Behind the last word the first one takes
the value of the last, and the second is next. -/
def replaceNext (words : Vector UInt32 624) (index : Nat) (word : UInt32) :
    Vector UInt32 624 × Nat :=
  let words := setWord words index word
  if index = 623 then (setWord words 0 word, 1) else (words, index + 1)

/-- Adds the word of a key at a step to the word of the block at an index. The key is read over and
over. -/
def absorbKeyWord (key : Array UInt32) (block : Vector UInt32 624 × Nat) (step : Nat) :
    Vector UInt32 624 × Nat :=
  let place := step % key.size
  let addend := key.getD place 0 + UInt32.ofNat place
  replaceNext block.1 block.2 (spreadWord 1664525 block.1 block.2 + addend)

/-- Subtracts its index from the word of the block at an index. -/
def settleWord (block : Vector UInt32 624 × Nat) : Vector UInt32 624 × Nat :=
  replaceNext block.1 block.2 (spreadWord 1566083941 block.1 block.2 - UInt32.ofNat block.2)

/-- The generator with the given key. Each word of the key goes into the block at least once. -/
def ofKey (key : List UInt32) : MersenneTwister :=
  let key := key.toArray
  let absorbed := (List.range (max 624 key.size)).foldl (absorbKeyWord key)
    (blockOfSeed 19650218, 1)
  let settled := (List.range 623).foldl (fun block _ => settleWord block) absorbed
  ⟨setWord settled.1 0 0x80000000, 624⟩

def twistedWord (words : Vector UInt32 624) (index : Nat) : UInt32 :=
  let joined := (wordAt words index &&& 0x80000000) ||| (wordAt words (index + 1) &&& 0x7FFFFFFF)
  let shifted := joined >>> 1
  let mixed := if joined &&& 1 = 1 then shifted ^^^ 0x9908B0DF else shifted
  wordAt words (index + 397) ^^^ mixed

/-- The block after the given one. Words are replaced in order, and later ones are computed from
earlier ones that are new already. -/
def twist (words : Vector UInt32 624) : Vector UInt32 624 :=
  (List.range 624).foldl (fun words index => setWord words index (twistedWord words index)) words

def temper (word : UInt32) : UInt32 :=
  let first := word ^^^ (word >>> 11)
  let second := first ^^^ ((first <<< 7) &&& 0x9D2C5680)
  let third := second ^^^ ((second <<< 15) &&& 0xEFC60000)
  third ^^^ (third >>> 18)

def next (generator : MersenneTwister) : UInt32 × MersenneTwister :=
  if generator.position < 624 then
    (temper (wordAt generator.words generator.position),
      { generator with position := generator.position + 1 })
  else
    let words := twist generator.words
    (temper (wordAt words 0), ⟨words, 1⟩)

/-- The smallest number of the form `2 ^ bits - 1` that is no smaller than a positive limit. -/
def maskOf (limit : Nat) : Nat :=
  1 <<< (limit.log2 + 1) - 1

/-- What an output comes to when it is cut to the mask of a limit. -/
def cut (limit : Nat) (output : UInt32) : Nat :=
  output.toNat &&& maskOf limit

/-- Draws outputs until one is no larger than the limit when cut to its mask. -/
def drawUpTo (limit : Nat) (generator : MersenneTwister) : Option (Nat × MersenneTwister) :=
  let (output, generator) := generator.next
  if cut limit output ≤ limit then some (cut limit output, generator)
  else by
    -- Written as a term, the call would keep its place in this file as a part of the definition.
    apply drawUpTo
    · exact limit
    · exact generator
partial_fixpoint

/-- A limit of zero needs no output. -/
instance : BoundedDraws MersenneTwister where
  upTo limit generator :=
    if limit = 0 then some (0, generator) else drawUpTo limit generator

end MersenneTwister

end CurveNeighbors
