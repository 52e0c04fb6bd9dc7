import CurveNeighbors.Random.MersenneTwister
import CurveNeighbors.Random.Sampling
import CurveNeighbors.Selection
import Mathlib.Data.Finset.Card

/-!
# What a sample of rows holds

Both ways of drawing a sample give as many different rows as are asked for, whatever is
drawn. Gathering stops at the first draw that makes the rows enough: the rows are the
different numbers in the beginning of the stream of draws, and in no shorter beginning
are there as many. Shuffling exchanges two places at a time, so it keeps all rows, and
the first of them are different.
-/

namespace CurveNeighbors

/-- A source whose draws stay within the limit. -/
class LawfulDraws (σ : Type) [BoundedDraws σ] : Prop where
  le_limit {limit drawn : Nat} {source left : σ}
    (success : BoundedDraws.upTo limit source = some (drawn, left)) : drawn ≤ limit

namespace MersenneTwister

theorem le_of_drawUpTo {limit drawn : Nat} {generator left : MersenneTwister}
    (success : drawUpTo limit generator = some (drawn, left)) : drawn ≤ limit := by
  refine drawUpTo.partial_correctness limit (fun _ found => found.1 ≤ limit) ?_ generator
    (drawn, left) success
  intro draw ih generator found success
  dsimp only at success
  split at success
  · next within =>
      cases success
      exact within
  · exact ih _ _ success

/-- A limit of one takes every output. -/
theorem upTo_one (generator : MersenneTwister) :
    BoundedDraws.upTo 1 generator = some (cut 1 generator.next.1, generator.next.2) := by
  have drawn : drawUpTo 1 generator = some (cut 1 generator.next.1, generator.next.2) := by
    rw [drawUpTo]
    exact if_pos Nat.and_le_right
  exact (if_neg Nat.one_ne_zero).trans drawn

instance : LawfulDraws MersenneTwister where
  le_limit {limit drawn source left} success := by
    simp only [BoundedDraws.upTo] at success
    split at success
    · cases success
      exact Nat.zero_le limit
    · exact le_of_drawUpTo success

end MersenneTwister

namespace Sampling

variable {σ : Type} [BoundedDraws σ]

/-- The first numbers that a source gives for a limit, and what is left of the source. -/
def stream (limit : Nat) : (count : Nat) → σ → Option (List Nat × σ)
  | 0, source => some ([], source)
  | count + 1, source => do
      let (first, source) ← BoundedDraws.upTo limit source
      let (rest, source) ← stream limit count source
      return (first :: rest, source)

theorem le_of_stream [LawfulDraws σ] {limit count : Nat} {source left : σ} {drawn : List Nat}
    (success : stream limit count source = some (drawn, left)) : ∀ row ∈ drawn, row ≤ limit := by
  induction count generalizing source drawn with
  | zero =>
      cases success
      simp
  | succ count ih =>
      rw [stream] at success
      rcases Option.bind_eq_some_iff.mp success with ⟨⟨first, next⟩, draws, success⟩
      rcases Option.bind_eq_some_iff.mp success with ⟨⟨rest, final⟩, others, success⟩
      cases success
      exact List.forall_mem_cons.mpr ⟨LawfulDraws.le_limit draws, ih others⟩

/-! ## Gathering -/

theorem gatherStep_spec {rows : List Nat} (different : rows.Nodup) (row : Nat) :
    (if rows.contains row then rows else rows ++ [row]).Nodup ∧
      (if rows.contains row then rows else rows ++ [row]).length ≤ rows.length + 1 ∧
      (if rows.contains row then rows else rows ++ [row]).toFinset = insert row rows.toFinset := by
  split
  · next known =>
      refine ⟨different, Nat.le_succ _, ?_⟩
      rw [Finset.insert_eq_of_mem (by simpa using known)]
  · next new =>
      have absent : row ∉ rows := by simpa using new
      refine ⟨List.Nodup.append different (List.nodup_singleton row) ?_, by simp, by simp⟩
      simpa using absent

/-- Rows are gathered from the shortest beginning of the stream that has enough of them together
with those that are there already. -/
structure IsGathered (population size : Nat) (rows : List Nat) (source : σ) (gathered : List Nat)
    (left : σ) : Prop where
  different : gathered.Nodup
  length : gathered.length = size
  drawn : ∃ drawn, stream (population - 1) drawn.length source = some (drawn, left) ∧
    gathered.toFinset = rows.toFinset ∪ drawn.toFinset ∧
    ∀ fewer < drawn.length, (rows.toFinset ∪ (drawn.take fewer).toFinset).card < size

theorem IsGathered.of_enough {population size : Nat} {rows : List Nat} (different : rows.Nodup)
    (few : rows.length ≤ size) (enough : size ≤ rows.length) (source : σ) :
    IsGathered population size rows source rows source :=
  ⟨different, Nat.le_antisymm few enough, [], rfl, by simp, by simp⟩

theorem IsGathered.of_step {population size row : Nat} {rows gathered : List Nat}
    {source next left : σ} (different : rows.Nodup) (notEnough : ¬ size ≤ rows.length)
    (draws : BoundedDraws.upTo (population - 1) source = some (row, next))
    (isGathered : IsGathered population size
      (if rows.contains row then rows else rows ++ [row]) next gathered left) :
    IsGathered population size rows source gathered left := by
  rcases isGathered with ⟨isDifferent, isEnough, drawn, isStream, isUnion, tooFew⟩
  rcases gatherStep_spec different row with ⟨_, _, grown⟩
  refine ⟨isDifferent, isEnough, row :: drawn, ?_, ?_, ?_⟩
  · rw [List.length_cons, stream, draws, Option.bind_eq_bind, Option.bind_some]
    dsimp only
    rw [isStream]
    rfl
  · rw [isUnion, grown, List.toFinset_cons, Finset.insert_union_comm]
  · intro fewer isFewer
    cases fewer with
    | zero =>
        rw [List.take_zero, List.toFinset_nil, Finset.union_empty,
          List.toFinset_card_of_nodup different]
        omega
    | succ fewer =>
        rw [List.length_cons] at isFewer
        have below := tooFew fewer (by omega)
        rw [grown] at below
        rw [List.take_succ_cons, List.toFinset_cons, ← Finset.insert_union_comm]
        exact below

/-- Gathered rows are the numbers in the shortest beginning of the stream that has enough. -/
theorem isGathered_of_gather {population size : Nat} {rows gathered : List Nat} {source left : σ}
    (success : gather population size rows source = some (gathered, left))
    (different : rows.Nodup) (few : rows.length ≤ size) :
    IsGathered population size rows source gathered left := by
  -- The rows that are there already take the part of a beginning that was drawn before.
  refine gather.partial_correctness population size
    (fun rows source found => rows.Nodup → rows.length ≤ size →
      IsGathered population size rows source found.1 found.2)
    ?_ rows source (gathered, left) success different few
  intro more ih rows source found success different few
  split at success
  · next enough =>
      cases success
      exact .of_enough different few enough source
  · next notEnough =>
      rcases Option.bind_eq_some_iff.mp success with ⟨⟨row, next⟩, draws, success⟩
      rcases gatherStep_spec different row with ⟨stillDifferent, atMostOne, _⟩
      exact .of_step different notEnough draws (ih _ _ _ success stillDifferent (by omega))

/-! ## Shuffling -/

/-- The limits of the draws for the places from `place` down to the first but one. -/
def shuffleLimits : (place : Nat) → List Nat
  | 0 => []
  | place + 1 => (place + 1) :: shuffleLimits place

theorem shuffleFrom_perm {place : Nat} {rows shuffled : Array Nat} {source left : σ}
    (success : shuffleFrom place rows source = some (shuffled, left)) : shuffled.Perm rows := by
  induction place generalizing rows source with
  | zero =>
      cases success
      exact .refl _
  | succ place ih =>
      rw [shuffleFrom] at success
      rcases Option.bind_eq_some_iff.mp success with ⟨⟨other, next⟩, _, success⟩
      exact (ih success).trans (Selection.swapIfInBounds_perm ..)

/-- Whatever is drawn, a shuffle arranges all rows. -/
theorem shuffle_perm {population : Nat} {source left : σ} {rows : List Nat}
    (success : shuffle population source = some (rows, left)) :
    rows.Perm (List.range population) := by
  rw [shuffle] at success
  rcases Option.bind_eq_some_iff.mp success with ⟨⟨shuffled, next⟩, run, success⟩
  cases success
  have perm := Array.perm_iff_toList_perm.mp (shuffleFrom_perm run)
  rwa [Array.toList_range] at perm

/-! ## Both ways -/

/-- A sample: different rows, as many as are asked for, either from the stream or from a shuffle. -/
structure IsSample (population size : Nat) (source : σ) (rows : List Nat) (left : σ) : Prop where
  different : rows.Nodup
  length : rows.length = size
  inside : ∀ row ∈ rows, row < population
  collected : 2 * size ≤ population →
    ∃ drawn, stream (population - 1) drawn.length source = some (drawn, left) ∧
      rows.toFinset = drawn.toFinset ∧
      ∀ fewer < drawn.length, (drawn.take fewer).toFinset.card < size
  shuffled : population < 2 * size →
    ∃ arrangement, shuffle population source = some (arrangement, left) ∧
      arrangement.Perm (List.range population) ∧ rows = arrangement.take size

theorem isSample_of_sample [LawfulDraws σ] {population size : Nat} {source left : σ}
    {rows : List Nat} (some_rows : 0 < population) (possible : size ≤ population)
    (success : sample population size source = some (rows, left)) :
    IsSample population size source rows left := by
  rw [sample] at success
  split at success
  · next small =>
      rcases isGathered_of_gather success .nil (Nat.zero_le size) with
        ⟨different, length, drawn, isStream, same, tooFew⟩
      rw [List.toFinset_nil, Finset.empty_union] at same
      refine ⟨different, length, ?_, ?_, by omega⟩
      · intro row isRow
        have isDrawn : row ∈ drawn := by
          rw [← List.mem_toFinset, ← same, List.mem_toFinset]
          exact isRow
        have bound := le_of_stream isStream row isDrawn
        omega
      · intro _
        refine ⟨drawn, isStream, same, ?_⟩
        simpa using tooFew
  · next large =>
      rcases Option.bind_eq_some_iff.mp success with ⟨⟨arrangement, final⟩, run, success⟩
      cases success
      have perm := shuffle_perm run
      refine ⟨?_, ?_, ?_, fun small => absurd small large, fun _ => ⟨arrangement, run, perm, rfl⟩⟩
      · exact (perm.nodup_iff.mpr List.nodup_range).sublist (List.take_sublist ..)
      · rw [List.length_take, perm.length_eq, List.length_range]
        exact Nat.min_eq_left possible
      · intro row isRow
        exact List.mem_range.mp (perm.mem_iff.mp (List.mem_of_mem_take isRow))

/-- Nothing is drawn for a sample without rows. -/
theorem IsSample.left_eq {population : Nat} {source left : σ} {rows : List Nat}
    (isSample : IsSample population 0 source rows left) : left = source := by
  rcases isSample.collected (Nat.zero_le _) with ⟨drawn, isStream, _, tooFew⟩
  cases drawn with
  | nil =>
      cases isStream
      rfl
  | cons first rest => exact absurd (tooFew 0 (Nat.succ_pos _)) (Nat.not_lt_zero _)

theorem IsSample.length_lt {population size : Nat} {source left : σ} {rows : List Nat}
    (isSample : IsSample population size source rows left) {place : Nat}
    (inside : place < population) (notDrawn : place ∉ rows) : rows.length < population := by
  have among : place :: rows ⊆ List.range population := by
    intro row isRow
    rcases List.mem_cons.mp isRow with rfl | isRow
    · exact List.mem_range.mpr inside
    · exact List.mem_range.mpr (isSample.inside row isRow)
  have different := List.nodup_cons.mpr ⟨notDrawn, isSample.different⟩
  have bound := (List.subperm_of_subset different among).length_le
  rw [List.length_range] at bound
  exact bound

theorem exists_sample_two (generator : MersenneTwister) :
    ∃ row left, sample 2 1 generator = some ([row], left) := by
  have small : 2 * 1 ≤ 2 := Nat.le_refl 2
  rw [sample, if_pos small, collected, gather, if_neg (by decide),
    MersenneTwister.upTo_one, Option.bind_eq_bind, Option.bind_some]
  dsimp only
  rw [gather, if_pos (by simp)]
  exact ⟨_, _, rfl⟩

end Sampling

end CurveNeighbors
