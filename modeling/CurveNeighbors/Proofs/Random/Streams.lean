import CurveNeighbors.Proofs.Random.Sampling
import Mathlib.Data.Finset.Lattice.Fold

/-!
# Streams that are enough

The outputs of a generator are a stream without an end, and a draw takes the first of them that is
within its limit. So whether a sample comes to an end is a matter of the stream alone. To gather
rows there have to be as many different ones in it as are asked for. To shuffle rows there have to
be, one after the other, outputs within the limits of all places. If this is so the sample is
drawn, and otherwise the draws go on forever. The generator is left behind the outputs that were
taken.
-/

namespace CurveNeighbors

namespace MersenneTwister

/-- The generator when it has given a number of outputs. -/
def after (generator : MersenneTwister) : (count : Nat) → MersenneTwister
  | 0 => generator
  | count + 1 => generator.next.2.after count

/-- The output at a place of the stream. -/
def output (generator : MersenneTwister) (place : Nat) : UInt32 :=
  (generator.after place).next.1

/-- The output at a place is within a limit when it is cut to its mask. -/
def IsWithin (generator : MersenneTwister) (limit place : Nat) : Prop :=
  cut limit (generator.output place) ≤ limit

/-- One after the other there are outputs within certain limits. -/
def Serves (generator : MersenneTwister) : (limits : List Nat) → Prop
  | [] => True
  | limit :: limits =>
      ∃ place, generator.IsWithin limit place ∧ (generator.after (place + 1)).Serves limits

variable {limit number : Nat} {generator left : MersenneTwister}

theorem after_after (generator : MersenneTwister) (first second : Nat) :
    (generator.after first).after second = generator.after (first + second) := by
  induction first generalizing generator with
  | zero => rw [Nat.zero_add, after]
  | succ first ih => rw [Nat.succ_add, after, after, ih]

/-- What is served later is served from the beginning as well. -/
theorem Serves.of_after {count : Nat} {limits : List Nat}
    (serves : (generator.after count).Serves limits) : generator.Serves limits := by
  cases limits with
  | nil => trivial
  | cons limit limits =>
      rcases serves with ⟨place, within, later⟩
      refine ⟨count + place, ?_, ?_⟩
      · rw [IsWithin, output, ← after_after]
        exact within
      · rwa [after_after, ← Nat.add_assoc] at later

/-! ## One draw -/

theorem drawUpTo_of_within (within : generator.IsWithin limit 0) :
    drawUpTo limit generator = some (cut limit generator.next.1, generator.next.2) := by
  rw [drawUpTo]
  exact if_pos within

theorem drawUpTo_of_not_within (beyond : ¬ generator.IsWithin limit 0) :
    drawUpTo limit generator = drawUpTo limit generator.next.2 := by
  rw [drawUpTo]
  exact if_neg beyond

/-- A draw takes an output that is within the limit, and all outputs before it. -/
theorem exists_place_of_drawUpTo (success : drawUpTo limit generator = some (number, left)) :
    ∃ place, generator.IsWithin limit place ∧ cut limit (generator.output place) = number ∧
      left = generator.after (place + 1) := by
  refine drawUpTo.partial_correctness limit
    (fun generator found => ∃ place, generator.IsWithin limit place ∧
      cut limit (generator.output place) = found.1 ∧ found.2 = generator.after (place + 1))
    ?_ generator (number, left) success
  intro draw ih generator found success
  dsimp only at success
  split at success
  · next within =>
      cases success
      exact ⟨0, within, rfl, rfl⟩
  · rcases ih _ _ success with ⟨place, within, isNumber, isLeft⟩
    exact ⟨place + 1, within, isNumber, isLeft⟩

/-- A draw goes no further than any output that is within the limit. -/
theorem exists_drawUpTo {place : Nat} (within : generator.IsWithin limit place) :
    ∃ number, ∃ first ≤ place,
      drawUpTo limit generator = some (number, generator.after (first + 1)) := by
  induction place generalizing generator with
  | zero => exact ⟨_, 0, le_rfl, drawUpTo_of_within within⟩
  | succ place ih =>
      by_cases now : generator.IsWithin limit 0
      · exact ⟨_, 0, Nat.zero_le _, drawUpTo_of_within now⟩
      · have later : generator.next.2.IsWithin limit place := within
        rcases ih later with ⟨number, first, sooner, drawn⟩
        refine ⟨number, first + 1, Nat.succ_le_succ sooner, ?_⟩
        rw [drawUpTo_of_not_within now, drawn]
        rfl

theorem upTo_eq_drawUpTo (positive : 0 < limit) (generator : MersenneTwister) :
    BoundedDraws.upTo limit generator = drawUpTo limit generator :=
  if_neg positive.ne'

end MersenneTwister

namespace Sampling

variable {population size limit count place : Nat} {generator left : MersenneTwister}
  {rows drawn : List Nat}

/-! ## Gathering -/

/-- There are as many different rows in the stream as are asked for. -/
def HasRows (population size : Nat) (generator : MersenneTwister) : Prop :=
  ∃ rows : Finset Nat, rows.card = size ∧ ∀ row ∈ rows, row < population ∧
    ∃ place, MersenneTwister.cut (population - 1) (generator.output place) = row

theorem exists_place_of_stream (positive : 0 < limit)
    (success : stream limit count generator = some (drawn, left)) :
    ∀ row ∈ drawn, ∃ place, MersenneTwister.cut limit (generator.output place) = row := by
  induction count generalizing generator drawn with
  | zero =>
      cases success
      simp
  | succ count ih =>
      rw [stream, MersenneTwister.upTo_eq_drawUpTo positive] at success
      rcases Option.bind_eq_some_iff.mp success with ⟨⟨first, next⟩, draws, success⟩
      rcases Option.bind_eq_some_iff.mp success with ⟨⟨rest, final⟩, others, success⟩
      cases success
      rcases MersenneTwister.exists_place_of_drawUpTo draws with ⟨place, _, isFirst, rfl⟩
      rw [List.forall_mem_cons]
      refine ⟨⟨place, isFirst⟩, ?_⟩
      intro row isRow
      rcases ih others row isRow with ⟨later, isLater⟩
      refine ⟨place + 1 + later, ?_⟩
      rwa [MersenneTwister.output, ← MersenneTwister.after_after]

/-- An output that is beyond the limit is passed over. -/
theorem gather_of_not_within (positive : 0 < population - 1) (notEnough : ¬ size ≤ rows.length)
    (beyond : ¬ generator.IsWithin (population - 1) 0) :
    gather population size rows generator = gather population size rows generator.next.2 := by
  conv_rhs => rw [gather]
  rw [gather, MersenneTwister.upTo_eq_drawUpTo positive, MersenneTwister.upTo_eq_drawUpTo positive,
    MersenneTwister.drawUpTo_of_not_within beyond, if_neg notEnough, if_neg notEnough]

/-- Rows are gathered if those that are wanted are there or among the next outputs. -/
theorem exists_gather (positive : 0 < population - 1) {wanted : Finset Nat}
    (enough : size ≤ wanted.card)
    (each : ∀ row ∈ wanted, row ∈ rows ∨ row ≤ population - 1 ∧
      ∃ place < count, MersenneTwister.cut (population - 1) (generator.output place) = row) :
    ∃ found, gather population size rows generator = some found := by
  induction count generalizing rows generator with
  | zero =>
      have there : wanted ⊆ rows.toFinset := by
        intro row isWanted
        rcases each row isWanted with isRow | ⟨_, place, impossible, _⟩
        · exact List.mem_toFinset.mpr isRow
        · exact absurd impossible (Nat.not_lt_zero _)
      have many := enough.trans ((Finset.card_le_card there).trans rows.toFinset_card_le)
      exact ⟨_, by rw [gather, if_pos many]⟩
  | succ count ih =>
      by_cases many : size ≤ rows.length
      · exact ⟨_, by rw [gather, if_pos many]⟩
      by_cases now : generator.IsWithin (population - 1) 0
      · rw [gather, if_neg many, MersenneTwister.upTo_eq_drawUpTo positive,
          MersenneTwister.drawUpTo_of_within now]
        apply ih
        intro row isWanted
        rcases each row isWanted with isRow | ⟨inside, place, sooner, isOutput⟩
        · left
          split
          · exact isRow
          · exact List.mem_append_left _ isRow
        · cases place with
          | zero =>
              left
              cases isOutput
              split
              · next known => exact List.contains_iff_mem.mp known
              · exact List.mem_append_right _ (List.mem_singleton_self _)
          | succ place => exact .inr ⟨inside, place, Nat.lt_of_succ_lt_succ sooner, isOutput⟩
      · -- The first output is none of those that are wanted, so they all come later.
        rw [gather_of_not_within positive many now]
        apply ih
        intro row isWanted
        rcases each row isWanted with isRow | ⟨inside, place, sooner, isOutput⟩
        · exact .inl isRow
        · cases place with
          | zero =>
              cases isOutput
              exact absurd inside now
          | succ place => exact .inr ⟨inside, place, Nat.lt_of_succ_lt_succ sooner, isOutput⟩

/-- Rows are gathered from a stream if and only if there are enough in it. -/
theorem exists_collected_iff (possible : 2 * size ≤ population) :
    (∃ found, collected population size generator = some found) ↔
      HasRows population size generator := by
  rcases Nat.eq_zero_or_pos size with rfl | some_rows
  · refine ⟨fun _ => ⟨∅, rfl, by simp⟩, fun _ => ⟨([], generator), ?_⟩⟩
    rw [collected, gather, if_pos (Nat.zero_le _)]
  have positive : 0 < population - 1 := by omega
  constructor
  · rintro ⟨⟨rows, left⟩, success⟩
    rcases isGathered_of_gather success .nil (Nat.zero_le _) with
      ⟨different, length, drawn, isStream, same, _⟩
    refine ⟨rows.toFinset, (List.toFinset_card_of_nodup different).trans length, ?_⟩
    intro row isRow
    rw [same, List.toFinset_nil, Finset.empty_union, List.mem_toFinset] at isRow
    have inside := le_of_stream isStream row isRow
    exact ⟨by omega, exists_place_of_stream positive isStream row isRow⟩
  · rintro ⟨rows, rfl, each⟩
    choose! place isPlace using fun row isRow => (each row isRow).2
    have among : ∀ row ∈ rows, row ∈ [] ∨ row ≤ population - 1 ∧
        ∃ first < rows.sup place + 1,
          MersenneTwister.cut (population - 1) (generator.output first) = row := by
      intro row isRow
      have inside := (each row isRow).1
      exact .inr ⟨by omega, place row, Nat.lt_succ_of_le (Finset.le_sup isRow), isPlace row isRow⟩
    exact exists_gather positive le_rfl among

/-! ## Shuffling -/

/-- Rows are shuffled from a stream if and only if it serves the limits of all places. -/
theorem exists_shuffleFrom_iff (shuffled : Array Nat) :
    (∃ found, shuffleFrom place shuffled generator = some found) ↔
      generator.Serves (shuffleLimits place) := by
  induction place generalizing shuffled generator with
  | zero => exact ⟨fun _ => trivial, fun _ => ⟨_, rfl⟩⟩
  | succ place ih =>
      rw [shuffleFrom, MersenneTwister.upTo_eq_drawUpTo (Nat.succ_pos place)]
      constructor
      · rintro ⟨found, success⟩
        rcases Option.bind_eq_some_iff.mp success with ⟨⟨other, next⟩, draws, success⟩
        rcases MersenneTwister.exists_place_of_drawUpTo draws with ⟨first, within, _, rfl⟩
        exact ⟨first, within, (ih _).mp ⟨found, success⟩⟩
      · rintro ⟨first, within, later⟩
        rcases MersenneTwister.exists_drawUpTo within with ⟨other, sooner, before, draws⟩
        rw [draws]
        apply (ih _).mpr
        -- The draw may stop before the output that was found for it.
        have same : (generator.after (sooner + 1)).after (first - sooner) =
            generator.after (first + 1) := by
          rw [MersenneTwister.after_after]
          congr 1
          omega
        rw [← same] at later
        exact later.of_after

theorem exists_shuffle_iff :
    (∃ found, shuffle population generator = some found) ↔
      generator.Serves (shuffleLimits (population - 1)) := by
  rw [← exists_shuffleFrom_iff (Array.range population), shuffle]
  constructor
  · rintro ⟨found, success⟩
    rcases Option.bind_eq_some_iff.mp success with ⟨shuffled, run, _⟩
    exact ⟨shuffled, run⟩
  · rintro ⟨shuffled, run⟩
    rw [run]
    exact ⟨_, rfl⟩

/-! ## Samples -/

/-- The stream of a generator is enough for a sample. -/
structure Suffices (population size : Nat) (generator : MersenneTwister) : Prop where
  gathered : 2 * size ≤ population → HasRows population size generator
  shuffled : population < 2 * size → generator.Serves (shuffleLimits (population - 1))

/-- A sample is drawn if and only if the stream is enough for it. -/
theorem exists_sample_iff :
    (∃ found, sample population size generator = some found) ↔
      Suffices population size generator := by
  rw [sample]
  split
  · next small =>
      rw [exists_collected_iff small]
      exact ⟨fun enough => ⟨fun _ => enough, fun large => absurd small (Nat.not_le.mpr large)⟩,
        fun enough => enough.gathered small⟩
  · next large =>
      have large : population < 2 * size := Nat.not_le.mp large
      have needed : Suffices population size generator ↔
          ∃ found, shuffle population generator = some found := by
        rw [exists_shuffle_iff]
        exact ⟨fun enough => enough.shuffled large,
          fun enough => ⟨fun small => absurd small (Nat.not_le.mpr large), fun _ => enough⟩⟩
      rw [needed]
      cases shuffle population generator <;> simp

/-! ## Outputs that are taken -/

theorem exists_after_of_upTo {number : Nat} (positive : 0 < limit)
    (success : BoundedDraws.upTo limit generator = some (number, left)) :
    ∃ outputs, 0 < outputs ∧ left = generator.after outputs := by
  rw [MersenneTwister.upTo_eq_drawUpTo positive] at success
  rcases MersenneTwister.exists_place_of_drawUpTo success with ⟨place, _, _, rfl⟩
  exact ⟨place + 1, Nat.succ_pos place, rfl⟩

theorem exists_after_of_stream (positive : 0 < limit)
    (success : stream limit count generator = some (drawn, left)) :
    ∃ outputs, count ≤ outputs ∧ left = generator.after outputs := by
  induction count generalizing generator drawn with
  | zero =>
      cases success
      exact ⟨0, le_rfl, rfl⟩
  | succ count ih =>
      rw [stream] at success
      rcases Option.bind_eq_some_iff.mp success with ⟨⟨first, next⟩, draws, success⟩
      rcases Option.bind_eq_some_iff.mp success with ⟨⟨rest, final⟩, others, success⟩
      cases success
      rcases exists_after_of_upTo positive draws with ⟨now, some_outputs, rfl⟩
      rcases ih others with ⟨later, enough, rfl⟩
      exact ⟨now + later, by omega, MersenneTwister.after_after ..⟩

theorem exists_after_of_shuffleFrom {shuffled arranged : Array Nat}
    (success : shuffleFrom place shuffled generator = some (arranged, left)) :
    ∃ outputs, place ≤ outputs ∧ left = generator.after outputs := by
  induction place generalizing shuffled generator with
  | zero =>
      cases success
      exact ⟨0, le_rfl, rfl⟩
  | succ place ih =>
      rw [shuffleFrom] at success
      rcases Option.bind_eq_some_iff.mp success with ⟨⟨other, next⟩, draws, success⟩
      rcases exists_after_of_upTo (Nat.succ_pos place) draws with ⟨now, some_outputs, rfl⟩
      rcases ih success with ⟨later, enough, rfl⟩
      exact ⟨now + later, by omega, MersenneTwister.after_after ..⟩

/-- A sample takes outputs of the generator: at least one for each of its rows, or for all rows but
one. -/
theorem IsSample.exists_after (isSample : IsSample population size generator rows left) :
    ∃ outputs, min size (population - 1) ≤ outputs ∧ left = generator.after outputs := by
  by_cases small : 2 * size ≤ population
  · rcases Nat.eq_zero_or_pos size with rfl | some_rows
    · exact ⟨0, Nat.min_le_left _ _, isSample.left_eq⟩
    rcases isSample.collected small with ⟨drawn, isStream, same, _⟩
    have positive : 0 < population - 1 := by omega
    rcases exists_after_of_stream positive isStream with ⟨outputs, enough, isLeft⟩
    have many : size ≤ drawn.length := by
      rw [← isSample.length, ← List.toFinset_card_of_nodup isSample.different, same]
      exact drawn.toFinset_card_le
    exact ⟨outputs, by omega, isLeft⟩
  · rcases isSample.shuffled (by omega) with ⟨arrangement, run, _⟩
    rw [shuffle] at run
    rcases Option.bind_eq_some_iff.mp run with ⟨⟨shuffled, next⟩, run, success⟩
    cases success
    rcases exists_after_of_shuffleFrom run with ⟨outputs, enough, isLeft⟩
    exact ⟨outputs, by omega, isLeft⟩

end Sampling

end CurveNeighbors
