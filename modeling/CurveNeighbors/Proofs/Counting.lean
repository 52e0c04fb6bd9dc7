import CurveNeighbors.Proofs.Neighbors.Searches

/-!
# Computations that count steadily

A computation that counts calls is steady if it is not told how much has been counted
before: it has one outcome, and adds one number to any count. Searches are steady, since
all that they count are evaluations of a distance.
-/

namespace CurveNeighbors

namespace Counting

variable {α β σ : Type}

/-- What a computation adds to a count that starts at zero. -/
def cost (computation : Counting α) : Nat :=
  (computation 0).2

def Steady (computation : Counting α) : Prop :=
  ∀ count, computation count = (computation.outcome, count + computation.cost)

theorem steady_pure (result : Outcome α) : (Counting.pure result).Steady := by
  intro count
  simp only [Counting.pure, outcome, cost, Nat.add_zero]

theorem steady_return (result : α) : (Pure.pure result : Counting α).Steady :=
  steady_pure (.ok result)

theorem steady_throw (fault : Fault) : (throw fault : Counting α).Steady :=
  steady_pure (.error fault)

theorem Steady.bind_apply {computation : Counting α} {next : α → Counting β}
    (steady : computation.Steady) (each : ∀ result, (next result).Steady) (count : Nat) :
    (computation >>= next) count =
      match computation.outcome with
      | .error fault => (.error fault, count + computation.cost)
      | .ok result => ((next result).outcome, count + (computation.cost + (next result).cost)) := by
  rw [Computation.bind_apply, steady count]
  cases computation.outcome with
  | error fault => rfl
  | ok result =>
      simp only [each result (count + _)]
      exact congrArg _ (Nat.add_assoc ..)

theorem Steady.bind {computation : Counting α} {next : α → Counting β}
    (steady : computation.Steady) (each : ∀ result, (next result).Steady) :
    (computation >>= next).Steady := by
  intro count
  rw [outcome, cost, steady.bind_apply each count, steady.bind_apply each 0]
  cases computation.outcome <;> simp only [Nat.zero_add]

theorem outcome_bind_of_steady {computation : Counting α} {next : α → Counting β}
    (each : ∀ result, (next result).Steady) :
    (computation >>= next).outcome =
      computation.outcome >>= fun result => (next result).outcome := by
  apply bind_outcome
  intro result left
  simp only [each result left]

theorem steady_mapM {f : α → Counting β} {items : List α}
    (each : ∀ item ∈ items, (f item).Steady) : (items.mapM f).Steady := by
  induction items with
  | nil => exact steady_return []
  | cons item items ih =>
      rcases List.forall_mem_cons.mp each with ⟨first, others⟩
      rw [List.mapM_cons]
      apply first.bind
      intro result
      apply (ih others).bind
      intro results
      exact steady_return (result :: results)

theorem steady_foldlM {step : σ → α → Counting σ} {items : List α}
    (each : ∀ item ∈ items, ∀ state, (step state item).Steady) (start : σ) :
    (items.foldlM step start).Steady := by
  induction items generalizing start with
  | nil => exact steady_return start
  | cons item items ih =>
      rcases List.forall_mem_cons.mp each with ⟨first, others⟩
      rw [List.foldlM_cons]
      apply (first start).bind
      intro next
      exact ih others next

/-- The outcome of steady computations, one after the other, is that of their outcomes. -/
theorem outcome_mapM {f : α → Counting β} {items : List α}
    (each : ∀ item ∈ items, (f item).Steady) :
    (items.mapM f).outcome = items.mapM fun item => (f item).outcome := by
  induction items with
  | nil => rfl
  | cons item items ih =>
      rcases List.forall_mem_cons.mp each with ⟨first, others⟩
      rw [List.mapM_cons, Outcome.mapM_cons, ← ih others]
      have rest (result : β) : (items.mapM f >>= fun results =>
          (Pure.pure (result :: results) : Counting (List β))).Steady :=
        (steady_mapM others).bind fun results => steady_return (result :: results)
      rw [outcome_bind_of_steady rest]
      apply bind_congr
      intro result
      exact outcome_bind_of_steady fun results => steady_return (result :: results)

end Counting

/-! ## Searches -/

section

variable (distance : Distance) (dataset : Dataset) (query : Point)

theorem steady_evaluate (left right : Point) : (distance.evaluate left right).Steady := by
  intro evaluations
  rw [Counting.cost, evaluate_apply distance left right evaluations, evaluate_apply distance left
    right 0]

theorem steady_scoreCandidate (candidate : Value) :
    (scoreCandidate distance dataset query candidate).Steady := by
  apply (Counting.steady_pure _).bind
  intro key
  apply (Counting.steady_pure _).bind
  intro row
  apply (Counting.steady_pure _).bind
  intro point
  apply (steady_evaluate distance query point).bind
  intro value
  exact Counting.steady_return _

theorem steady_offerCandidate (heap : BoundedHeap) (candidate : Value) :
    (offerCandidate distance dataset query heap candidate).Steady := by
  apply (steady_scoreCandidate distance dataset query candidate).bind
  intro scored
  split
  · exact Counting.steady_return _
  · exact Counting.steady_throw _

theorem steady_rerank (candidates : List Value) (count : Value) :
    (rerank distance dataset candidates query count).Steady := by
  apply (Counting.steady_pure _).bind
  intro number
  apply (Counting.steady_foldlM (fun candidate _ heap =>
    steady_offerCandidate distance dataset query heap candidate) _).bind
  intro heap
  apply (Counting.steady_pure _).bind
  intro sorted
  exact Counting.steady_return _

end

end CurveNeighbors
