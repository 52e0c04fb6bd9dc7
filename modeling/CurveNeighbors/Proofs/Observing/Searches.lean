import CurveNeighbors.Proofs.Neighbors.Searches

/-!
# Searching with an observed distance

A distance may be handed in by an observer that has a state of its own. One observer counts the
evaluations, another one notes down the points that are compared, and the plain distance is
what an observer without a state hands in. A search is the same program for all of them: if
the states of two observers are related and stay so with every evaluation, they are related
after the search, and its outcome is the same.
-/

namespace CurveNeighbors

namespace Computation

variable {σ τ α β γ : Type} {R : σ → τ → Prop}

/-- An outcome, with the state left as it is. -/
def ofOutcome (outcome : Outcome α) : ExceptT Fault (StateM σ) α :=
  fun state => (outcome, state)

/-- From related states, both computations have the same outcome and leave related states. -/
def Related (R : σ → τ → Prop) (left : ExceptT Fault (StateM σ) α)
    (right : ExceptT Fault (StateM τ) α) : Prop :=
  ∀ start other, R start other →
    (left start).1 = (right other).1 ∧ R (left start).2 (right other).2

theorem related_ofOutcome (outcome : Outcome α) :
    Related R (ofOutcome outcome) (ofOutcome outcome) :=
  fun _ _ related => ⟨rfl, related⟩

theorem Related.bind {left : ExceptT Fault (StateM σ) α} {right : ExceptT Fault (StateM τ) α}
    {next : α → ExceptT Fault (StateM σ) β} {other : α → ExceptT Fault (StateM τ) β}
    (first : Related R left right) (each : ∀ result, Related R (next result) (other result)) :
    Related R (left >>= next) (right >>= other) := by
  intro start begin related
  have both := first start begin related
  rw [bind_apply, bind_apply]
  revert both
  rcases left start with ⟨outcome, reached⟩
  rcases right begin with ⟨alsoOutcome, alsoReached⟩
  rintro ⟨rfl, related⟩
  cases outcome with
  | error fault => exact ⟨rfl, related⟩
  | ok result => exact each result reached alsoReached related

theorem related_mapM {f : α → ExceptT Fault (StateM σ) β} {g : α → ExceptT Fault (StateM τ) β}
    (each : ∀ item, Related R (f item) (g item)) (items : List α) :
    Related R (items.mapM f) (items.mapM g) := by
  induction items with
  | nil => exact related_ofOutcome (.ok [])
  | cons item items ih =>
      rw [List.mapM_cons, List.mapM_cons]
      apply (each item).bind
      intro result
      apply ih.bind
      intro results
      exact related_ofOutcome (.ok (result :: results))

theorem related_foldlM {step : γ → α → ExceptT Fault (StateM σ) γ}
    {other : γ → α → ExceptT Fault (StateM τ) γ}
    (each : ∀ reached item, Related R (step reached item) (other reached item))
    (items : List α) (start : γ) :
    Related R (items.foldlM step start) (items.foldlM other start) := by
  induction items generalizing start with
  | nil => exact related_ofOutcome (.ok start)
  | cons item items ih =>
      rw [List.foldlM_cons, List.foldlM_cons]
      exact (each start item).bind ih

theorem ofOutcome_bind_eq_ok {outcome : Outcome α} {next : α → ExceptT Fault (StateM σ) β}
    {start final : σ} {result : β} :
    (ofOutcome outcome >>= next) start = (.ok result, final) ↔
      ∃ value, outcome = .ok value ∧ next value start = (.ok result, final) := by
  rw [bind_eq_ok]
  constructor
  · rintro ⟨value, _, ⟨rfl, rfl⟩, run⟩
    exact ⟨value, rfl, run⟩
  · rintro ⟨value, rfl, run⟩
    exact ⟨value, start, rfl, run⟩

end Computation

open CurveNeighbors.Computation

/-- A distance in the hands of an observer, whose state an evaluation may change. -/
abbrev Observed (σ : Type) := Point → Point → ExceptT Fault (StateM σ) Number

namespace Observed

variable {σ : Type}

/-! ## Observers -/

/-- A distance whose observer counts the evaluations. -/
def counted (distance : Distance) : Observed Nat := fun left right =>
  Counting.once (distance left right)

/-- The plain distance: there is nothing to observe it. -/
def plain (distance : Distance) : Observed Unit := fun left right =>
  ofOutcome (distance left right)

/-- A distance whose observer notes the points that are compared, in this order. -/
def noted (distance : Distance) : Observed (List (Point × Point)) := fun left right notes =>
  (distance left right, notes ++ [(left, right)])

/-- The observer hands on what the distance says, and keeps its state related to the count. -/
def Follows (R : σ → Nat → Prop) (observed : Observed σ) (distance : Distance) : Prop :=
  ∀ left right, Related R (observed left right) (counted distance left right)

/-- The observer hands on what the distance says, whatever it does to its state. -/
def HandsOn (observed : Observed σ) (distance : Distance) : Prop :=
  ∀ left right state, (observed left right state).1 = distance left right

theorem handsOn_plain (distance : Distance) : HandsOn (plain distance) distance :=
  fun _ _ _ => rfl

theorem HandsOn.follows {observed : Observed σ} {distance : Distance}
    (handsOn : HandsOn observed distance) : Follows (fun _ _ => True) observed distance :=
  fun left right state _ _ => ⟨handsOn left right state, trivial⟩

/-- As many comparisons were noted as were counted from a start. -/
def CountedFrom (start : Nat) (notes : List (Point × Point)) (evaluations : Nat) : Prop :=
  evaluations = start + notes.length

theorem follows_noted (distance : Distance) (start : Nat) :
    Follows (CountedFrom start) (noted distance) distance := by
  intro left right notes evaluations before
  refine ⟨rfl, ?_⟩
  simp only [CountedFrom, noted, counted, Counting.once, List.length_append,
    List.length_singleton] at *
  omega

/-! ## Searches -/

variable (observed : Observed σ) (dataset : Dataset)

def evaluate (left right : Point) : ExceptT Fault (StateM σ) Float := do
  let number ← observed left right
  match number.toFloat? with
  | some value => return value
  | none => throw .tooLarge

def scoreCandidate (query : Point) (candidate : Value) :
    ExceptT Fault (StateM σ) ScoredCandidate := do
  let key ← ofOutcome candidate.toKey
  let row ← ofOutcome (dataset.rowOf key)
  let point ← ofOutcome (dataset.pointAt row)
  let value ← observed.evaluate query point
  return ⟨candidate, row, value⟩

def offerCandidate (query : Point) (heap : BoundedHeap) (candidate : Value) :
    ExceptT Fault (StateM σ) BoundedHeap := do
  let scored ← observed.scoreCandidate dataset query candidate
  match heap.insert ⟨scored.distance, .whole scored.row, scored.key⟩ with
  | (.ok _, heap) => return heap
  | (.error fault, _) => throw fault

def rerank (candidates : List Value) (query : Point) (count : Value) :
    ExceptT Fault (StateM σ) (List Neighbor) := do
  let count ← ofOutcome (readNeighborCount count)
  let heap ← candidates.foldlM (observed.offerCandidate dataset query) (.empty (.number count))
  let sorted ← ofOutcome heap.sorted
  return sorted.map fun entry => ⟨entry.key, entry.distance⟩

def nearestByScan (candidates : List Value) (query : Point) (count : Value) :
    ExceptT Fault (StateM σ) (List Neighbor) := do
  let count ← ofOutcome (readNeighborCount count)
  let scored ← candidates.mapM (observed.scoreCandidate dataset query)
  let sorted := sortStably ScoredCandidate.nearer (!scored.any ScoredCandidate.isUndefined) scored
  ofOutcome (firstNeighbors (sorted.map ScoredCandidate.neighbor) count)

/-- With an observer that counts, a search is the one that queries make. -/
theorem rerank_counted (distance : Distance) :
    (counted distance).rerank dataset = CurveNeighbors.rerank distance dataset :=
  rfl

theorem nearestByScan_counted (distance : Distance) :
    (counted distance).nearestByScan dataset = CurveNeighbors.nearestByScan distance dataset :=
  rfl

variable {observed} {distance : Distance} {R : σ → Nat → Prop}

namespace Follows

theorem evaluate (follows : Follows R observed distance) (left right : Point) :
    Related R (observed.evaluate left right) (distance.evaluate left right) := by
  apply (follows left right).bind
  intro number
  cases number.toFloat? with
  | some value => exact related_ofOutcome (.ok value)
  | none => exact related_ofOutcome (.error .tooLarge)

theorem scoreCandidate (follows : Follows R observed distance) (query : Point)
    (candidate : Value) :
    Related R (observed.scoreCandidate dataset query candidate)
      (CurveNeighbors.scoreCandidate distance dataset query candidate) := by
  apply (related_ofOutcome candidate.toKey).bind
  intro key
  apply (related_ofOutcome (dataset.rowOf key)).bind
  intro row
  apply (related_ofOutcome (dataset.pointAt row)).bind
  intro point
  apply (follows.evaluate query point).bind
  intro value
  exact related_ofOutcome (.ok _)

theorem offerCandidate (follows : Follows R observed distance) (query : Point)
    (heap : BoundedHeap) (candidate : Value) :
    Related R (observed.offerCandidate dataset query heap candidate)
      (CurveNeighbors.offerCandidate distance dataset query heap candidate) := by
  apply (follows.scoreCandidate dataset query candidate).bind
  intro scored
  rcases heap.insert ⟨scored.distance, .whole scored.row, scored.key⟩ with ⟨fault | _, next⟩
  · exact related_ofOutcome (.error fault)
  · exact related_ofOutcome (.ok next)

theorem rerank (follows : Follows R observed distance) (candidates : List Value) (query : Point)
    (count : Value) :
    Related R (observed.rerank dataset candidates query count)
      (CurveNeighbors.rerank distance dataset candidates query count) := by
  apply (related_ofOutcome (readNeighborCount count)).bind
  intro number
  apply (related_foldlM (follows.offerCandidate dataset query) candidates _).bind
  intro heap
  apply (related_ofOutcome heap.sorted).bind
  intro sorted
  exact related_ofOutcome (.ok _)

theorem nearestByScan (follows : Follows R observed distance) (candidates : List Value)
    (query : Point) (count : Value) :
    Related R (observed.nearestByScan dataset candidates query count)
      (CurveNeighbors.nearestByScan distance dataset candidates query count) := by
  apply (related_ofOutcome (readNeighborCount count)).bind
  intro number
  apply (related_mapM (follows.scoreCandidate dataset query) candidates).bind
  intro scored
  exact related_ofOutcome _

end Follows

/-! ## What is noted -/

variable {dataset} {query point : Point} {notes left : List (Point × Point)}

theorem noted_evaluate {value : Float}
    (run : (noted distance).evaluate query point notes = (.ok value, left)) :
    left = notes ++ [(query, point)] := by
  rcases bind_eq_ok.mp run with ⟨number, middle, evaluated, converted⟩
  cases known : number.toFloat? <;> rw [known] at converted <;> cases converted
  exact (congrArg Prod.snd evaluated).symm

/-- A candidate that can be scored is compared with the point that is asked about, once. -/
theorem noted_scoreCandidate {candidate : Value} {scored : ScoredCandidate}
    (run : (noted distance).scoreCandidate dataset query candidate notes = (.ok scored, left)) :
    ∃ other, candidate.toKey >>= dataset.pointOf = .ok other ∧
      left = notes ++ [(query, other)] := by
  rcases ofOutcome_bind_eq_ok.mp run with ⟨key, known, run⟩
  rcases ofOutcome_bind_eq_ok.mp run with ⟨row, placed, run⟩
  rcases ofOutcome_bind_eq_ok.mp run with ⟨other, located, run⟩
  rcases bind_eq_ok.mp run with ⟨value, middle, evaluated, run⟩
  cases run
  refine ⟨other, ?_, noted_evaluate evaluated⟩
  rw [known, Outcome.ok_bind, Dataset.pointOf, placed, Outcome.ok_bind, located]

theorem noted_offerCandidate {heap next : BoundedHeap} {candidate : Value}
    (run : (noted distance).offerCandidate dataset query heap candidate notes = (.ok next, left)) :
    ∃ other, candidate.toKey >>= dataset.pointOf = .ok other ∧
      left = notes ++ [(query, other)] := by
  rcases bind_eq_ok.mp run with ⟨scored, middle, isScored, inserted⟩
  rcases found : heap.insert ⟨scored.distance, .whole scored.row, scored.key⟩ with ⟨fault | _, next⟩
  · rw [found] at inserted
    cases inserted
  · rw [found] at inserted
    cases inserted
    exact noted_scoreCandidate isScored

/-- A point is compared with those of candidates, with each of them once. -/
def ComparesEach (dataset : Dataset) (query : Point) (candidates : List Value)
    (comparisons : List (Point × Point)) : Prop :=
  List.Forall₂ (fun candidate comparison => comparison.1 = query ∧
    candidate.toKey >>= dataset.pointOf = .ok comparison.2) candidates comparisons

theorem noted_foldlM {candidates : List Value} {heap filled : BoundedHeap}
    (run : candidates.foldlM ((noted distance).offerCandidate dataset query) heap notes =
      (.ok filled, left)) :
    ∃ comparisons, ComparesEach dataset query candidates comparisons ∧
      left = notes ++ comparisons := by
  induction candidates generalizing heap notes with
  | nil =>
      cases run
      exact ⟨[], .nil, (List.append_nil _).symm⟩
  | cons candidate candidates ih =>
      rw [List.foldlM_cons] at run
      rcases bind_eq_ok.mp run with ⟨next, middle, offered, later⟩
      rcases noted_offerCandidate offered with ⟨other, located, rfl⟩
      rcases ih later with ⟨comparisons, each, rfl⟩
      exact ⟨(query, other) :: comparisons, .cons ⟨rfl, located⟩ each, by simp⟩

/-- A search that succeeds compares each candidate once, however many it is to keep. -/
theorem noted_rerank {candidates : List Value} {count : Value} {kept : List Neighbor}
    (run : (noted distance).rerank dataset candidates query count notes = (.ok kept, left)) :
    ∃ comparisons, ComparesEach dataset query candidates comparisons ∧
      left = notes ++ comparisons := by
  rcases ofOutcome_bind_eq_ok.mp run with ⟨number, _, run⟩
  rcases bind_eq_ok.mp run with ⟨heap, middle, offered, run⟩
  rcases ofOutcome_bind_eq_ok.mp run with ⟨sorted, _, run⟩
  cases run
  exact noted_foldlM offered

end Observed

end CurveNeighbors
