import CurveNeighbors.Proofs.Index.QueryStates
import Mathlib.Logic.Function.Iterate

/-!
# Queries that are worked on in turn

A query is worked on in steps: it is checked, its candidates are found, each of them is
offered to a heap, and the heap is sorted. Several workers make these steps for several
queries in some order, and share the count of evaluations. A query that is being worked
on has a source, candidates and a heap of its own, so a step for one of them makes no
difference to what comes of the others. How many workers there are only limits the orders
that can occur, and all orders are considered here.

What comes of a query does not change by the steps that are made for it either. So after
any steps in any order, those that are finished have the outcomes that they would have
alone, and as long as some are not, there are steps that finish them.
-/

namespace CurveNeighbors

/-- A query that is being worked on, with the source that it draws from. -/
inductive Task where
  | waiting (query : Query) (source : RandomSource)
  | checked (query : CheckedQuery) (source : RandomSource)
  | searching (point : Point) (heap : BoundedHeap) (candidates : List Value)
      (source : RandomSource)
  | finished (outcome : Outcome (List Neighbor)) (source : RandomSource)

namespace Task

/-- Makes the next step. A step evaluates one distance at most. -/
def advance (index : Index) : Task → Nat → Task × Nat
  | .waiting query source, evaluations =>
      match index.check query with
      | .error fault => (.finished (.error fault) source, evaluations)
      | .ok query => (.checked query source, evaluations)
  | .checked query source, evaluations =>
      match index.candidatesOf query source with
      | (.error fault, source) => (.finished (.error fault) source, evaluations)
      | (.ok candidates, source) =>
          match index.dataset.pointOf query.key, readNeighborCount (.ofInt query.count) with
          | .error fault, _ => (.finished (.error fault) source, evaluations)
          | .ok _, .error fault => (.finished (.error fault) source, evaluations)
          | .ok point, .ok count =>
              (.searching point (.empty (.number count)) (index.arrangement.values candidates)
                source, evaluations)
  | .searching _ heap [] source, evaluations => (.finished heap.neighbors source, evaluations)
  | .searching point heap (candidate :: candidates) source, evaluations =>
      match offerCandidate index.distance index.dataset point heap candidate evaluations with
      | (.error fault, evaluations) => (.finished (.error fault) source, evaluations)
      | (.ok heap, evaluations) => (.searching point heap candidates source, evaluations)
  | .finished outcome source, evaluations => (.finished outcome source, evaluations)

/-- What is left of a search after a heap has been filled with some of its candidates. -/
def search (index : Index) (point : Point) (heap : BoundedHeap) (candidates : List Value) :
    Counting (List Neighbor) :=
  candidates.foldlM (offerCandidate index.distance index.dataset point) heap >>= fun heap =>
    Counting.pure heap.neighbors

/-- Brings a task to its end without a break. -/
def complete (index : Index) : Task → Nat → Outcome (List Neighbor) × QueryState
  | .waiting query source, evaluations => index.query query ⟨source, evaluations⟩
  | .checked query source, evaluations => index.answer query ⟨source, evaluations⟩
  | .searching point heap candidates source, evaluations =>
      Querying.ofCounting (search index point heap candidates) ⟨source, evaluations⟩
  | .finished outcome source, evaluations => (outcome, ⟨source, evaluations⟩)

/-- What comes of a task in the end, and the source that it leaves. -/
def result (index : Index) (task : Task) : Outcome (List Neighbor) × RandomSource :=
  ((task.complete index 0).1, (task.complete index 0).2.source)

section

variable {index : Index} {point : Point}

theorem rerank_eq_search (index : Index) (point : Point) (candidates : List Value) (count : Value) :
    rerank index.distance index.dataset candidates point count =
      Counting.pure (readNeighborCount count) >>= fun number =>
        search index point (.empty (.number number)) candidates := by
  apply bind_congr
  intro number
  apply bind_congr
  intro heap
  funext evaluations
  rw [Computation.bind_apply, BoundedHeap.neighbors]
  cases heap.sorted <;> rfl

/-- A step leaves what comes of a task as it is. -/
theorem complete_advance (index : Index) (task : Task) (evaluations : Nat) :
    (task.advance index evaluations).1.complete index (task.advance index evaluations).2 =
      task.complete index evaluations := by
  cases task with
  | waiting query source =>
      simp only [advance, complete, Index.query, Computation.bind_apply, Querying.pure]
      cases index.check query <;> rfl
  | checked query source =>
      simp only [advance, complete, Index.answer, Computation.bind_apply, Querying.ofDrawing,
        Querying.pure, rerank_eq_search]
      rcases index.candidatesOf query source with ⟨fault | candidates, left⟩
      · rfl
      · dsimp only
        cases located : index.dataset.pointOf query.key with
        | error fault => rfl
        | ok point =>
            simp only [Querying.ofCounting, Computation.bind_apply, Counting.pure]
            cases readNeighborCount (.ofInt query.count) <;> rfl
  | searching point heap candidates source =>
      cases candidates with
      | nil => rfl
      | cons candidate candidates =>
          simp only [advance, complete, search, Querying.ofCounting, List.foldlM_cons, bind_assoc]
          rw [Computation.bind_apply]
          rcases offerCandidate index.distance index.dataset point heap candidate evaluations with
            ⟨fault | next, left⟩ <;> rfl
  | finished outcome source => rfl

theorem steady_search (index : Index) (point : Point) (heap : BoundedHeap)
    (candidates : List Value) : (search index point heap candidates).Steady := by
  apply (Counting.steady_foldlM (fun candidate _ heap =>
    steady_offerCandidate index.distance index.dataset point heap candidate) heap).bind
  intro heap
  exact Counting.steady_pure _

/-- How many distances were evaluated before makes no difference to what comes of a task. -/
theorem result_complete (index : Index) (task : Task) (evaluations : Nat) :
    ((task.complete index evaluations).1, (task.complete index evaluations).2.source) =
      task.result index := by
  cases task with
  | waiting query source => exact (index.steady_query query).result_eq source evaluations
  | checked query source => exact (index.steady_answer query).result_eq source evaluations
  | searching point heap candidates source =>
      have steady := Querying.steady_ofCounting (steady_search index point heap candidates)
      exact steady.result_eq source evaluations
  | finished outcome source => rfl

theorem result_advance (index : Index) (task : Task) (evaluations : Nat) :
    (task.advance index evaluations).1.result index = task.result index := by
  rw [← result_complete index _ (task.advance index evaluations).2, complete_advance,
    result_complete]

/-! ## Finishing a task -/

/-- Several steps for one task, with the count of evaluations. -/
def advances (index : Index) (steps : Nat) (progress : Task × Nat) : Task × Nat :=
  (fun progress => progress.1.advance index progress.2)^[steps] progress

theorem exists_finished_of_advance {task : Task} {evaluations : Nat}
    (later : ∃ steps outcome source left,
      advances index steps (task.advance index evaluations) = (.finished outcome source, left)) :
    ∃ steps outcome source left,
      advances index steps (task, evaluations) = (.finished outcome source, left) := by
  rcases later with ⟨steps, outcome, source, left, finishes⟩
  exact ⟨steps + 1, outcome, source, left, finishes⟩

theorem exists_finished_searching (heap : BoundedHeap) (candidates : List Value)
    (source : RandomSource) (evaluations : Nat) :
    ∃ steps outcome left final, advances index steps
      (.searching point heap candidates source, evaluations) = (.finished outcome left, final) := by
  induction candidates generalizing heap evaluations with
  | nil => exact ⟨1, heap.neighbors, source, evaluations, rfl⟩
  | cons candidate candidates ih =>
      apply exists_finished_of_advance
      simp only [advance]
      rcases offerCandidate index.distance index.dataset point heap candidate evaluations with
        ⟨fault | next, left⟩
      · exact ⟨0, _, _, _, rfl⟩
      · exact ih next left

theorem exists_finished_checked (query : CheckedQuery) (source : RandomSource)
    (evaluations : Nat) :
    ∃ steps outcome left final, advances index steps (.checked query source, evaluations) =
      (.finished outcome left, final) := by
  apply exists_finished_of_advance
  simp only [advance]
  rcases index.candidatesOf query source with ⟨fault | candidates, left⟩
  · exact ⟨0, _, _, _, rfl⟩
  · dsimp only
    split
    · exact ⟨0, _, _, _, rfl⟩
    · exact ⟨0, _, _, _, rfl⟩
    · exact exists_finished_searching _ _ _ _

/-- Every task is finished after some steps. -/
theorem exists_finished (index : Index) (task : Task) (evaluations : Nat) :
    ∃ steps outcome source left,
      advances index steps (task, evaluations) = (.finished outcome source, left) := by
  cases task with
  | waiting query source =>
      apply exists_finished_of_advance
      simp only [advance]
      split
      · exact ⟨0, _, _, _, rfl⟩
      · exact exists_finished_checked _ _ _
  | checked query source => exact exists_finished_checked query source evaluations
  | searching point heap candidates source =>
      exact exists_finished_searching heap candidates source evaluations
  | finished outcome source => exact ⟨0, outcome, source, evaluations, rfl⟩

theorem complete_advances (index : Index) (steps : Nat) (progress : Task × Nat) :
    (advances index steps progress).1.complete index (advances index steps progress).2 =
      progress.1.complete index progress.2 := by
  induction steps generalizing progress with
  | zero => rfl
  | succ steps ih => exact (ih _).trans (complete_advance index progress.1 progress.2)

/-- A task that is worked on alone comes to what its query comes to. -/
theorem exists_advances_waiting (index : Index) (query : Query) (state : QueryState) :
    ∃ steps, advances index steps (.waiting query state.source, state.evaluations) =
      (.finished (index.query query state).1 (index.query query state).2.source,
        (index.query query state).2.evaluations) := by
  rcases exists_finished index (.waiting query state.source) state.evaluations with
    ⟨steps, outcome, source, left, finishes⟩
  have same := complete_advances index steps (.waiting query state.source, state.evaluations)
  rw [finishes] at same
  have isQuery : (outcome, ⟨source, left⟩) = index.query query state := same
  exact ⟨steps, by rw [finishes, ← isQuery]⟩

end

end Task

/-! ## Batches -/

/-- The tasks of a batch, and the count of evaluations that they share. -/
structure Workload where
  tasks : List Task
  evaluations : Nat

namespace Workload

variable {index : Index}

/-- The task at a place makes its next step. -/
def advance (index : Index) (load : Workload) (place : Nat) : Workload :=
  match load.tasks[place]? with
  | none => load
  | some task =>
      let (task, evaluations) := task.advance index load.evaluations
      ⟨load.tasks.set place task, evaluations⟩

/-- The tasks make steps as their places come up in a schedule. -/
def run (index : Index) (load : Workload) (schedule : List Nat) : Workload :=
  schedule.foldl (advance index) load

/-- The outcomes of tasks in their order, as far as they are finished. The first fault ends the
batch, whatever the tasks after it have come to. -/
def collected : List Task → Option (Outcome (List (List Neighbor)))
  | [] => some (.ok [])
  | .finished (.error fault) _ :: _ => some (.error fault)
  | .finished (.ok answer) _ :: tasks =>
      (collected tasks).map fun outcome => outcome.map (answer :: ·)
  | _ :: _ => none

/-- A step for one task leaves what comes of all tasks as it is. -/
theorem map_result_advance (index : Index) (load : Workload) (place : Nat) :
    (load.advance index place).tasks.map (Task.result index) =
      load.tasks.map (Task.result index) := by
  rw [advance]
  split
  · rfl
  · next task isTask =>
      rcases List.getElem?_eq_some_iff.mp isTask with ⟨inside, rfl⟩
      have alsoInside : place < (load.tasks.map (Task.result index)).length := by
        rwa [List.length_map]
      have self := List.set_getElem_self alsoInside
      rw [List.getElem_map] at self
      rw [List.map_set, Task.result_advance, self]

theorem map_result_run (index : Index) (load : Workload) (schedule : List Nat) :
    (load.run index schedule).tasks.map (Task.result index) =
      load.tasks.map (Task.result index) := by
  induction schedule generalizing load with
  | nil => rfl
  | cons place schedule ih => exact (ih _).trans (map_result_advance index load place)

theorem length_run (index : Index) (load : Workload) (schedule : List Nat) :
    (load.run index schedule).tasks.length = load.tasks.length := by
  have lengths := congrArg List.length (map_result_run index load schedule)
  simpa only [List.length_map] using lengths

/-- What has been collected is the outcome of the tasks one after the other. -/
theorem collected_eq {tasks : List Task} {outcome : Outcome (List (List Neighbor))}
    (success : collected tasks = some outcome) :
    outcome = tasks.mapM fun task => (task.result index).1 := by
  induction tasks generalizing outcome with
  | nil =>
      cases success
      rfl
  | cons task tasks ih =>
      rw [Outcome.mapM_cons]
      cases task with
      | finished result source =>
          cases result with
          | error fault =>
              cases success
              rfl
          | ok answer =>
              rcases Option.map_eq_some_iff.mp success with ⟨rest, isRest, rfl⟩
              rw [← ih isRest]
              cases rest <;> rfl
      | waiting _ _ | checked _ _ | searching _ _ _ _ => cases success

/-! ## Finishing a workload -/

theorem run_append (load : Workload) (first second : List Nat) :
    load.run index (first ++ second) = (load.run index first).run index second :=
  List.foldl_append

/-- Steps for one task leave the others as they are. -/
theorem run_replicate {load : Workload} {place : Nat} {task : Task}
    (isTask : load.tasks[place]? = some task) (steps : Nat) :
    load.run index (List.replicate steps place) =
      ⟨load.tasks.set place (Task.advances index steps (task, load.evaluations)).1,
        (Task.advances index steps (task, load.evaluations)).2⟩ := by
  induction steps generalizing load task with
  | zero =>
      rcases List.getElem?_eq_some_iff.mp isTask with ⟨inside, rfl⟩
      simp only [Task.advances, Function.iterate_zero_apply, List.set_getElem_self]
      rfl
  | succ steps ih =>
      rcases List.getElem?_eq_some_iff.mp isTask with ⟨inside, _⟩
      have next : load.run index (List.replicate (steps + 1) place) =
          (load.advance index place).run index (List.replicate steps place) := rfl
      have step : load.advance index place =
          ⟨load.tasks.set place (task.advance index load.evaluations).1,
            (task.advance index load.evaluations).2⟩ := by
        simp only [advance, isTask]
      rw [next, step, ih (List.getElem?_set_self inside), List.set_set]
      rfl

/-- There are steps that finish the first tasks, however far these have come. -/
theorem exists_run_finished (index : Index) (load : Workload) (count : Nat) :
    ∃ schedule, ∀ place < count, ∀ task, (load.run index schedule).tasks[place]? = some task →
      ∃ outcome source, task = .finished outcome source := by
  induction count with
  | zero => exact ⟨[], fun place impossible => absurd impossible (Nat.not_lt_zero _)⟩
  | succ count ih =>
      rcases ih with ⟨schedule, finished⟩
      cases found : (load.run index schedule).tasks[count]? with
      | none =>
          refine ⟨schedule, ?_⟩
          intro place below task isTask
          rcases Nat.lt_succ_iff_lt_or_eq.mp below with earlier | rfl
          · exact finished place earlier task isTask
          · cases found.symm.trans isTask
      | some task =>
          rcases Task.exists_finished index task (load.run index schedule).evaluations with
            ⟨steps, outcome, source, left, finishes⟩
          refine ⟨schedule ++ List.replicate steps count, ?_⟩
          intro place below other isOther
          rw [run_append, run_replicate found, finishes] at isOther
          rcases Nat.lt_succ_iff_lt_or_eq.mp below with earlier | rfl
          · rw [List.getElem?_set_ne (by omega)] at isOther
            exact finished place earlier other isOther
          · rcases List.getElem?_eq_some_iff.mp found with ⟨inside, _⟩
            cases (List.getElem?_set_self inside).symm.trans isOther
            exact ⟨outcome, source, rfl⟩

theorem exists_collected {tasks : List Task}
    (finished : ∀ task ∈ tasks, ∃ outcome source, task = .finished outcome source) :
    ∃ outcome, collected tasks = some outcome := by
  induction tasks with
  | nil => exact ⟨_, rfl⟩
  | cons task tasks ih =>
      rcases List.forall_mem_cons.mp finished with ⟨⟨outcome, source, rfl⟩, others⟩
      rcases ih others with ⟨rest, collects⟩
      cases outcome with
      | error fault => exact ⟨_, rfl⟩
      | ok answer => exact ⟨_, congrArg (Option.map _) collects⟩

/-- After any steps in any order the outcome of the batch is that of its tasks one after the other,
as soon as it can be collected, and there are steps after which it can. -/
theorem collected_run (index : Index) (load : Workload) (schedule : List Nat) :
    (∀ outcome, collected (load.run index schedule).tasks = some outcome →
      outcome = load.tasks.mapM fun task => (task.result index).1) ∧
    ∃ more, collected (load.run index (schedule ++ more)).tasks =
      some (load.tasks.mapM fun task => (task.result index).1) := by
  have same : ∀ (schedule : List Nat) (outcome : Outcome (List (List Neighbor))),
      collected (load.run index schedule).tasks = some outcome →
        outcome = load.tasks.mapM fun task => (task.result index).1 := by
    intro schedule outcome success
    have run := congrArg (List.mapM Prod.fst) (map_result_run index load schedule)
    rw [List.mapM_map, List.mapM_map] at run
    exact (collected_eq success).trans run
  refine ⟨same schedule, ?_⟩
  rcases exists_run_finished index (load.run index schedule)
    (load.run index schedule).tasks.length with ⟨more, finished⟩
  have all : ∀ task ∈ (load.run index (schedule ++ more)).tasks,
      ∃ outcome source, task = .finished outcome source := by
    intro task isTask
    rcases List.getElem?_of_mem isTask with ⟨place, found⟩
    have inside := (List.getElem?_eq_some_iff.mp found).1
    rw [length_run, ← length_run index load schedule] at inside
    rw [run_append] at found
    exact finished place inside task found
  rcases exists_collected all with ⟨outcome, success⟩
  refine ⟨more, ?_⟩
  rw [success, same _ outcome success]

end Workload

end CurveNeighbors
