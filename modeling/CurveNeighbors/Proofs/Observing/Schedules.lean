import CurveNeighbors.Proofs.Observing.Queries

/-!
# Counting while several workers are at it

Workers that share a batch share the count of evaluations as well, and their steps may come in
any order. What has been counted and what the tasks have still to count make up a sum that no
step changes. So when all queries of a batch are answered, the count is the same after every
schedule: each query has added the number of its candidates.
-/

namespace CurveNeighbors

namespace Task

variable {index : Index}

/-- How many evaluations a task has still to make. -/
def outstanding (index : Index) (task : Task) : Nat :=
  (task.complete index 0).2.evaluations

theorem evaluations_complete (index : Index) (task : Task) (evaluations : Nat) :
    (task.complete index evaluations).2.evaluations = evaluations + task.outstanding index := by
  cases task with
  | waiting query source =>
      exact congrArg (·.2.evaluations) (index.steady_query query source evaluations)
  | checked query source =>
      exact congrArg (·.2.evaluations) (index.steady_answer query source evaluations)
  | searching point heap candidates source =>
      exact congrArg (·.2.evaluations)
        (Querying.steady_ofCounting (steady_search index point heap candidates) source evaluations)
  | finished outcome source => rfl

/-- A step counts what it takes off what is outstanding. -/
theorem outstanding_advance (index : Index) (task : Task) (evaluations : Nat) :
    (task.advance index evaluations).2 + (task.advance index evaluations).1.outstanding index =
      evaluations + task.outstanding index := by
  rw [← evaluations_complete, complete_advance, evaluations_complete]

end Task

namespace Workload

variable {index : Index}

/-- What has been counted and what the tasks have still to count. -/
def total (index : Index) (load : Workload) : Nat :=
  load.evaluations + (load.tasks.map (Task.outstanding index)).sum

theorem total_advance (index : Index) (load : Workload) (place : Nat) :
    (load.advance index place).total index = load.total index := by
  rw [advance]
  split
  · rfl
  · next task isTask =>
      rcases List.getElem?_eq_some_iff.mp isTask with ⟨inside, rfl⟩
      have step := Task.outstanding_advance index load.tasks[place] load.evaluations
      have before : load.tasks.take place ++ load.tasks[place] :: load.tasks.drop (place + 1) =
          load.tasks := by
        rw [← List.drop_eq_getElem_cons inside, List.take_append_drop]
      simp only [total]
      conv_rhs => rw [← before]
      rw [List.set_eq_take_append_cons_drop, if_pos inside]
      simp only [List.map_append, List.map_cons, List.sum_append, List.sum_cons]
      omega

theorem total_run (index : Index) (load : Workload) (schedule : List Nat) :
    (load.run index schedule).total index = load.total index := by
  induction schedule generalizing load with
  | nil => rfl
  | cons place schedule ih => exact (ih _).trans (total_advance index load place)

/-- Where all answers are collected, nothing is outstanding. -/
theorem outstanding_of_collected {tasks : List Task} {answers : List (List Neighbor)}
    (collects : collected tasks = some (.ok answers)) :
    (tasks.map (Task.outstanding index)).sum = 0 := by
  induction tasks generalizing answers with
  | nil => rfl
  | cons task tasks ih =>
      cases task with
      | waiting _ _ | checked _ _ | searching _ _ _ _ => cases collects
      | finished outcome source =>
          cases outcome with
          | error fault => cases collects
          | ok answer =>
              rcases Option.map_eq_some_iff.mp collects with ⟨rest, isRest, mapped⟩
              cases rest with
              | error fault => cases mapped
              | ok others =>
                  rw [List.map_cons, List.sum_cons, ih isRest]
                  rfl

/-- After every schedule a batch that is answered has counted the candidates of all its queries. -/
theorem evaluations_of_collected {words : List UInt32} {keys : List Value}
    {asked : Value × Nat → Query} {evaluations : Nat} {schedule : List Nat}
    {answers : List (List Neighbor)}
    (collects : collected ((ofBatch words keys asked evaluations).run index schedule).tasks =
      some (.ok answers)) :
    ∃ sets, index.CandidatesOfBatch words asked keys sets ∧
      ((ofBatch words keys asked evaluations).run index schedule).evaluations =
        evaluations + (sets.map KeySequence.size).sum := by
  have total := total_run index (ofBatch words keys asked evaluations) schedule
  rw [Workload.total, Workload.total, outstanding_of_collected collects] at total
  have answered :=
    (collected_run index (ofBatch words keys asked evaluations) schedule).1 _ collects
  rw [mapM_result_ofBatch] at answered
  have each : ∀ entry ∈ keys.zipIdx, ∃ found,
      (index.candidates (asked entry) (.generator (SeedTree.spawn words entry.2))).1 =
        .ok found ∧
      (Task.waiting (asked entry) (.generator (SeedTree.spawn words entry.2))).outstanding index =
        found.size := by
    intro entry isEntry
    rcases Outcome.exists_of_mem_items answered.symm isEntry with ⟨answer, _, isAnswer⟩
    rcases Index.exists_compared (Prod.ext isAnswer rfl) with ⟨found, candidates, _, counted⟩
    exact ⟨found, congrArg Prod.fst candidates, counted.trans (Nat.zero_add _)⟩
  rcases exists_forall₂ each with ⟨sets, related⟩
  have sizes : (ofBatch words keys asked evaluations).tasks.map (Task.outstanding index) =
      sets.map KeySequence.size := by
    rw [ofBatch, List.map_map, ← List.forall₂_eq_eq_eq, List.forall₂_map_left_iff,
      List.forall₂_map_right_iff]
    exact related.imp fun _ _ both => both.2
  rw [sizes] at total
  exact ⟨sets, related.imp fun _ _ both => both.1, total⟩

end Workload

end CurveNeighbors
