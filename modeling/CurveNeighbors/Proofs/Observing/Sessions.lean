import CurveNeighbors.Proofs.Index.SharedGenerators
import CurveNeighbors.Proofs.Observing.Schedules

/-!
# What sessions count

Every call of a session compares some points, which an observer notes down if the distance is
put into its hands. The count of a session is the number of comparisons since the last reset,
whatever calls there were and whether they failed or not. A query that is answered compares its
candidates, one by one; a query that is refused compares nothing. What the resets return and
what is left in the end is all that was ever counted.
-/

namespace CurveNeighbors

open Observed

/-- Whether a call sets the count back. -/
def Call.isReset : Call → Bool
  | .resetEvaluations => true
  | _ => false

namespace Session

variable {session : Session}

/-- The points that a call compares, as an observer notes them who looks on from the beginning of
the call. -/
def compared (session : Session) : Call → List (Point × Point)
  | .query query source =>
      ((noted session.index.distance).query session.index query
        (session.generators.resolve source, [])).2.2
  | .queryBatch keys query seed workers entropy =>
      ((noted session.index.distance).queryBatch session.index keys query seed workers entropy []).2
  | .evaluate query source =>
      ((noted session.index.distance).evaluateQuery session.index query
        (session.generators.resolve source, [])).2.2
  | .rerank candidates point count =>
      ((noted session.index.distance).rerank session.index.dataset candidates point count []).2
  | .distance left right => (noted session.index.distance left right []).2
  | .seedGenerator _ _ _ | .candidates _ _ | .evaluations | .resetEvaluations => []

/-- The points that calls compare, one call after the other. -/
def comparedBy (session : Session) : List Call → List (Point × Point)
  | [] => []
  | call :: calls => session.compared call ++ (session.perform call).2.comparedBy calls

/-- The counts that the resets among some calls return. -/
def resetCounts (session : Session) (calls : List Call) : List Nat :=
  (calls.zip (session.run calls).1).filterMap fun
    | (.resetEvaluations, .ok (.evaluations count)) => some count
    | _ => none

/-! ## Single calls -/

theorem index_perform (session : Session) (call : Call) :
    (session.perform call).2.index = session.index := by
  cases call with
  | seedGenerator name seed fresh =>
      rw [perform]
      split <;> rfl
  | candidates | query | queryBatch | evaluate | rerank | distance | evaluations
  | resetEvaluations => rfl

theorem perform_query (session : Session) (query : Query) (source : SourceChoice) :
    session.perform (.query query source) =
      ((session.index.query query (session.stateFor source)).1.map .neighbors,
        { session with
          generators := session.generators.keep source
            (session.index.query query (session.stateFor source)).2.source
          evaluations :=
            (session.index.query query (session.stateFor source)).2.evaluations }) := by
  rw [perform, querying, Querying.map_apply]
  rfl

/-- The count grows by the comparisons that an observer notes. -/
theorem evaluations_perform (session : Session) {call : Call} (counts : call.isReset = false) :
    (session.perform call).2.evaluations =
      session.evaluations + (session.compared call).length := by
  have follows := follows_noted session.index.distance session.evaluations
  cases call with
  | seedGenerator name seed fresh =>
      rw [perform]
      split <;> rfl
  | candidates query source =>
      rw [perform, querying, Querying.map_apply]
      rfl
  | query query source =>
      rw [perform_query]
      exact (follows.query query (_, []) (session.stateFor source) ⟨rfl, rfl⟩).2.2
  | queryBatch keys query seed workers entropy =>
      rw [perform, counting, Computation.map_apply]
      exact (follows.queryBatch keys query seed workers entropy [] _ rfl).2
  | evaluate query source =>
      rw [perform, querying, Querying.map_apply]
      exact (follows.evaluateQuery query (_, []) (session.stateFor source) ⟨rfl, rfl⟩).2.2
  | rerank candidates point count =>
      rw [perform, counting, Computation.map_apply]
      exact (follows.rerank session.index.dataset candidates point count [] _ rfl).2
  | distance left right =>
      rw [perform, counting, Computation.map_apply]
      rfl
  | evaluations => rfl
  | resetEvaluations => cases counts

/-- What a session counts for queries, for their candidates and for batches. -/
structure CountsCandidates (session : Session) : Prop where
  answered : ∀ query source answer, (session.perform (.query query source)).1 = .ok answer →
    ∃ found, (session.perform (.candidates query source)).1 = .ok (.candidates found) ∧
      Compares session.index query found (session.compared (.query query source)) ∧
      (session.perform (.query query source)).2.evaluations = session.evaluations + found.size
  refused : ∀ query source fault, (session.perform (.query query source)).1 = .error fault →
    (session.perform (.query query source)).2.evaluations = session.evaluations
  candidates : ∀ query source,
    (session.perform (.candidates query source)).2.evaluations = session.evaluations
  batch : ∀ keys query seed workers entropy answer,
    (session.perform (.queryBatch keys query seed workers entropy)).1 = .ok answer →
    ∃ words sets, Seed.ofBatch entropy seed = .ok words ∧
      session.index.CandidatesOfBatch words (Index.askedAt query 0) keys sets ∧
      (session.perform (.queryBatch keys query seed workers entropy)).2.evaluations =
        session.evaluations + (sets.map KeySequence.size).sum

theorem countsCandidates (session : Session)
    (reflexive : ∀ key ∈ session.index.dataset.keys.keys, (key == key) = true)
    (measured : session.index.dataset.Measures session.index.distance) :
    session.CountsCandidates where
  answered := by
    intro query source answer success
    rw [perform_query] at success ⊢
    rcases run : session.index.query query (session.stateFor source) with ⟨fault | kept, after⟩
    · rw [run] at success
      cases success
    · rcases Index.exists_compared run with ⟨found, candidates, compares, counted⟩
      refine ⟨found, ?_, compares, counted⟩
      rw [perform, querying, Querying.map_apply]
      exact congrArg (Except.map Answer.candidates ·.1) candidates
  refused := by
    intro query source fault failure
    rw [perform_query] at failure ⊢
    rcases run : session.index.query query (session.stateFor source) with ⟨other | kept, after⟩
    · cases Index.state_of_query_error reflexive measured run
      rfl
    · rw [run] at failure
      cases failure
  candidates := by
    intro query source
    exact session.evaluations_perform rfl
  batch := by
    intro keys query seed workers entropy answer success
    rw [perform, counting, Computation.map_apply] at success ⊢
    rcases run : session.index.queryBatch keys query seed workers entropy session.evaluations with
      ⟨fault | answers, left⟩
    · rw [run] at success
      cases success
    · exact Index.exists_compared_batch run

/-! ## Sequences of calls -/

theorem run_append (session : Session) (before after : List Call) :
    (session.run (before ++ after)).2 = ((session.run before).2.run after).2 := by
  induction before generalizing session with
  | nil => rfl
  | cons call before ih => exact ih (session.perform call).2

theorem index_run (session : Session) (calls : List Call) :
    (session.run calls).2.index = session.index := by
  induction calls generalizing session with
  | nil => rfl
  | cons call calls ih => exact (ih _).trans (session.index_perform call)

/-- Without a reset the count grows by all comparisons. -/
theorem evaluations_run (session : Session) {calls : List Call}
    (counts : ∀ call ∈ calls, call.isReset = false) :
    (session.run calls).2.evaluations =
      session.evaluations + (session.comparedBy calls).length := by
  induction calls generalizing session with
  | nil => rfl
  | cons call calls ih =>
      rcases List.forall_mem_cons.mp counts with ⟨first, others⟩
      have later := ih (session.perform call).2 others
      rw [session.evaluations_perform first] at later
      rw [comparedBy, List.length_append, ← Nat.add_assoc]
      exact later

/-- After a reset the count is that of the comparisons since then. -/
theorem evaluations_run_of_reset (session : Session) (before : List Call) {calls : List Call}
    (counts : ∀ call ∈ calls, call.isReset = false) :
    (session.run (before ++ .resetEvaluations :: calls)).2.evaluations =
      ((session.run (before ++ [.resetEvaluations])).2.comparedBy calls).length := by
  rw [List.append_cons, run_append, evaluations_run _ counts, run_append]
  exact Nat.zero_add _

/-- What the resets return and what is left in the end is what there was at first and all that was
counted. -/
theorem sum_resetCounts (session : Session) (calls : List Call) :
    (session.resetCounts calls).sum + (session.run calls).2.evaluations =
      session.evaluations + (session.comparedBy calls).length := by
  induction calls generalizing session with
  | nil => exact Nat.add_comm _ _
  | cons call calls ih =>
      have later := ih (session.perform call).2
      cases counts : call.isReset with
      | false =>
          have skipped : session.resetCounts (call :: calls) =
              (session.perform call).2.resetCounts calls := by
            cases call with
            | resetEvaluations => cases counts
            | seedGenerator | candidates | query | queryBatch | evaluate | rerank | distance
            | evaluations => rfl
          rw [session.evaluations_perform counts] at later
          rw [skipped, comparedBy, List.length_append, ← Nat.add_assoc]
          exact later
      | true =>
          cases call with
          | resetEvaluations =>
              have returned : session.resetCounts (.resetEvaluations :: calls) =
                  session.evaluations ::
                    (session.perform .resetEvaluations).2.resetCounts calls := rfl
              rw [returned, List.sum_cons, Nat.add_assoc]
              apply congrArg (session.evaluations + ·)
              exact later.trans (Nat.zero_add _)
          | seedGenerator | candidates | query | queryBatch | evaluate | rerank | distance
          | evaluations => cases counts

end Session

end CurveNeighbors
