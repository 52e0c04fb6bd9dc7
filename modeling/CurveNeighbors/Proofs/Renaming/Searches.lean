import CurveNeighbors.Proofs.Neighbors.Parts
import CurveNeighbors.Proofs.Renaming.Keys

/-!
# Searches among renamed keys

Under new names the points of a dataset are in the same rows as before, and a candidate is
scored by its row. So the scores of renamed candidates are those of the candidates, and the
nearest of them are the same: what decides between equally far ones is the row, never the
key.
-/

namespace CurveNeighbors

/-! ## Renamed results -/

/-- The new name of a value that is a key. -/
def Value.renamed (rename : Key → Key) (value : Value) : Value :=
  match value.toKey with
  | .ok key => (rename key).value
  | .error _ => value

theorem Value.renamed_value (rename : Key → Key) (key : Key) :
    key.value.renamed rename = (rename key).value := by
  rw [Value.renamed, key.toKey_value]

def Neighbor.renamed (rename : Key → Key) (neighbor : Neighbor) : Neighbor :=
  ⟨neighbor.key.renamed rename, neighbor.distance⟩

def ScoredCandidate.renamed (rename : Key → Key) (candidate : ScoredCandidate) :
    ScoredCandidate :=
  ⟨candidate.key.renamed rename, candidate.row, candidate.distance⟩

/-- A renamed candidate has the rank of the candidate. -/
theorem Nearest.renamed {capacity : Nat} {scored kept : List ScoredCandidate}
    (nearest : Nearest capacity scored kept) (rename : Key → Key) :
    Nearest capacity (scored.map (ScoredCandidate.renamed rename))
      (kept.map (ScoredCandidate.renamed rename)) := by
  have same (candidates : List ScoredCandidate) :
      (candidates.map (ScoredCandidate.renamed rename)).map ScoredCandidate.rank =
        candidates.map ScoredCandidate.rank := by
    rw [List.map_map]
    rfl
  refine ⟨?_, ?_⟩
  · intro candidate isCandidate
    rcases List.mem_map.mp isCandidate with ⟨member, isKept, rfl⟩
    exact List.mem_map_of_mem (nearest.within member isKept)
  · rw [same, nearest.ranks, sortedRanks, sortedRanks, same]

/-! ## Renamed datasets -/

namespace Dataset

/-- A dataset has the points of another one under new names, by which its keys are told apart as
before. All keys equal themselves, before and after. -/
structure RenamedTo (dataset : Dataset) (rename : Key → Key) (other : Dataset) : Prop where
  keys : dataset.keys.RenamedTo rename other.keys
  points : other.points = dataset.points
  faithful : dataset.keys.IsRenaming rename
  reflexive : ∀ key ∈ dataset.keys.keys, key.equals key = true
  stillReflexive : ∀ key ∈ other.keys.keys, key.equals key = true

namespace RenamedTo

variable {dataset other : Dataset} {rename : Key → Key} {key : Key}
  (renamed : dataset.RenamedTo rename other)

include renamed

theorem size_eq : other.size = dataset.size :=
  renamed.keys.size_eq

theorem beq_self : ∀ key ∈ dataset.keys.keys, (key == key) = true := by
  intro key isKey
  exact Key.beq_self_of_equals (renamed.reflexive key isKey)

theorem found : dataset.keys.Within dataset.keys := by
  intro key isKey
  exact KeySequence.contains_iff.mpr ⟨key, isKey, renamed.beq_self key isKey⟩

theorem pointAt_eq (row : Nat) : other.pointAt row = dataset.pointAt row := by
  rw [pointAt, renamed.points, pointAt]

variable (present : dataset.contains key = true)

include present

theorem contains_eq : other.contains (rename key) = true :=
  (renamed.faithful.contains_eq renamed.found renamed.keys present).trans present

/-- A key and its new name have the same row. -/
theorem exists_rowOf : ∃ row, dataset.rowOf key = .ok row ∧ other.rowOf (rename key) = .ok row := by
  rcases KeySequence.exists_position_iff.mpr present with ⟨row, placed⟩
  exact ⟨row, placed,
    (renamed.faithful.position_eq_ok renamed.found renamed.keys present).mpr placed⟩

theorem pointOf_eq : other.pointOf (rename key) = dataset.pointOf key := by
  rcases renamed.exists_rowOf present with ⟨row, placed, otherPlaced⟩
  rw [pointOf, pointOf, placed, otherPlaced, Outcome.ok_bind, Outcome.ok_bind, renamed.pointAt_eq]

theorem scoreOf_eq (distance : Distance) (point : Point) :
    scoreOf distance other point (rename key).value =
      (scoreOf distance dataset point key.value).map (ScoredCandidate.renamed rename) := by
  rcases renamed.exists_rowOf present with ⟨row, placed, otherPlaced⟩
  rw [CurveNeighbors.scoreOf_eq, CurveNeighbors.scoreOf_eq, Key.toKey_value, Key.toKey_value,
    Outcome.ok_bind, Outcome.ok_bind, placed, otherPlaced, Outcome.ok_bind, Outcome.ok_bind,
    renamed.pointAt_eq]
  cases dataset.pointAt row with
  | error fault => rfl
  | ok located =>
      rw [Outcome.ok_bind, Outcome.ok_bind]
      cases (distance.evaluate point located).outcome with
      | error fault => rfl
      | ok value =>
          rw [Outcome.ok_bind, Outcome.ok_bind, ← Value.renamed_value]
          rfl

end RenamedTo

end Dataset

/-! ## Searches -/

section

variable {dataset other : Dataset} {rename : Key → Key} {found others : KeySequence}
  (renamed : dataset.RenamedTo rename other)

include renamed

/-- Keys are scored under their new names as they are themselves. -/
theorem mapM_scoreOf_map {keys : List Key} (known : ∀ key ∈ keys, dataset.contains key = true)
    (distance : Distance) (point : Point) :
    ((keys.map rename).map (·.value)).mapM (scoreOf distance other point) =
      ((keys.map (·.value)).mapM (scoreOf distance dataset point)).map
        (List.map (ScoredCandidate.renamed rename)) := by
  rw [List.mapM_map, List.mapM_map, List.mapM_map]
  apply Outcome.mapM_eq_map
  intro key isKey
  exact renamed.scoreOf_eq (known key isKey) distance point

variable (known : found.Within dataset.keys) (isRenamed : found.RenamedTo rename others)

include known isRenamed

theorem mapM_scoreOf_renamed (distance : Distance) (point : Point) :
    others.values.mapM (scoreOf distance other point) =
      (found.values.mapM (scoreOf distance dataset point)).map
        (List.map (ScoredCandidate.renamed rename)) := by
  rw [KeySequence.values, isRenamed]
  exact mapM_scoreOf_map renamed known distance point

/-- A search among renamed candidates finds what the search among the candidates does, in whatever
orders they arrive. -/
theorem exists_rerank_renamed {distance : Distance} {point : Point} {capacity : Nat}
    (positive : 0 < capacity) {scored : List ScoredCandidate}
    (scores : ScoresOf distance dataset point found scored) {arrival otherArrival : List Value}
    (perm : arrival.Perm found.values) (otherPerm : otherArrival.Perm others.values) :
    ∃ kept, (rerank distance dataset arrival point (.ofInt capacity)).outcome = .ok kept ∧
      (rerank distance other otherArrival point (.ofInt capacity)).outcome =
        .ok (kept.map (Neighbor.renamed rename)) := by
  have otherEach := mapM_scoreOf_renamed renamed known isRenamed distance point
  rw [scores.each] at otherEach
  have otherScores : ScoresOf distance other point others
      (scored.map (ScoredCandidate.renamed rename)) :=
    ⟨otherEach, List.forall_mem_map.mpr scores.defined⟩
  rcases scores.exists_nearest positive perm with ⟨kept, reranked, nearest⟩
  rcases otherScores.exists_nearest positive otherPerm with ⟨best, otherReranked, closest⟩
  refine ⟨_, reranked, ?_⟩
  rw [otherReranked, closest.eq_of_scores (nearest.renamed rename) otherScores, List.map_map,
    List.map_map]
  rfl

end

end CurveNeighbors
