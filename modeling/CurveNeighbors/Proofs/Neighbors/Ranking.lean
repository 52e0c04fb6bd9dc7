import CurveNeighbors.Proofs.Neighbors.Scoring
import Mathlib.Data.List.Nodup
import Mathlib.Data.Prod.Lex
import Mathlib.Order.OrderDual

/-!
# Ranks

The rank of a candidate is its distance together with its row. Where no distance is
undefined, candidates are compared by their ranks alone, in a full scan as well as in a
bounded heap, and in whatever order they arrive. Both searches therefore end with the
lowest ranks in ascending order. Candidates of one rank are in one row, so the ranks
determine the neighbours that are found.
-/

namespace CurveNeighbors

/-- Items of the same ranks are related one by one if those of one rank are. -/
theorem forall₂_of_map_eq {α ρ : Type} {rank : α → ρ} {R : α → α → Prop} {left right : List α}
    (equal : left.map rank = right.map rank)
    (related : ∀ item ∈ left, ∀ other ∈ right, rank item = rank other → R item other) :
    List.Forall₂ R left right := by
  rw [← List.forall₂_eq_eq_eq, List.forall₂_map_left_iff, List.forall₂_map_right_iff,
    List.forall₂_iff_zip] at equal
  refine List.forall₂_iff_zip.mpr ⟨equal.1, ?_⟩
  intro item other isPair
  rcases List.of_mem_zip isPair with ⟨isLeft, isRight⟩
  exact related item isLeft other isRight (equal.2 isPair)

/-! ## Sorting by rank -/

section

variable {α ρ : Type} [LinearOrder ρ] (rank : α → ρ)

theorem rank_le_trans (first second third : α) : decide (rank first ≤ rank second) = true →
    decide (rank second ≤ rank third) = true → decide (rank first ≤ rank third) = true := by
  simp only [decide_eq_true_eq]
  exact le_trans

theorem rank_le_total (left right : α) :
    (decide (rank left ≤ rank right) || decide (rank right ≤ rank left)) = true := by
  simp only [Bool.or_eq_true, decide_eq_true_eq]
  exact le_total _ _

section

variable {items : List α} {less : α → α → Bool}
  (ranked : ∀ left ∈ items, ∀ right ∈ items, less left right = decide (rank left < rank right))

include ranked

theorem mergeSort_eq_of_rank :
    items.mergeSort (fun left right => !less right left) =
      items.mergeSort fun left right => decide (rank left ≤ rank right) := by
  have renamed := List.map_mergeSort (f := id) (l := items)
    (r := fun left right => !less right left)
    (s := fun left right => decide (rank left ≤ rank right)) (by
      intro left isLeft right isRight
      rw [ranked right isRight left isLeft, ← decide_not]
      exact decide_eq_decide.mpr not_lt)
  simpa using renamed

theorem pairwise_mergeSort_of_rank :
    (items.mergeSort fun left right => !less right left).Pairwise
      fun left right => rank left ≤ rank right := by
  have sorted := List.pairwise_mergeSort (rank_le_trans rank) (rank_le_total rank) items
  rw [mergeSort_eq_of_rank rank ranked]
  simpa using sorted

/-- Items of one rank stay in their order. -/
theorem pairwise_mergeSort_of_ascending [LinearOrder α] (ascending : items.Pairwise (· < ·)) :
    (items.mergeSort fun left right => !less right left).Pairwise
      fun left right => rank left < rank right ∨ rank left = rank right ∧ left < right := by
  have nodup : (items.mergeSort fun left right => !less right left).Nodup :=
    (List.mergeSort_perm _ _).nodup_iff.mpr (ascending.imp ne_of_lt)
  -- The places of the items go along with them, and decide where the ranks are equal.
  have placed : (items.mergeSort fun left right => !less right left).Pairwise
      fun left right => rank left < rank right ∨ rank left = rank right ∧ left ≤ right := by
    rw [mergeSort_eq_of_rank rank ranked, ← List.mergeSort_zipIdx, List.pairwise_map]
    have sorted := List.pairwise_mergeSort (List.zipIdxLE_trans (rank_le_trans rank))
      (List.zipIdxLE_total (rank_le_total rank)) items.zipIdx
    apply sorted.imp_of_mem
    rintro ⟨left, leftPlace⟩ ⟨right, rightPlace⟩ isLeft isRight ordered
    rw [List.mem_mergeSort, List.mk_mem_zipIdx_iff_getElem?] at isLeft isRight
    have inOrder (notAfter : leftPlace ≤ rightPlace) : left ≤ right := by
      rcases List.getElem?_eq_some_iff.mp isLeft with ⟨inside, rfl⟩
      rcases List.getElem?_eq_some_iff.mp isRight with ⟨otherInside, rfl⟩
      rcases notAfter.eq_or_lt with rfl | before
      · exact le_rfl
      · exact (List.pairwise_iff_getElem.mp ascending _ _ inside otherInside before).le
    rcases lt_trichotomy (rank left) (rank right) with lower | equal | higher
    · exact .inl lower
    · exact .inr ⟨equal, inOrder (by simpa [List.zipIdxLE, equal] using ordered)⟩
    · simp [List.zipIdxLE, higher.not_ge] at ordered
  apply (placed.and nodup).imp
  rintro left right ⟨lower | ⟨equal, notAfter⟩, different⟩
  · exact .inl lower
  · exact .inr ⟨equal, notAfter.lt_of_ne different⟩

end

/-- The ranks of items in ascending order. -/
def sortedRanks (items : List α) : List ρ :=
  (items.map rank).mergeSort fun left right => !decide (right < left)

theorem sortedRanks_perm (items : List α) : (sortedRanks rank items).Perm (items.map rank) :=
  List.mergeSort_perm ..

theorem pairwise_sortedRanks (items : List α) : (sortedRanks rank items).Pairwise (· ≤ ·) :=
  pairwise_mergeSort_of_rank id (by simp)

theorem rank_mem_sortedRanks {items : List α} {item : α} (isItem : item ∈ items) :
    rank item ∈ sortedRanks rank items :=
  (sortedRanks_perm rank items).mem_iff.mpr (List.mem_map_of_mem isItem)

/-- Ranks that differ ascend strictly. -/
theorem pairwise_lt_sortedRanks {items : List α} (distinct : (items.map rank).Nodup) :
    (sortedRanks rank items).Pairwise (· < ·) := by
  have different : (sortedRanks rank items).Nodup :=
    (sortedRanks_perm rank items).nodup_iff.mpr distinct
  apply ((pairwise_sortedRanks rank items).and different).imp
  rintro left right ⟨ordered, unequal⟩
  exact lt_of_le_of_ne ordered unequal

/-- The place of an item is the number of those below it. -/
theorem getElem?_countP_lt {sorted : List ρ} (ascending : sorted.Pairwise (· < ·)) {item : ρ}
    (isItem : item ∈ sorted) :
    sorted[sorted.countP fun other => decide (other < item)]? = some item := by
  induction sorted with
  | nil => simp at isItem
  | cons first rest ih =>
      rcases List.pairwise_cons.mp ascending with ⟨least, ascending⟩
      -- The first item has none below it, and is itself below all others.
      rcases List.mem_cons.mp isItem with rfl | later
      · have noneBelow : rest.countP (fun other => decide (other < item)) = 0 := by
          apply List.countP_eq_zero.mpr
          intro other isOther
          simpa using (least other isOther).le
        simp [noneBelow]
      · have below := least item later
        simpa [below] using ih ascending later

theorem mem_take_iff_countP_lt {sorted : List ρ} (ascending : sorted.Pairwise (· < ·)) {item : ρ}
    (isItem : item ∈ sorted) (count : Nat) :
    item ∈ sorted.take count ↔ (sorted.countP fun other => decide (other < item)) < count := by
  have found := getElem?_countP_lt ascending isItem
  rcases List.getElem?_eq_some_iff.mp found with ⟨inside, isThere⟩
  constructor
  · intro isFirst
    rcases List.getElem_of_mem isFirst with ⟨place, bound, isHere⟩
    rw [List.length_take] at bound
    rw [List.getElem_take] at isHere
    have distinct : List.Nodup sorted := ascending.imp ne_of_lt
    have samePlace := distinct.getElem_inj_iff.mp (isThere.trans isHere.symm)
    omega
  · intro few
    apply List.mem_of_getElem?
    rw [List.getElem?_take_of_lt few]
    exact found

variable {rank}

theorem map_eq_sortedRanks {items sorted : List α} (perm : sorted.Perm items)
    (ascending : sorted.Pairwise fun left right => rank left ≤ rank right) :
    sorted.map rank = sortedRanks rank items := by
  refine List.Perm.eq_of_pairwise ?_ (List.pairwise_map.mpr ascending)
    (pairwise_sortedRanks rank items) ((perm.map rank).trans (sortedRanks_perm rank items).symm)
  intro left right _ _
  exact le_antisymm

theorem sortedRanks_of_perm {items others : List α} (perm : items.Perm others) :
    sortedRanks rank items = sortedRanks rank others := by
  refine List.Perm.eq_of_pairwise ?_ (pairwise_sortedRanks rank items)
    (pairwise_sortedRanks rank others) ?_
  · intro left right _ _
    exact le_antisymm
  · exact (sortedRanks_perm rank items).trans
      ((perm.map rank).trans (sortedRanks_perm rank others).symm)

/-- Those that were kept are the lowest ranks, if none that was dropped ranks below them. -/
theorem map_eq_take_sortedRanks {seen kept dropped : List α} {capacity : Nat}
    (perm : seen.Perm (kept ++ dropped))
    (best : ∀ member ∈ kept, ∀ other ∈ dropped, rank member ≤ rank other)
    (ascending : kept.Pairwise fun left right => rank left ≤ rank right)
    (filled : kept.length = min capacity seen.length) :
    kept.map rank = (sortedRanks rank seen).take capacity := by
  have restPerm := List.mergeSort_perm dropped fun left right => !decide (rank right < rank left)
  have restSorted : (dropped.mergeSort fun left right => !decide (rank right < rank left)).Pairwise
      fun left right => rank left ≤ rank right := pairwise_mergeSort_of_rank rank (by simp)
  have whole := map_eq_sortedRanks ((restPerm.append_left kept).trans perm.symm)
    (List.pairwise_append.mpr ⟨ascending, restSorted, by
      intro member isMember other isOther
      exact best member isMember other (restPerm.mem_iff.mp isOther)⟩)
  rw [← whole, List.map_append]
  have lengths := perm.length_eq
  rw [List.length_append] at lengths
  rcases Nat.le_total capacity seen.length with enough | few
  · rw [List.take_left' (by rw [List.length_map]; omega)]
  · have none : dropped = [] := List.eq_nil_of_length_eq_zero (by omega)
    rw [none, List.mergeSort_nil, List.map_nil, List.append_nil,
      List.take_of_length_le (by rw [List.length_map]; omega)]

end

/-! ## The rank of a candidate -/

namespace HeapEntry

/-- What entries are compared by: the distance and, of equally far ones, the row. -/
def rank (entry : HeapEntry) : Int ×ₗ Int :=
  toLex (Binary64.place entry.distance, match entry.row with
    | .whole row => row
    | _ => 0)

theorem place_le_of_rank_le {left right : HeapEntry} (ordered : left.rank ≤ right.rank) :
    Binary64.place left.distance ≤ Binary64.place right.distance := by
  rcases Prod.Lex.toLex_le_toLex.mp ordered with nearer | ⟨equal, _⟩
  · exact nearer.le
  · exact equal.le

section

variable {left right : HeapEntry} {leftRow rightRow : Int}
  (isLeft : left.row = .whole leftRow) (isRight : right.row = .whole rightRow)

include isLeft isRight

theorem rank_lt_rank_iff : left.rank < right.rank ↔
    Binary64.place left.distance < Binary64.place right.distance ∨
      Binary64.place left.distance = Binary64.place right.distance ∧ leftRow < rightRow := by
  simp [rank, isLeft, isRight, Prod.Lex.toLex_lt_toLex]

theorem rank_eq_rank_iff : left.rank = right.rank ↔
    Binary64.place left.distance = Binary64.place right.distance ∧ leftRow = rightRow := by
  simp [rank, isLeft, isRight]

variable (leftDefined : Binary64.isUndefined left.distance = false)
  (rightDefined : Binary64.isUndefined right.distance = false)

include leftDefined rightDefined

/-- Entries of which those in one row have equal keys are compared by their ranks. -/
theorem worse?_eq_of_rows (same : leftRow = rightRow → left.key.same right.key = true) :
    left.worse? right = some (decide (right.rank < left.rank)) := by
  have compared : left.worse? right =
      some (decide (Binary64.place right.distance < Binary64.place left.distance ∨
        Binary64.place right.distance = Binary64.place left.distance ∧ rightRow < leftRow)) := by
    unfold worse?
    by_cases samePlace : Binary64.place left.distance = Binary64.place right.distance
    · by_cases sameRow : leftRow = rightRow
      · simp [leftDefined, rightDefined, isLeft, isRight, samePlace, sameRow, same sameRow]
      · simp [leftDefined, rightDefined, isLeft, isRight, samePlace, sameRow]
    · simp [leftDefined, rightDefined, samePlace, Ne.symm samePlace]
  exact compared.trans (congrArg some (decide_eq_decide.mpr (rank_lt_rank_iff isRight isLeft).symm))

theorem same_of_rank_eq (same : leftRow = rightRow → left.key.same right.key = true)
    (equal : left.rank = right.rank) : left.same right = true := by
  rcases (rank_eq_rank_iff isLeft isRight).mp equal with ⟨samePlace, sameRow⟩
  simp [HeapEntry.same, leftDefined, rightDefined, isLeft, isRight, samePlace, sameRow,
    same sameRow]

end

end HeapEntry

namespace ScoredCandidate

/-- What candidates are compared by: the distance and, of equally far ones, the row. -/
def rank (candidate : ScoredCandidate) : Int ×ₗ Int :=
  candidate.entry.rank

theorem rank_lt_rank {left right : ScoredCandidate} :
    left.rank < right.rank ↔
      Binary64.place left.distance < Binary64.place right.distance ∨
        Binary64.place left.distance = Binary64.place right.distance ∧ left.row < right.row := by
  simp [rank, HeapEntry.rank, entry, Prod.Lex.toLex_lt_toLex]

theorem row_eq_of_rank_eq {left right : ScoredCandidate} (equal : left.rank = right.rank) :
    left.row = right.row := by
  have rows := congrArg (fun rank => (ofLex rank).2) equal
  exact Int.ofNat.inj rows

theorem place_le_of_rank_le {left right : ScoredCandidate} (ordered : left.rank ≤ right.rank) :
    Binary64.place left.distance ≤ Binary64.place right.distance :=
  HeapEntry.place_le_of_rank_le ordered

theorem nearer_eq {left right : ScoredCandidate} (leftDefined : left.isUndefined = false)
    (rightDefined : right.isUndefined = false) :
    left.nearer right = decide (left.rank < right.rank) := by
  rw [nearer, leftDefined, rightDefined, Bool.eq_iff_iff, decide_eq_true_iff, rank_lt_rank]
  simp

theorem worse?_entry {left right : ScoredCandidate} (leftDefined : left.isUndefined = false)
    (rightDefined : right.isUndefined = false)
    (same : left.row = right.row → left.key.same right.key = true) :
    left.entry.worse? right.entry = some (decide (right.entry.rank < left.entry.rank)) := by
  rw [isUndefined] at leftDefined rightDefined
  apply HeapEntry.worse?_eq_of_rows rfl rfl leftDefined rightDefined
  intro sameRow
  exact same (Int.ofNat.inj sameRow)

end ScoredCandidate

section

variable {distance : Distance} {dataset : Dataset} {query : Point}

theorem IsScored.rank_eq_of_row_eq {left right : ScoredCandidate}
    (isLeft : IsScored distance dataset query left)
    (isRight : IsScored distance dataset query right) (sameRow : left.row = right.row) :
    left.rank = right.rank := by
  have sameDistance := (isLeft.eq_of_row_eq isRight sameRow).1
  simp only [ScoredCandidate.rank, ScoredCandidate.entry, HeapEntry.rank, sameDistance, sameRow]

/-- At defined distances the entries of scored candidates are compared by their ranks. -/
theorem rankedBy_entries {scored : List ScoredCandidate}
    (isScored : ∀ candidate ∈ scored, IsScored distance dataset query candidate)
    (defined : ∀ candidate ∈ scored, candidate.isUndefined = false) :
    BoundedHeap.RankedBy HeapEntry.rank (scored.map ScoredCandidate.entry).toArray := by
  intro entry isEntry other isOther
  simp only [List.mem_toArray, List.mem_map] at isEntry isOther
  rcases isEntry with ⟨left, isLeft, rfl⟩
  rcases isOther with ⟨right, isRight, rfl⟩
  exact ScoredCandidate.worse?_entry (defined left isLeft) (defined right isRight) fun sameRow =>
    ((isScored left isLeft).eq_of_row_eq (isScored right isRight) sameRow).2

/-- Entries of scored candidates that have one rank are the same. -/
theorem same_entry_of_rank_eq {left right : ScoredCandidate}
    (isLeft : IsScored distance dataset query left)
    (isRight : IsScored distance dataset query right) (leftDefined : left.isUndefined = false)
    (rightDefined : right.isUndefined = false) (equal : left.rank = right.rank) :
    left.entry.same right.entry = true := by
  rw [ScoredCandidate.isUndefined] at leftDefined rightDefined
  refine HeapEntry.same_of_rank_eq rfl rfl leftDefined rightDefined ?_ equal
  intro sameRow
  exact (isLeft.eq_of_row_eq isRight (Int.ofNat.inj sameRow)).2

end

namespace BoundedHeap

/-- Entries that can be compared can be sorted. -/
theorem sorted_ok {heap : BoundedHeap} (comparable : Comparable heap.entries) :
    ∃ sorted, heap.sorted = .ok sorted ∧ sorted.Perm heap.entries.toList := by
  have pairwise : heap.entries.toList.reverse.Pairwise
      fun left right => (HeapEntry.worse? (id left) (id right)).isSome = true := by
    apply List.pairwise_of_forall_mem_list
    intro left isLeft right isRight
    simp only [List.mem_reverse, Array.mem_toList_iff] at isLeft isRight
    exact comparable left isLeft right isRight
  rw [sorted, sortAscending, if_pos pairwise, Outcome.ok_bind]
  refine ⟨_, rfl, ?_⟩
  apply (List.reverse_perm _).trans
  exact (sortStably_perm ..).trans (List.reverse_perm _)

/-- Entries compared by ranks, of which those of one rank are the same, are sorted by them. -/
theorem pairwise_of_sorted {ρ : Type} [LinearOrder ρ] {rank : HeapEntry → ρ} {heap : BoundedHeap}
    (ranked : RankedBy rank heap.entries)
    (identified : ∀ entry ∈ heap.entries, ∀ other ∈ heap.entries, rank entry = rank other →
      entry.same other = true)
    {entries : List HeapEntry} (success : heap.sorted = .ok entries) :
    entries.Pairwise fun left right => rank left ≤ rank right := by
  have less : ∀ left ∈ heap.entries.toList.reverse, ∀ right ∈ heap.entries.toList.reverse,
      (HeapEntry.worse? (id left) (id right) == some true) =
        decide (OrderDual.toDual (rank left) < OrderDual.toDual (rank right)) := by
    intro left isLeft right isRight
    simp only [List.mem_reverse, Array.mem_toList_iff] at isLeft isRight
    simp [ranked left isLeft right isRight, OrderDual.toDual_lt_toDual]
  have isOrder : heap.entries.toList.reverse.Pairwise fun left right =>
      (HeapEntry.worse? (id left) (id right) == some true ||
        HeapEntry.worse? (id right) (id left) == some true ||
          HeapEntry.same (id left) (id right)) = true := by
    apply List.pairwise_of_forall_mem_list
    intro left isLeft right isRight
    rw [less left isLeft right isRight, less right isRight left isLeft]
    simp only [List.mem_reverse, Array.mem_toList_iff] at isLeft isRight
    rcases lt_trichotomy (rank left) (rank right) with before | equal | after
    · simp [OrderDual.toDual_lt_toDual, before]
    · simp [identified left isLeft right isRight equal]
    · simp [OrderDual.toDual_lt_toDual, after]
  rw [sorted] at success
  rcases Outcome.bind_eq_ok.mp success with ⟨descending, isSorted, reversed⟩
  cases reversed
  rw [sortAscending] at isSorted
  split at isSorted
  · cases isSorted
    rw [List.pairwise_reverse, sortStably, if_pos (decide_eq_true isOrder)]
    exact pairwise_mergeSort_of_rank (fun entry => OrderDual.toDual (rank entry)) less
  · cases isSorted

/-- What a heap retains can be sorted, which gives the lowest ranks of all that it has seen. -/
theorem Retains.exists_sorted {ρ : Type} [LinearOrder ρ] {rank : HeapEntry → ρ} {capacity : Nat}
    {seen : List HeapEntry} {heap : BoundedHeap} (retains : heap.Retains rank capacity seen)
    (ranked : RankedBy rank seen.toArray)
    (identified : ∀ entry ∈ seen, ∀ other ∈ seen, rank entry = rank other →
      entry.same other = true) :
    ∃ sorted, heap.sorted = .ok sorted ∧ sorted.Perm heap.entries.toList ∧
      (sorted.Pairwise fun left right => rank left ≤ rank right) ∧
      sorted.map rank = (sortedRanks rank seen).take capacity := by
  have keptRanked : RankedBy rank heap.entries := by
    apply ranked.mono
    intro entry isEntry
    rw [List.mem_toArray]
    exact retains.mem_seen isEntry
  rcases sorted_ok keptRanked.comparable with ⟨sorted, success, perm⟩
  have ascending := pairwise_of_sorted keptRanked
    (fun entry isEntry other isOther =>
      identified entry (retains.mem_seen isEntry) other (retains.mem_seen isOther)) success
  rcases retains.best with ⟨dropped, split, best⟩
  refine ⟨sorted, success, perm, ascending, ?_⟩
  apply map_eq_take_sortedRanks (split.trans (perm.symm.append_right dropped)) _ ascending
    (perm.length_eq.trans retains.filled)
  intro member isMember
  exact best member (Array.mem_toList_iff.mp (perm.mem_iff.mp isMember))

end BoundedHeap

end CurveNeighbors
