import CurveNeighbors.Proofs.Neighbors.Ranking
import CurveNeighbors.Proofs.Number.Values

/-!
# The best of the entries offered to a heap

Whatever entries are offered to a bounded heap, and in whatever order, at every moment it
holds those of the lowest ranks, as many as there is room for. The worst of them is on
top, so an entry that is no better than this one leaves a full heap as it is, and the
reach of a full heap only shrinks.

Entries of one rank are in one row. They have equal keys if rows are given to keys, and
then it cannot be told which of them was kept: sorted, the entries are those of the
lowest ranks up to equality, for every order in which they were offered.
-/

namespace CurveNeighbors

namespace HeapEntry

/-- The entries of the lowest ranks in ascending order, no more than there is room for. -/
def lowest (capacity : Nat) (entries : List HeapEntry) : List HeapEntry :=
  (entries.mergeSort fun left right => decide (left.rank ≤ right.rank)).take capacity

theorem map_rank_lowest (capacity : Nat) (entries : List HeapEntry) :
    (lowest capacity entries).map rank = (sortedRanks rank entries).take capacity := by
  have ascending := List.pairwise_mergeSort (rank_le_trans rank) (rank_le_total rank) entries
  rw [lowest, List.map_take, map_eq_sortedRanks (List.mergeSort_perm ..)]
  simpa using ascending

theorem mem_of_mem_lowest {capacity : Nat} {entries : List HeapEntry} {entry : HeapEntry}
    (isLowest : entry ∈ lowest capacity entries) : entry ∈ entries :=
  List.mem_mergeSort.mp (List.mem_of_mem_take isLowest)

/-- Entries in whole rows at defined distances, of which those in one row have equal keys. -/
structure InRows (entries : List HeapEntry) : Prop where
  placed : ∀ entry ∈ entries, ∃ row, entry.row = .whole row
  defined : ∀ entry ∈ entries, Binary64.isUndefined entry.distance = false
  identified : ∀ left ∈ entries, ∀ right ∈ entries, left.row.same right.row = true →
    left.key.same right.key = true

namespace InRows

variable {entries : List HeapEntry}

theorem mono {others : List HeapEntry} (inRows : InRows entries)
    (within : ∀ entry ∈ others, entry ∈ entries) : InRows others where
  placed entry isEntry := inRows.placed entry (within entry isEntry)
  defined entry isEntry := inRows.defined entry (within entry isEntry)
  identified left isLeft right isRight :=
    inRows.identified left (within left isLeft) right (within right isRight)

theorem same_key {left right : HeapEntry} {leftRow rightRow : Int} (inRows : InRows entries)
    (isLeft : left ∈ entries) (isRight : right ∈ entries) (isLeftRow : left.row = .whole leftRow)
    (isRightRow : right.row = .whole rightRow) (sameRow : leftRow = rightRow) :
    left.key.same right.key = true := by
  apply inRows.identified left isLeft right isRight
  simp [isLeftRow, isRightRow, sameRow]

theorem rankedBy (inRows : InRows entries) : BoundedHeap.RankedBy rank entries.toArray := by
  intro left isLeft right isRight
  rw [List.mem_toArray] at isLeft isRight
  rcases inRows.placed left isLeft with ⟨leftRow, isLeftRow⟩
  rcases inRows.placed right isRight with ⟨rightRow, isRightRow⟩
  exact worse?_eq_of_rows isLeftRow isRightRow (inRows.defined left isLeft)
    (inRows.defined right isRight) (inRows.same_key isLeft isRight isLeftRow isRightRow)

theorem same_of_rank_eq {left right : HeapEntry} (inRows : InRows entries)
    (isLeft : left ∈ entries) (isRight : right ∈ entries) (equal : left.rank = right.rank) :
    left.same right = true := by
  rcases inRows.placed left isLeft with ⟨leftRow, isLeftRow⟩
  rcases inRows.placed right isRight with ⟨rightRow, isRightRow⟩
  exact HeapEntry.same_of_rank_eq isLeftRow isRightRow (inRows.defined left isLeft)
    (inRows.defined right isRight) (inRows.same_key isLeft isRight isLeftRow isRightRow) equal

/-- Entries are determined by their ranks up to equality. -/
theorem forall₂_same {left right : List HeapEntry} (inRows : InRows entries)
    (leftWithin : ∀ entry ∈ left, entry ∈ entries) (rightWithin : ∀ entry ∈ right, entry ∈ entries)
    (equal : left.map rank = right.map rank) :
    List.Forall₂ (fun entry other => entry.same other = true) left right := by
  apply forall₂_of_map_eq equal
  intro entry isLeft other isRight
  exact inRows.same_of_rank_eq (leftWithin entry isLeft) (rightWithin other isRight)

end InRows

end HeapEntry

namespace BoundedHeap

open HeapEntry

/-! ## A full heap -/

section

variable {ρ : Type} [LinearOrder ρ] {rank : HeapEntry → ρ} {capacity : Nat}
  {seen more : List HeapEntry} {heap next : BoundedHeap} {entry worst : HeapEntry}

theorem exists_worst (nonempty : 0 < heap.size) : ∃ worst, heap.worst? = some worst :=
  ⟨heap.entries[0], Array.getElem?_eq_getElem nonempty⟩

theorem reach_eq (isWorst : heap.worst? = some worst) : heap.reach = worst.distance := by
  rw [reach, isWorst]

theorem Retains.insert_eq_self (positive : 0 < capacity) (retains : Retains rank capacity seen heap)
    (ranked : RankedBy rank (seen ++ [entry]).toArray) (full : capacity ≤ heap.size)
    (isWorst : heap.worst? = some worst) (notBetter : rank worst ≤ rank entry) :
    heap.insert entry = (.ok (), heap) := by
  rcases insert_cases_of_ranked positive retains.limited (retains.rankedBy_push ranked) with
    ⟨room, _⟩ | ⟨_, other, isOther, ⟨_, passed⟩ | ⟨better, _⟩⟩
  · omega
  · exact passed
  · cases isWorst.symm.trans isOther
    exact absurd better notBetter.not_gt

/-- An entry taken into a full heap is better than the worst one, which it replaces. -/
theorem Retains.le_worst_of_insert (positive : 0 < capacity)
    (retains : Retains rank capacity seen heap)
    (ranked : RankedBy rank (seen ++ [entry]).toArray) (full : capacity ≤ heap.size)
    (isWorst : heap.worst? = some worst) (inserted : heap.insert entry = (.ok (), next)) :
    ∀ member ∈ next.entries, rank member ≤ rank worst := by
  intro member isMember
  rcases insert_cases_of_ranked positive retains.limited (retains.rankedBy_push ranked) with
    ⟨room, _⟩ | ⟨_, other, isOther, ⟨_, passed⟩ | ⟨better, reached, _, replaced⟩⟩
  · omega
  · cases inserted.symm.trans passed
    exact retains.ordered.le_root isWorst isMember
  · cases inserted.symm.trans replaced
    cases isWorst.symm.trans isOther
    rcases Array.mem_or_eq_of_mem_setIfInBounds
      ((replaced_perm heap entry reached).mem_iff.mp isMember) with old | rfl
    · exact retains.ordered.le_root isWorst old
    · exact better.le

/-- Once a heap is full, all that it holds later is no worse than its worst entry now. -/
theorem Retains.le_worst_of_insertAll {final : BoundedHeap} (positive : 0 < capacity)
    (retains : Retains rank capacity seen heap) (ranked : RankedBy rank (seen ++ more).toArray)
    (full : capacity ≤ heap.size) (isWorst : heap.worst? = some worst)
    (filled : heap.insertAll more = .ok final) :
    ∀ member ∈ final.entries, rank member ≤ rank worst := by
  induction more generalizing seen heap worst with
  | nil =>
      cases filled
      intro member isMember
      exact retains.ordered.le_root isWorst isMember
  | cons entry more ih =>
      rw [List.append_cons] at ranked
      rcases insert_retains positive retains ranked.of_append with ⟨next, inserted, kept⟩
      rw [insertAll_cons more inserted] at filled
      have stillFull : capacity ≤ next.size := by
        have before := retains.filled
        have after := kept.filled
        rw [List.length_append] at after
        omega
      rcases exists_worst (positive.trans_le stillFull) with ⟨nextWorst, isNextWorst⟩
      have noWorse := retains.le_worst_of_insert positive ranked.of_append full isWorst inserted
        nextWorst (Array.mem_of_getElem? isNextWorst)
      intro member isMember
      exact (ih kept ranked stillFull isNextWorst filled member isMember).trans noWorse

end

/-! ## What is held -/

/-- What a heap holds after some entries were offered to it, and how these are sorted. -/
structure HoldsLowest (capacity : Nat) (seen : List HeapEntry) (heap : BoundedHeap)
    (sorted : List HeapEntry) : Prop where
  size_eq : heap.size = min capacity seen.length
  isSorted : heap.sorted = .ok sorted
  perm : sorted.Perm heap.entries.toList
  fromSeen : ∃ dropped, seen.Perm (sorted ++ dropped)
  ascending : sorted.Pairwise fun left right => left.rank ≤ right.rank
  isLowest : List.Forall₂ (fun entry other => entry.same other = true) sorted
    (lowest capacity seen)
  onTop : ∀ worst, heap.entries[0]? = some worst →
    heap.reach = worst.distance ∧ ∀ entry ∈ heap.entries, entry.rank ≤ worst.rank
  none_iff : heap.entries[0]? = none ↔ seen = []
  reach_of_nil : seen = [] → Binary64.exact heap.reach = .positiveInfinity

section

variable {capacity : Nat} {seen : List HeapEntry} {heap : BoundedHeap}

theorem Retains.getElem?_zero_iff (positive : 0 < capacity)
    (retains : Retains HeapEntry.rank capacity seen heap) :
    heap.entries[0]? = none ↔ seen = [] := by
  have filled := retains.filled
  rw [size] at filled
  rw [Array.getElem?_eq_none_iff, ← List.length_eq_zero_iff]
  omega

theorem Retains.exists_sorted_inRows (inRows : InRows seen)
    (retains : Retains HeapEntry.rank capacity seen heap) :
    ∃ sorted, heap.sorted = .ok sorted ∧ sorted.Perm heap.entries.toList ∧
      (sorted.Pairwise fun left right => left.rank ≤ right.rank) ∧
      sorted.map HeapEntry.rank = (sortedRanks HeapEntry.rank seen).take capacity := by
  apply retains.exists_sorted inRows.rankedBy
  intro entry isEntry other isOther
  exact inRows.same_of_rank_eq isEntry isOther

theorem Retains.exists_holdsLowest (positive : 0 < capacity) (inRows : InRows seen)
    (retains : Retains HeapEntry.rank capacity seen heap) :
    ∃ sorted, HoldsLowest capacity seen heap sorted := by
  have none_iff := retains.getElem?_zero_iff positive
  rcases retains.exists_sorted_inRows inRows with ⟨sorted, success, perm, ascending, ranks⟩
  rcases retains.best with ⟨dropped, split, _⟩
  refine ⟨sorted, retains.filled, success, perm, ⟨dropped, ?_⟩, ascending, ?_, ?_, none_iff, ?_⟩
  · exact split.trans (perm.symm.append_right dropped)
  · refine inRows.forall₂_same ?_ (fun _ => mem_of_mem_lowest) ?_
    · intro entry isEntry
      exact retains.mem_seen (Array.mem_toList_iff.mp (perm.mem_iff.mp isEntry))
    · rw [ranks, map_rank_lowest]
  · intro worst isWorst
    refine ⟨reach_eq isWorst, ?_⟩
    intro entry isEntry
    exact retains.ordered.le_root isWorst isEntry
  · intro none
    rw [reach, worst?, none_iff.mpr none]
    decide +kernel

/-- Sorted, what two heaps hold is the same if they were offered the same entries. -/
theorem Retains.forall₂_same {arrived sorted again : List HeapEntry} {other : BoundedHeap}
    (inRows : InRows seen) (retains : Retains HeapEntry.rank capacity seen heap)
    (others : Retains HeapEntry.rank capacity arrived other) (perm : arrived.Perm seen)
    (isSorted : heap.sorted = .ok sorted) (againSorted : other.sorted = .ok again) :
    List.Forall₂ (fun entry other => entry.same other = true) sorted again := by
  have arrivedInRows : InRows arrived := inRows.mono fun _ => perm.mem_iff.mp
  rcases retains.exists_sorted_inRows inRows with ⟨_, found, members, _, ranks⟩
  rcases others.exists_sorted_inRows arrivedInRows with ⟨_, otherFound, otherMembers, _, otherRanks⟩
  cases isSorted.symm.trans found
  cases againSorted.symm.trans otherFound
  apply inRows.forall₂_same
  · intro entry isEntry
    exact retains.mem_seen (Array.mem_toList_iff.mp (members.mem_iff.mp isEntry))
  · intro entry isEntry
    apply perm.mem_iff.mp
    exact others.mem_seen (Array.mem_toList_iff.mp (otherMembers.mem_iff.mp isEntry))
  · rw [ranks, otherRanks, sortedRanks_of_perm perm]

/-- The reach of a full heap never grows. -/
theorem Retains.reach_atMost {more : List HeapEntry} {final : BoundedHeap} (positive : 0 < capacity)
    (retains : Retains HeapEntry.rank capacity seen heap) (inRows : InRows (seen ++ more))
    (full : capacity ≤ heap.size) (filled : heap.insertAll more = .ok final)
    (finalRetains : Retains HeapEntry.rank capacity (seen ++ more) final) :
    (Number.real final.reach).atMost (.real heap.reach) = true := by
  have stillFull : capacity ≤ final.size := by
    have before := retains.filled
    have after := finalRetains.filled
    rw [List.length_append] at after
    omega
  rcases exists_worst (positive.trans_le full) with ⟨worst, isWorst⟩
  rcases exists_worst (positive.trans_le stillFull) with ⟨finalWorst, isFinalWorst⟩
  have isHeld := Array.mem_of_getElem? isWorst
  have isFinallyHeld := Array.mem_of_getElem? isFinalWorst
  have noWorse := retains.le_worst_of_insertAll positive inRows.rankedBy full isWorst filled
    finalWorst isFinallyHeld
  rw [reach_eq isWorst, reach_eq isFinalWorst]
  apply Binary64.atMost_of_place_le
  · exact inRows.defined finalWorst (finalRetains.mem_seen isFinallyHeld)
  · exact inRows.defined worst (List.mem_append_left _ (retains.mem_seen isHeld))
  · exact HeapEntry.place_le_of_rank_le noWorse

/-- A run of insertions into an empty heap ends with the lowest ranks. -/
theorem exists_insertAll_empty (positive : 0 < capacity) (inRows : InRows seen) :
    ∃ heap, (empty (.ofInt capacity)).insertAll seen = .ok heap ∧
      Retains HeapEntry.rank capacity seen heap := by
  rcases insertAll_retains positive (retains_empty _ capacity)
    (by simpa using inRows.rankedBy) with ⟨heap, filled, retains⟩
  exact ⟨heap, filled, by simpa using retains⟩

end

/-- After any number of insertions a heap holds the lowest ranks of what it was offered, in
whatever order. From then on, a full heap is not changed by an entry that is no better than its
worst one, and its reach never grows. -/
theorem insertAll_holds_lowest {capacity : Int} {seen more : List HeapEntry}
    (positive : 0 < capacity) (inRows : InRows (seen ++ more)) :
    ∃ heap sorted final,
      (empty (.ofInt capacity)).insertAll seen = .ok heap ∧
      HoldsLowest capacity.toNat seen heap sorted ∧
      heap.insertAll more = .ok final ∧
      (heap.size = capacity →
        (Number.real final.reach).atMost (.real heap.reach) = true ∧
        ∀ entry ∈ more, ∀ worst, heap.worst? = some worst → ¬entry.rank < worst.rank →
          heap.insert entry = (.ok (), heap)) ∧
      ∀ arrived, arrived.Perm seen → ∃ other again,
        (empty (.ofInt capacity)).insertAll arrived = .ok other ∧
        HoldsLowest capacity.toNat arrived other again ∧
        List.Forall₂ (fun entry other => entry.same other = true) sorted again := by
  rcases Int.eq_ofNat_of_zero_le positive.le with ⟨capacity, rfl⟩
  have room : 0 < capacity := by omega
  have seenInRows : InRows seen := inRows.mono fun _ => List.mem_append_left _
  rcases exists_insertAll_empty room seenInRows with ⟨heap, filled, retains⟩
  rcases retains.exists_holdsLowest room seenInRows with ⟨sorted, holds⟩
  rcases insertAll_retains room retains inRows.rankedBy with ⟨final, continued, finalRetains⟩
  refine ⟨heap, sorted, final, filled, holds, continued, ?_, ?_⟩
  · intro full
    have isFull : capacity ≤ heap.size := by omega
    refine ⟨retains.reach_atMost room inRows isFull continued finalRetains, ?_⟩
    intro entry isEntry worst isWorst notBetter
    have within : ∀ member ∈ seen ++ [entry], member ∈ seen ++ more := by
      simp only [List.mem_append, List.mem_singleton]
      rintro member (old | rfl)
      · exact .inl old
      · exact .inr isEntry
    exact retains.insert_eq_self room (inRows.mono within).rankedBy isFull isWorst
      (not_lt.mp notBetter)
  · intro arrived perm
    have arrivedInRows : InRows arrived := seenInRows.mono fun _ => perm.mem_iff.mp
    rcases exists_insertAll_empty room arrivedInRows with ⟨other, refilled, others⟩
    rcases others.exists_holdsLowest room arrivedInRows with ⟨again, alsoHolds⟩
    exact ⟨other, again, refilled, alsoHolds,
      retains.forall₂_same seenInRows others perm holds.isSorted alsoHolds.isSorted⟩

/-- Three entries at one distance, of which the last two are of one row. -/
def tiedEntries : List HeapEntry :=
  [⟨1, .whole 4, .text "last"⟩, ⟨1, .whole 2, .ofInt 1⟩, ⟨1, .whole 2, .truth true⟩]

theorem insertAll_holds_lowest_tied :
    (0 : Int) < 2 ∧ InRows (tiedEntries ++ [⟨1, .whole 3, .null⟩]) ∧
      ∃ heap sorted final,
        (empty (.ofInt 2)).insertAll tiedEntries = .ok heap ∧
        HoldsLowest 2 tiedEntries heap sorted ∧
        heap.insertAll [⟨1, .whole 3, .null⟩] = .ok final ∧
        (Number.real final.reach).atMost (.real heap.reach) = true := by
  have positive : (0 : Int) < 2 := by decide
  have inRows : InRows (tiedEntries ++ [⟨1, .whole 3, .null⟩]) := by
    refine ⟨?_, by decide, by decide⟩
    simp [tiedEntries]
  rcases insertAll_holds_lowest positive inRows with
    ⟨heap, sorted, final, filled, holds, continued, later, _⟩
  have full : (heap.size : Int) = 2 := congrArg Int.ofNat holds.size_eq
  exact ⟨positive, inRows, heap, sorted, final, filled, holds, continued, (later full).1⟩

end BoundedHeap

end CurveNeighbors
