import CurveNeighbors.Proofs.Neighbors.HeapOrder
import Mathlib.Data.List.Perm.Basic

/-!
# What a bounded heap retains

After any number of insertions a heap of capacity `k` holds the `k` best entries that
it has seen, or all of them if they are fewer: the entries seen are those that are kept
and those that were dropped, and none that was dropped is better than one that is kept.
That is the invariant of a run of insertions. It needs no argument about the order in
which the entries arrive, and of several equally bad entries it does not matter which
is dropped.
-/

namespace CurveNeighbors

namespace BoundedHeap

variable {ρ : Type} [LinearOrder ρ]

/-- Takes entries in one after the other. -/
def insertAll (heap : BoundedHeap) (entries : List HeapEntry) : Outcome BoundedHeap :=
  entries.foldlM (fun heap entry =>
    match heap.insert entry with
    | (.ok _, heap) => .ok heap
    | (.error fault, _) => .error fault) heap

/-- The heap holds the best of the entries seen, as many as there is room for. -/
structure Retains (rank : HeapEntry → ρ) (capacity : Nat) (seen : List HeapEntry)
    (heap : BoundedHeap) : Prop where
  limited : heap.capacity = .ofInt capacity
  filled : heap.size = min capacity seen.length
  ordered : Ordered rank heap.entries
  best : ∃ dropped, seen.Perm (heap.entries.toList ++ dropped) ∧
    ∀ kept ∈ heap.entries, ∀ other ∈ dropped, rank kept ≤ rank other

theorem retains_empty (rank : HeapEntry → ρ) (capacity : Nat) :
    Retains rank capacity [] (empty (.ofInt capacity)) where
  limited := rfl
  filled := by simp [empty, size]
  ordered := by
    intro position positive above below isAbove
    simp [empty] at isAbove
  best := ⟨[], by simp [empty], by simp⟩

theorem hasRoom_of_limited {heap : BoundedHeap} {capacity : Nat}
    (limited : heap.capacity = .ofInt capacity) :
    heap.hasRoom = .ok (decide (heap.size < capacity)) := by
  have known : (Value.ofInt capacity).toNumber = .ok (.whole capacity) := rfl
  simp [hasRoom, limited, known, bind, Except.bind, pure, Except.pure]

/-! ## One insertion -/

theorem push_eq {heap : BoundedHeap} {entry : HeapEntry}
    (comparable : Comparable (heap.entries.push entry)) :
    heap.push entry =
      (.ok (), ⟨heap.capacity, (rise (heap.entries.push entry) heap.size).2⟩) := by
  rw [← rise_ok comparable heap.size]
  rfl

theorem push_ordered {rank : HeapEntry → ρ} {heap : BoundedHeap} {entry : HeapEntry}
    (ranked : RankedBy rank (heap.entries.push entry)) (ordered : Ordered rank heap.entries) :
    Ordered rank (rise (heap.entries.push entry) heap.size).2 := by
  refine rise_ordered ranked ⟨?_, ?_⟩
  · intro position positive notLast above below isAbove isBelow
    have inside := (Array.getElem?_eq_some_iff.mp isBelow).1
    rw [Array.size_push] at inside
    have known : position < heap.entries.size := Nat.lt_of_le_of_ne (by omega) notLast
    rw [Array.getElem?_push_lt (by omega)] at isAbove
    rw [Array.getElem?_push_lt known] at isBelow
    exact ordered position positive above below
      (by rwa [Array.getElem?_eq_getElem (by omega)])
      (by rwa [Array.getElem?_eq_getElem known])
  · intro child _ isChild positive above below _ isBelow
    have inside := (Array.getElem?_eq_some_iff.mp isBelow).1
    rw [Array.size_push] at inside
    simp only [size] at isChild positive
    omega

/-- The heap after the worst entry was replaced. -/
def replaced (heap : BoundedHeap) (entry : HeapEntry) (reached : Nat) : BoundedHeap :=
  ⟨heap.capacity, (rise (sink (heap.entries.setIfInBounds 0 entry) 0).2 reached).2⟩

theorem replaceWorst_eq {heap : BoundedHeap} {entry : HeapEntry}
    (comparable : Comparable (heap.entries.setIfInBounds 0 entry)) :
    ∃ reached, (sink (heap.entries.setIfInBounds 0 entry) 0).1 = .ok reached ∧
      heap.replaceWorst entry = (.ok (), heap.replaced entry reached) := by
  rcases sink_ok comparable 0 with ⟨reached, success⟩
  have risen := rise_ok (comparable.of_perm (sink_perm _ 0)) reached
  refine ⟨reached, success, ?_⟩
  have split : sink (heap.entries.setIfInBounds 0 entry) 0 =
      (.ok reached, (sink (heap.entries.setIfInBounds 0 entry) 0).2) := Prod.ext success rfl
  rw [replaceWorst, split]
  exact Prod.ext risen rfl

theorem replaced_perm (heap : BoundedHeap) (entry : HeapEntry) (reached : Nat) :
    (heap.replaced entry reached).entries.Perm (heap.entries.setIfInBounds 0 entry) :=
  (rise_perm ..).trans (sink_perm ..)

theorem replaced_ordered {rank : HeapEntry → ρ} {heap : BoundedHeap} {entry : HeapEntry}
    {reached : Nat} (ranked : RankedBy rank (heap.entries.setIfInBounds 0 entry))
    (ordered : Ordered rank heap.entries)
    (success : (sink (heap.entries.setIfInBounds 0 entry) 0).1 = .ok reached) :
    Ordered rank (heap.replaced entry reached).entries := by
  refine rise_ordered (ranked.of_perm (sink_perm _ 0)) (sink_ready ranked ⟨?_, ?_⟩ success)
  · intro position positive notRoot notBelow above below isAbove isBelow
    rw [Array.getElem?_setIfInBounds_ne (by omega)] at isAbove isBelow
    exact ordered position positive above below isAbove isBelow
  · intro _ _ _ impossible
    omega

theorem mem_push_of_mem_setIfInBounds {entries : Array HeapEntry} {entry : HeapEntry}
    {position : Nat} : ∀ member ∈ entries.setIfInBounds position entry,
      member ∈ entries.push entry := by
  intro member isMember
  rcases Array.mem_or_eq_of_mem_setIfInBounds isMember with old | rfl
  · exact Array.mem_push_of_mem _ old
  · exact Array.mem_push_self

/-- An entry is taken in where there is room, and otherwise it is passed over or takes the place
of the worst one. -/
theorem insert_cases {heap : BoundedHeap} {entry : HeapEntry} {capacity : Nat}
    (positive : 0 < capacity) (limited : heap.capacity = .ofInt capacity)
    (comparable : Comparable (heap.entries.push entry)) :
    (heap.size < capacity ∧ heap.insert entry =
      (.ok (), ⟨heap.capacity, (rise (heap.entries.push entry) heap.size).2⟩)) ∨
    (capacity ≤ heap.size ∧ ∃ worst, heap.entries[0]? = some worst ∧
      (worst.worse? entry = some false ∧ heap.insert entry = (.ok (), heap) ∨
        worst.worse? entry = some true ∧
          ∃ reached, (sink (heap.entries.setIfInBounds 0 entry) 0).1 = .ok reached ∧
            heap.insert entry = (.ok (), heap.replaced entry reached))) := by
  rcases Nat.lt_or_ge heap.size capacity with room | full
  · left
    refine ⟨room, ?_⟩
    simp only [insert, hasRoom_of_limited limited, room, decide_true]
    exact push_eq comparable
  · right
    refine ⟨full, ?_⟩
    have inside : 0 < heap.entries.size := Nat.lt_of_lt_of_le positive full
    have isWorst : heap.entries[0]? = some heap.entries[0] := Array.getElem?_eq_getElem inside
    refine ⟨heap.entries[0], isWorst, ?_⟩
    have compared := comparable heap.entries[0] (by simp) entry (by simp)
    rcases Option.isSome_iff_exists.mp compared with ⟨worse, found⟩
    have noRoom : ¬heap.size < capacity := Nat.not_lt.mpr full
    cases worse with
    | false =>
        left
        refine ⟨found, ?_⟩
        simp only [insert, hasRoom_of_limited limited, noRoom, decide_false, worst?, isWorst, found]
    | true =>
        right
        rcases replaceWorst_eq (comparable.mono mem_push_of_mem_setIfInBounds) with
          ⟨reached, success, replaced⟩
        refine ⟨found, reached, success, ?_⟩
        simp only [insert, hasRoom_of_limited limited, noRoom, decide_false, worst?, isWorst, found]
        exact replaced

/-- The entry with the larger rank is passed over or replaced. -/
theorem insert_cases_of_ranked {rank : HeapEntry → ρ} {heap : BoundedHeap} {entry : HeapEntry}
    {capacity : Nat} (positive : 0 < capacity) (limited : heap.capacity = .ofInt capacity)
    (ranked : RankedBy rank (heap.entries.push entry)) :
    (heap.size < capacity ∧ heap.insert entry =
      (.ok (), ⟨heap.capacity, (rise (heap.entries.push entry) heap.size).2⟩)) ∨
    (capacity ≤ heap.size ∧ ∃ worst, heap.entries[0]? = some worst ∧
      (rank worst ≤ rank entry ∧ heap.insert entry = (.ok (), heap) ∨
        rank entry < rank worst ∧
          ∃ reached, (sink (heap.entries.setIfInBounds 0 entry) 0).1 = .ok reached ∧
            heap.insert entry = (.ok (), heap.replaced entry reached))) := by
  rcases insert_cases positive limited ranked.comparable with
    room | ⟨full, worst, isWorst, outcome⟩
  · exact .inl room
  · right
    refine ⟨full, worst, isWorst, ?_⟩
    have compared := ranked worst (Array.mem_push_of_mem _ (Array.mem_of_getElem? isWorst)) entry
      Array.mem_push_self
    rcases outcome with ⟨notWorse, inserted⟩ | ⟨worse, replaced⟩
    · rw [notWorse, Option.some.injEq, eq_comm, decide_eq_false_iff_not, not_lt] at compared
      exact .inl ⟨compared, inserted⟩
    · rw [worse, Option.some.injEq, eq_comm, decide_eq_true_iff] at compared
      exact .inr ⟨compared, replaced⟩

theorem insert_ok {heap : BoundedHeap} {entry : HeapEntry} {capacity : Nat}
    (positive : 0 < capacity) (limited : heap.capacity = .ofInt capacity)
    (comparable : Comparable (heap.entries.push entry)) :
    ∃ next, heap.insert entry = (.ok (), next) ∧ next.capacity = heap.capacity ∧
      ∀ member ∈ next.entries, member ∈ heap.entries.push entry := by
  rcases insert_cases positive limited comparable with
    ⟨_, inserted⟩ | ⟨_, worst, _, ⟨_, inserted⟩ | ⟨_, reached, _, inserted⟩⟩
  · refine ⟨_, inserted, rfl, ?_⟩
    intro member isMember
    exact (rise_perm ..).mem_iff.mp isMember
  · refine ⟨heap, inserted, rfl, ?_⟩
    intro member isMember
    exact Array.mem_push_of_mem _ isMember
  · refine ⟨_, inserted, rfl, ?_⟩
    intro member isMember
    apply mem_push_of_mem_setIfInBounds
    exact (replaced_perm heap entry reached).mem_iff.mp isMember

theorem Retains.mem_seen {rank : HeapEntry → ρ} {capacity : Nat} {seen : List HeapEntry}
    {heap : BoundedHeap} (retains : Retains rank capacity seen heap) {entry : HeapEntry}
    (isEntry : entry ∈ heap.entries) : entry ∈ seen := by
  rcases retains.best with ⟨dropped, perm, _⟩
  exact perm.mem_iff.mpr (List.mem_append_left _ (Array.mem_toList_iff.mpr isEntry))

theorem toList_setIfInBounds_zero {entries : Array HeapEntry} {worst : HeapEntry}
    (isWorst : entries[0]? = some worst) (entry : HeapEntry) :
    ∃ rest, entries.toList = worst :: rest ∧
      (entries.setIfInBounds 0 entry).toList = entry :: rest := by
  rcases entries with ⟨entries⟩
  cases entries with
  | nil => simp at isWorst
  | cons first rest =>
      simp only [List.getElem?_toArray, List.getElem?_cons_zero, Option.some.injEq] at isWorst
      subst isWorst
      exact ⟨rest, rfl, by simp⟩

section

variable {rank : HeapEntry → ρ} {capacity : Nat} {seen : List HeapEntry} {heap : BoundedHeap}
  {entry worst : HeapEntry}

theorem Retains.push (retains : Retains rank capacity seen heap) (room : heap.size < capacity)
    (ranked : RankedBy rank (heap.entries.push entry)) :
    Retains rank capacity (seen ++ [entry])
      ⟨heap.capacity, (rise (heap.entries.push entry) heap.size).2⟩ := by
  rcases retains.best with ⟨dropped, perm, _⟩
  have filled := retains.filled
  have lengths := perm.length_eq
  have risen := rise_perm (heap.entries.push entry) heap.size
  have grown := risen.size_eq
  simp only [size, List.length_append, Array.length_toList, Array.size_push] at *
  refine ⟨retains.limited, ?_, push_ordered ranked retains.ordered, [], ?_, by simp⟩
  · simp only [size, List.length_append, List.length_singleton]
    omega
  · have none : dropped = [] := List.eq_nil_of_length_eq_zero (by omega)
    have kept := Array.perm_iff_toList_perm.mp risen
    rw [Array.toList_push] at kept
    rw [none, List.append_nil] at perm
    rw [List.append_nil]
    exact (perm.append_right [entry]).trans kept.symm

theorem Retains.pass (retains : Retains rank capacity seen heap) (full : capacity ≤ heap.size)
    (isWorst : heap.entries[0]? = some worst) (notBetter : rank worst ≤ rank entry) :
    Retains rank capacity (seen ++ [entry]) heap := by
  rcases retains.best with ⟨dropped, perm, best⟩
  have filled := retains.filled
  refine ⟨retains.limited, ?_, retains.ordered, entry :: dropped, ?_, ?_⟩
  · simp only [size, List.length_append, List.length_singleton] at full filled ⊢
    omega
  · apply (perm.append_right [entry]).trans
    rw [List.append_assoc]
    exact (List.perm_append_singleton entry dropped).append_left _
  · intro kept isKept other isOther
    rcases List.mem_cons.mp isOther with rfl | old
    · exact le_trans (retains.ordered.le_root isWorst isKept) notBetter
    · exact best kept isKept other old

theorem Retains.replace {reached : Nat} (retains : Retains rank capacity seen heap)
    (full : capacity ≤ heap.size) (isWorst : heap.entries[0]? = some worst)
    (better : rank entry < rank worst)
    (ranked : RankedBy rank (heap.entries.setIfInBounds 0 entry))
    (success : (sink (heap.entries.setIfInBounds 0 entry) 0).1 = .ok reached) :
    Retains rank capacity (seen ++ [entry]) (heap.replaced entry reached) := by
  rcases retains.best with ⟨dropped, perm, best⟩
  rcases toList_setIfInBounds_zero isWorst entry with ⟨rest, before, after⟩
  have filled := retains.filled
  have kept := Array.perm_iff_toList_perm.mp (replaced_perm heap entry reached)
  rw [before] at perm
  rw [after] at kept
  refine ⟨retains.limited, ?_, replaced_ordered ranked retains.ordered success,
    worst :: dropped, ?_, ?_⟩
  · have unchanged := (replaced_perm heap entry reached).size_eq
    simp only [size, List.length_append, List.length_singleton, Array.size_setIfInBounds]
      at full filled unchanged ⊢
    omega
  · have moved :
        (worst :: rest ++ dropped ++ [entry]).Perm (entry :: rest ++ worst :: dropped) := by
      refine (List.perm_append_singleton ..).trans (.cons entry ?_)
      exact List.perm_middle.symm
    exact ((perm.append_right [entry]).trans moved).trans (kept.symm.append_right _)
  · -- The worst entry joins those that were dropped, and the new one is better than it.
    have worstAbove : ∀ other ∈ dropped, rank worst ≤ rank other :=
      best worst (Array.mem_of_getElem? isWorst)
    intro member isMember other isOther
    rcases List.mem_cons.mp (kept.mem_iff.mp (Array.mem_toList_iff.mpr isMember)) with rfl | old
    · rcases List.mem_cons.mp isOther with rfl | wasDropped
      · exact better.le
      · exact le_trans better.le (worstAbove other wasDropped)
    · have wasKept : member ∈ heap.entries := by
        rw [← Array.mem_toList_iff, before]
        exact List.mem_cons_of_mem _ old
      rcases List.mem_cons.mp isOther with rfl | wasDropped
      · exact retains.ordered.le_root isWorst wasKept
      · exact best member wasKept other wasDropped

theorem Retains.rankedBy_push (retains : Retains rank capacity seen heap)
    (ranked : RankedBy rank (seen ++ [entry]).toArray) :
    RankedBy rank (heap.entries.push entry) := by
  apply ranked.mono
  intro member isMember
  rcases Array.mem_push.mp isMember with old | rfl
  · simp [retains.mem_seen old]
  · simp

/-- One insertion keeps the best entries among those seen and the new one. -/
theorem insert_retains (positive : 0 < capacity) (retains : Retains rank capacity seen heap)
    (ranked : RankedBy rank (seen ++ [entry]).toArray) :
    ∃ next, heap.insert entry = (.ok (), next) ∧
      Retains rank capacity (seen ++ [entry]) next := by
  have pushed := retains.rankedBy_push ranked
  rcases insert_cases_of_ranked positive retains.limited pushed with
    ⟨room, inserted⟩ |
      ⟨full, worst, isWorst, ⟨notBetter, inserted⟩ | ⟨better, reached, success, inserted⟩⟩
  · exact ⟨_, inserted, retains.push room pushed⟩
  · exact ⟨heap, inserted, retains.pass full isWorst notBetter⟩
  · have within : RankedBy rank (heap.entries.setIfInBounds 0 entry) :=
      pushed.mono mem_push_of_mem_setIfInBounds
    exact ⟨_, inserted, retains.replace full isWorst better within success⟩

end

/-! ## A run of insertions -/

theorem insertAll_cons {heap next : BoundedHeap} {entry : HeapEntry} (entries : List HeapEntry)
    (inserted : heap.insert entry = (.ok (), next)) :
    heap.insertAll (entry :: entries) = next.insertAll entries := by
  simp only [insertAll, List.foldlM_cons, inserted]
  rfl

/-- After a run of insertions a heap holds the best of all entries that it has seen. -/
theorem insertAll_retains {rank : HeapEntry → ρ} {capacity : Nat} {seen entries : List HeapEntry}
    {heap : BoundedHeap} (positive : 0 < capacity) (retains : Retains rank capacity seen heap)
    (ranked : RankedBy rank (seen ++ entries).toArray) :
    ∃ final, heap.insertAll entries = .ok final ∧
      Retains rank capacity (seen ++ entries) final := by
  induction entries generalizing seen heap with
  | nil => exact ⟨heap, rfl, by simpa using retains⟩
  | cons entry entries ih =>
      rw [List.append_cons] at ranked ⊢
      rcases insert_retains positive retains ranked.of_append with ⟨next, inserted, kept⟩
      rw [insertAll_cons entries inserted]
      exact ih kept ranked

theorem insertAll_ok {heap : BoundedHeap} {entries : List HeapEntry} {capacity : Nat}
    (positive : 0 < capacity) (limited : heap.capacity = .ofInt capacity)
    (comparable : Comparable (heap.entries ++ entries.toArray)) :
    ∃ final, heap.insertAll entries = .ok final ∧
      ∀ member ∈ final.entries, member ∈ heap.entries ++ entries.toArray := by
  induction entries generalizing heap with
  | nil => exact ⟨heap, rfl, by simp⟩
  | cons entry entries ih =>
      have first : Comparable (heap.entries.push entry) := by
        apply comparable.mono
        intro member isMember
        rcases Array.mem_push.mp isMember with old | rfl
        · exact Array.mem_append_left _ old
        · simp
      rcases insert_ok positive limited first with ⟨next, inserted, unchanged, within⟩
      have nextWithin : ∀ member ∈ next.entries ++ entries.toArray,
          member ∈ heap.entries ++ (entry :: entries).toArray := by
        intro member isMember
        rcases Array.mem_append.mp isMember with old | later
        · rcases Array.mem_push.mp (within member old) with older | rfl
          · exact Array.mem_append_left _ older
          · simp
        · rw [List.mem_toArray] at later
          simp [later]
      rcases ih (unchanged.trans limited) (comparable.mono nextWithin) with
        ⟨final, run, finalWithin⟩
      refine ⟨final, by rw [insertAll_cons entries inserted, run], ?_⟩
      intro member isMember
      exact nextWithin member (finalWithin member isMember)

end BoundedHeap

end CurveNeighbors
