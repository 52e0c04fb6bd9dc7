import CurveNeighbors.Neighbors.BoundedHeap
import CurveNeighbors.Selection
import Mathlib.Logic.Equiv.Basic
import Mathlib.Order.Lattice

/-!
# The order of a bounded heap

In a heap no entry is worse than its parent. While an entry rises, only the edge to its
own parent may be out of order; while it sinks, only the edges to its parent and to its
children may be. Both keep the edges that go past the entry in order, from its parent
to its children, so each exchange moves the disorder one step along its path, and the
path ends.

What is compared is abstracted to a rank. Entries are only assumed to be comparable
where nothing is said about their order: then rising and sinking still succeed and lose
no entry.
-/

namespace CurveNeighbors

namespace BoundedHeap

variable {ρ : Type} [LinearOrder ρ]

/-- Any two of the entries can be compared. -/
def Comparable (entries : Array HeapEntry) : Prop :=
  ∀ entry ∈ entries, ∀ other ∈ entries, (entry.worse? other).isSome = true

/-- Entries are compared by a rank, a larger one being worse. -/
def RankedBy (rank : HeapEntry → ρ) (entries : Array HeapEntry) : Prop :=
  ∀ entry ∈ entries, ∀ other ∈ entries,
    entry.worse? other = some (decide (rank other < rank entry))

/-- The entry at the lower of two positions is not worse than that at the upper one. -/
def NotWorse (rank : HeapEntry → ρ) (entries : Array HeapEntry) (upper lower : Nat) : Prop :=
  ∀ above below, entries[upper]? = some above → entries[lower]? = some below →
    rank below ≤ rank above

/-- No entry is worse than its parent. -/
def Ordered (rank : HeapEntry → ρ) (entries : Array HeapEntry) : Prop :=
  ∀ position, 0 < position → NotWorse rank entries ((position - 1) / 2) position

/-- At most the entry at one position is worse than its parent. -/
structure ReadyToRise (rank : HeapEntry → ρ) (entries : Array HeapEntry) (hole : Nat) : Prop where
  edges : ∀ position, 0 < position → position ≠ hole →
    NotWorse rank entries ((position - 1) / 2) position
  past : ∀ child, 0 < child → (child - 1) / 2 = hole → 0 < hole →
    NotWorse rank entries ((hole - 1) / 2) child

/-- At most the edges at one position are out of order. -/
structure ReadyToSink (rank : HeapEntry → ρ) (entries : Array HeapEntry) (hole : Nat) : Prop where
  edges : ∀ position, 0 < position → position ≠ hole → (position - 1) / 2 ≠ hole →
    NotWorse rank entries ((position - 1) / 2) position
  past : ∀ child, 0 < child → (child - 1) / 2 = hole → 0 < hole →
    NotWorse rank entries ((hole - 1) / 2) child

theorem RankedBy.comparable {rank : HeapEntry → ρ} {entries : Array HeapEntry}
    (ranked : RankedBy rank entries) : Comparable entries := by
  intro entry isEntry other isOther
  simp [ranked entry isEntry other isOther]

theorem Comparable.mono {entries others : Array HeapEntry} (comparable : Comparable entries)
    (within : ∀ entry ∈ others, entry ∈ entries) : Comparable others := by
  intro entry isEntry other isOther
  exact comparable entry (within entry isEntry) other (within other isOther)

theorem Comparable.of_perm {entries others : Array HeapEntry} (comparable : Comparable entries)
    (perm : others.Perm entries) : Comparable others :=
  comparable.mono fun _ isEntry => perm.mem_iff.mp isEntry

theorem RankedBy.mono {rank : HeapEntry → ρ} {entries others : Array HeapEntry}
    (ranked : RankedBy rank entries) (within : ∀ entry ∈ others, entry ∈ entries) :
    RankedBy rank others := by
  intro entry isEntry other isOther
  exact ranked entry (within entry isEntry) other (within other isOther)

theorem RankedBy.of_perm {rank : HeapEntry → ρ} {entries others : Array HeapEntry}
    (ranked : RankedBy rank entries) (perm : others.Perm entries) : RankedBy rank others :=
  ranked.mono fun _ isEntry => perm.mem_iff.mp isEntry

theorem RankedBy.of_append {rank : HeapEntry → ρ} {entries more : List HeapEntry}
    (ranked : RankedBy rank (entries ++ more).toArray) : RankedBy rank entries.toArray := by
  apply ranked.mono
  intro entry isEntry
  rw [List.mem_toArray] at isEntry ⊢
  exact List.mem_append_left _ isEntry

theorem NotWorse.trans {rank : HeapEntry → ρ} {entries : Array HeapEntry}
    {upper middle lower : Nat} (first : NotWorse rank entries upper middle)
    (second : NotWorse rank entries middle lower) (inside : middle < entries.size) :
    NotWorse rank entries upper lower := by
  intro above below isAbove isBelow
  have isMiddle := Array.getElem?_eq_getElem inside
  exact le_trans (second _ _ isMiddle isBelow) (first _ _ isAbove isMiddle)

theorem getElem?_swapIfInBounds {α : Type} {entries : Array α} {first second : Nat}
    (firstInside : first < entries.size) (secondInside : second < entries.size) (place : Nat) :
    (entries.swapIfInBounds first second)[place]? = entries[Equiv.swap first second place]? := by
  simp only [Array.swapIfInBounds, firstInside, secondInside, dite_true, Array.getElem?_swap,
    Equiv.swap_apply_def]
  by_cases isFirst : place = first
  · subst isFirst
    by_cases same : second = place
    · simp [same, firstInside]
    · simp [same, secondInside]
  · by_cases isSecond : place = second
    · subst isSecond
      simp [isFirst, firstInside]
    · simp [isFirst, isSecond, Ne.symm isFirst, Ne.symm isSecond]

theorem notWorse_swapIfInBounds {rank : HeapEntry → ρ} {entries : Array HeapEntry}
    {first second : Nat} (firstInside : first < entries.size)
    (secondInside : second < entries.size) {upper lower : Nat} :
    NotWorse rank (entries.swapIfInBounds first second) upper lower ↔
      NotWorse rank entries (Equiv.swap first second upper) (Equiv.swap first second lower) := by
  simp only [NotWorse, getElem?_swapIfInBounds firstInside secondInside]

/-! ## Rising -/

theorem ReadyToRise.swap {rank : HeapEntry → ρ} {entries : Array HeapEntry} {hole : Nat}
    (ready : ReadyToRise rank entries hole) (positive : 0 < hole) (inside : hole < entries.size)
    (worse : NotWorse rank entries hole ((hole - 1) / 2)) :
    ReadyToRise rank (entries.swapIfInBounds hole ((hole - 1) / 2)) ((hole - 1) / 2) := by
  have parentInside : (hole - 1) / 2 < entries.size := by omega
  constructor
  · intro position positionPositive notParent
    rw [notWorse_swapIfInBounds inside parentInside]
    by_cases isHole : position = hole
    · rw [isHole, Equiv.swap_apply_left, Equiv.swap_apply_right]
      exact worse
    · rw [Equiv.swap_apply_of_ne_of_ne isHole notParent]
      have edge := ready.edges position positionPositive isHole
      by_cases belowHole : (position - 1) / 2 = hole
      · rw [belowHole, Equiv.swap_apply_left]
        exact ready.past position positionPositive belowHole positive
      · by_cases belowParent : (position - 1) / 2 = (hole - 1) / 2
        · rw [belowParent] at edge ⊢
          rw [Equiv.swap_apply_right]
          exact worse.trans edge parentInside
        · rw [Equiv.swap_apply_of_ne_of_ne belowHole belowParent]
          exact edge
  · intro child childPositive isChild parentPositive
    rw [notWorse_swapIfInBounds inside parentInside,
      Equiv.swap_apply_of_ne_of_ne (show ((hole - 1) / 2 - 1) / 2 ≠ hole by omega) (by omega)]
    have above := ready.edges ((hole - 1) / 2) parentPositive (by omega)
    by_cases isHole : child = hole
    · rw [isHole, Equiv.swap_apply_left]
      exact above
    · rw [Equiv.swap_apply_of_ne_of_ne isHole (by omega)]
      have edge := ready.edges child childPositive isHole
      rw [isChild] at edge
      exact above.trans edge parentInside

theorem rise_perm (entries : Array HeapEntry) (position : Nat) :
    (rise entries position).2.Perm entries := by
  fun_induction rise entries position with
  | case1 => exact .refl _
  | case2 => exact .refl _
  | case3 entries position positive parent entry above isAbove isEntry worse ih =>
      exact ih.trans (Selection.swapIfInBounds_perm ..)
  | case4 => exact .refl _
  | case5 => exact .refl _

theorem rise_ok {entries : Array HeapEntry} (comparable : Comparable entries) (position : Nat) :
    (rise entries position).1 = .ok () := by
  fun_induction rise entries position with
  | case1 entries position positive parent entry above isAbove isEntry stuck =>
      have compared := comparable entry (Array.mem_of_getElem? isEntry) above
        (Array.mem_of_getElem? isAbove)
      simp [stuck] at compared
  | case2 => rfl
  | case3 entries position positive parent entry above isAbove isEntry worse ih =>
      exact ih (comparable.of_perm (Selection.swapIfInBounds_perm ..))
  | case4 => rfl
  | case5 => rfl

/-- An entry that may be worse than its parent rises until the heap is in order. -/
theorem rise_ordered {rank : HeapEntry → ρ} {entries : Array HeapEntry} {position : Nat}
    (ranked : RankedBy rank entries) (ready : ReadyToRise rank entries position) :
    Ordered rank (rise entries position).2 := by
  fun_induction rise entries position with
  | case1 entries position positive parent entry above isAbove isEntry stuck =>
      have compared := ranked entry (Array.mem_of_getElem? isEntry) above
        (Array.mem_of_getElem? isAbove)
      simp [stuck] at compared
  | case2 entries position positive parent entry above isAbove isEntry notWorse =>
      have compared := ranked entry (Array.mem_of_getElem? isEntry) above
        (Array.mem_of_getElem? isAbove)
      rw [notWorse, Option.some.injEq, eq_comm, decide_eq_false_iff_not, not_lt] at compared
      intro place positive
      by_cases isHole : place = position
      · subst isHole
        intro upper lower isUpper isLower
        cases isAbove.symm.trans isUpper
        cases isEntry.symm.trans isLower
        exact compared
      · exact ready.edges place positive isHole
  | case3 entries position positive parent entry above isAbove isEntry worse ih =>
      have compared := ranked entry (Array.mem_of_getElem? isEntry) above
        (Array.mem_of_getElem? isAbove)
      rw [worse, Option.some.injEq, eq_comm, decide_eq_true_iff] at compared
      refine ih (ranked.of_perm (Selection.swapIfInBounds_perm ..)) (ready.swap positive ?_ ?_)
      · exact (Array.getElem?_eq_some_iff.mp isEntry).1
      · intro upper lower isUpper isLower
        cases isEntry.symm.trans isUpper
        cases isAbove.symm.trans isLower
        exact compared.le
  | case4 entries position positive parent missing =>
      intro place placePositive
      by_cases isHole : place = position
      · subst isHole
        intro upper lower isUpper isLower
        exact (missing lower upper isLower isUpper).elim
      · exact ready.edges place placePositive isHole
  | case5 entries position atRoot =>
      intro place positive
      exact ready.edges place positive (by omega)

/-! ## Sinking -/

theorem worseChild_bounds {entries : Array HeapEntry} {position child : Nat}
    (inside : 2 * position + 1 < entries.size) (found : worseChild entries position = .ok child) :
    (child - 1) / 2 = position ∧ position < child ∧ child < entries.size := by
  unfold worseChild at found
  dsimp only at found
  split at found
  next left right isLeft isRight =>
    have rightInside := (Array.getElem?_eq_some_iff.mp isRight).1
    split at found <;> cases found <;> omega
  next => cases found; omega

theorem worseChild_ok {entries : Array HeapEntry} (comparable : Comparable entries)
    (position : Nat) : ∃ child, worseChild entries position = .ok child := by
  unfold worseChild
  dsimp only
  split
  next left right isLeft isRight =>
    have compared := comparable left (Array.mem_of_getElem? isLeft) right
      (Array.mem_of_getElem? isRight)
    rcases Option.isSome_iff_exists.mp compared with ⟨worse, found⟩
    rw [found]
    cases worse with
    | true => exact ⟨_, rfl⟩
    | false => exact ⟨_, rfl⟩
  next => exact ⟨_, rfl⟩

/-- No child of a position is worse than the one that is chosen. -/
theorem notWorse_worseChild {rank : HeapEntry → ρ} {entries : Array HeapEntry}
    {position child sibling : Nat} (ranked : RankedBy rank entries)
    (found : worseChild entries position = .ok child) (positive : 0 < sibling)
    (isSibling : (sibling - 1) / 2 = position) : NotWorse rank entries child sibling := by
  have side : sibling = 2 * position + 1 ∨ sibling = 2 * position + 1 + 1 := by omega
  intro above below isAbove isBelow
  unfold worseChild at found
  dsimp only at found
  split at found
  next left right isLeft isRight =>
    have compared := ranked left (Array.mem_of_getElem? isLeft) right
      (Array.mem_of_getElem? isRight)
    rw [compared] at found
    by_cases worse : rank right < rank left
    · simp only [worse, decide_true, Except.ok.injEq] at found
      subst found
      cases isLeft.symm.trans isAbove
      rcases side with rfl | rfl
      · cases isLeft.symm.trans isBelow
        exact le_rfl
      · cases isRight.symm.trans isBelow
        exact worse.le
    · simp only [worse, decide_false, Except.ok.injEq] at found
      subst found
      cases isRight.symm.trans isAbove
      rcases side with rfl | rfl
      · cases isLeft.symm.trans isBelow
        exact not_lt.mp worse
      · cases isRight.symm.trans isBelow
        exact le_rfl
  next lone =>
    cases found
    rcases side with rfl | rfl
    · cases isAbove.symm.trans isBelow
      exact le_rfl
    · exact (lone above below isAbove isBelow).elim

theorem ReadyToSink.swap {rank : HeapEntry → ρ} {entries : Array HeapEntry} {hole child : Nat}
    (ready : ReadyToSink rank entries hole) (isChild : (child - 1) / 2 = hole)
    (below : hole < child) (inside : child < entries.size)
    (worst : ∀ sibling, 0 < sibling → (sibling - 1) / 2 = hole →
      NotWorse rank entries child sibling) :
    ReadyToSink rank (entries.swapIfInBounds child hole) child := by
  have holeInside : hole < entries.size := by omega
  constructor
  · intro position positive notChild notBelow
    rw [notWorse_swapIfInBounds inside holeInside]
    by_cases isHole : position = hole
    · subst isHole
      rw [Equiv.swap_apply_right,
        Equiv.swap_apply_of_ne_of_ne (show (position - 1) / 2 ≠ child by omega) (by omega)]
      exact ready.past child (by omega) isChild positive
    · rw [Equiv.swap_apply_of_ne_of_ne notChild isHole]
      by_cases isSibling : (position - 1) / 2 = hole
      · rw [isSibling, Equiv.swap_apply_right]
        exact worst position positive isSibling
      · rw [Equiv.swap_apply_of_ne_of_ne notBelow isSibling]
        exact ready.edges position positive isHole isSibling
  · intro grandchild positive isGrandchild childPositive
    rw [notWorse_swapIfInBounds inside holeInside, isChild, Equiv.swap_apply_right,
      Equiv.swap_apply_of_ne_of_ne (show grandchild ≠ child by omega) (by omega)]
    have edge := ready.edges grandchild positive (by omega) (by omega)
    rwa [isGrandchild] at edge

theorem sink_perm (entries : Array HeapEntry) (position : Nat) :
    (sink entries position).2.Perm entries := by
  fun_induction sink entries position with
  | case1 => exact .refl _
  | case2 entries position inside child found bounds ih =>
      exact ih.trans (Selection.swapIfInBounds_perm ..)
  | case3 => exact .refl _
  | case4 => exact .refl _

theorem sink_ok {entries : Array HeapEntry} (comparable : Comparable entries) (position : Nat) :
    ∃ reached, (sink entries position).1 = .ok reached := by
  fun_induction sink entries position with
  | case1 entries position inside fault stuck =>
      rcases worseChild_ok comparable position with ⟨child, found⟩
      simp [stuck] at found
  | case2 entries position inside child found bounds ih =>
      exact ih (comparable.of_perm (Selection.swapIfInBounds_perm ..))
  | case3 entries position inside child found unbounded => exact ⟨position, rfl⟩
  | case4 entries position leaf => exact ⟨position, rfl⟩

/-- An entry whose edges may be out of order sinks until only the edge to its parent may be. -/
theorem sink_ready {rank : HeapEntry → ρ} {entries : Array HeapEntry} {position reached : Nat}
    (ranked : RankedBy rank entries) (ready : ReadyToSink rank entries position)
    (success : (sink entries position).1 = .ok reached) :
    ReadyToRise rank (sink entries position).2 reached := by
  fun_induction sink entries position with
  | case1 => cases success
  | case2 entries position inside child found bounds ih =>
      rcases worseChild_bounds inside found with ⟨isChild, below, childInside⟩
      refine ih (ranked.of_perm (Selection.swapIfInBounds_perm ..)) ?_ success
      apply ready.swap isChild below childInside
      intro sibling positive isSibling
      exact notWorse_worseChild ranked found positive isSibling
  | case3 entries position inside child found unbounded =>
      exact absurd (worseChild_bounds inside found).2 unbounded
  | case4 entries position leaf =>
      rw [← Except.ok.inj success]
      refine ⟨?_, ready.past⟩
      intro place positive notHole
      by_cases isChild : (place - 1) / 2 = position
      · intro above below isAbove isBelow
        have childInside : place < entries.size := (Array.getElem?_eq_some_iff.mp isBelow).1
        omega
      · exact ready.edges place positive notHole isChild

/-- The entry at the root is the worst of all. -/
theorem Ordered.notWorse_root {rank : HeapEntry → ρ} {entries : Array HeapEntry}
    (ordered : Ordered rank entries) (position : Nat) (inside : position < entries.size) :
    NotWorse rank entries 0 position := by
  induction position using Nat.strongRecOn with
  | ind position ih =>
      rcases Nat.eq_zero_or_pos position with rfl | positive
      · intro above below isAbove isBelow
        cases isAbove.symm.trans isBelow
        exact le_rfl
      · have parentInside : (position - 1) / 2 < entries.size := by omega
        exact (ih _ (by omega) parentInside).trans (ordered position positive) parentInside

theorem Ordered.le_root {rank : HeapEntry → ρ} {entries : Array HeapEntry}
    (ordered : Ordered rank entries) {root entry : HeapEntry} (isRoot : entries[0]? = some root)
    (isEntry : entry ∈ entries) : rank entry ≤ rank root := by
  rcases Array.getElem?_of_mem isEntry with ⟨position, found⟩
  have inside := (Array.getElem?_eq_some_iff.mp found).1
  exact ordered.notWorse_root position inside root entry isRoot found

end BoundedHeap

end CurveNeighbors
