import CurveNeighbors.Fault

/-!
# Sorting by an order that may be missing

Items are sorted by values that may not all have an order among themselves, and
in two ways they may lack one. Some values cannot be compared at all. Sorting
needs to compare any two items that end up side by side, and where two values
cannot be compared, some two that end up side by side cannot. So sorting succeeds
exactly when every two items can be compared.

Undefined numbers, on the other hand, can be compared with all others, but none of
the two comes first, and yet they are not the same. Among items in order there is
one stable arrangement, and merging finds it. Otherwise the arrangement is whatever
halving makes of the items: the ascending or falling run that they begin with is
kept or turned round, and each later item goes to the place in front of it at which
a search by halving arrives.
-/

namespace CurveNeighbors

variable {α β : Type}

/-- The place at which a search arrives that begins with `width` places from `low` on. It halves
them each time, and `comesBefore` says of the middle one whether to go on in front of it or
behind. -/
def searchByHalving (comesBefore : Nat → Bool) (low width : Nat) : Nat :=
  if width = 0 then low
  else
    let half := width / 2
    if comesBefore (low + half) then searchByHalving comesBefore low half
    else searchByHalving comesBefore (low + half + 1) (width - half - 1)
termination_by width
decreasing_by all_goals omega

def insertByHalving (less : α → α → Bool) (sorted : List α) (item : α) : List α :=
  let comesBefore place := (sorted[place]?.map (less item)).getD false
  let place := searchByHalving comesBefore 0 sorted.length
  sorted.take place ++ item :: sorted.drop place

/-- Splits items behind the longest run from the first on in which each item and the next are
related. -/
def splitRun (related : α → α → Bool) (first : α) : List α → List α × List α
  | [] => ([first], [])
  | next :: rest =>
      if related first next then
        let (run, remaining) := splitRun related next rest
        (first :: run, remaining)
      else ([first], next :: rest)

/-- Sorts items in ascending order behind the run that they begin with. -/
def sortByHalving (less : α → α → Bool) : List α → List α
  | [] => []
  | first :: rest =>
      let isFalling := (rest.head?.map (less · first)).getD false
      if isFalling then
        let (run, remaining) := splitRun (fun item next => less next item) first rest
        remaining.foldl (insertByHalving less) run.reverse
      else
        let (run, remaining) := splitRun (fun item next => !less next item) first rest
        remaining.foldl (insertByHalving less) run

/-- Sorts items in ascending order and keeps those of which none comes first in their order.
`isOrder` says whether any two items that are not the same have a first one. -/
def sortStably (less : α → α → Bool) (isOrder : Bool) (items : List α) : List α :=
  if isOrder then items.mergeSort fun left right => !less right left
  else sortByHalving less items

/-- Sorts items in ascending order of their values, and keeps items of equal value in their
order. -/
def sortAscending (less? : β → β → Option Bool) (same : β → β → Bool) (value : α → β)
    (items : List α) : Outcome (List α) :=
  if items.Pairwise fun left right => (less? (value left) (value right)).isSome = true then
    let less left right := less? (value left) (value right) == some true
    let isOrder : Bool := items.Pairwise fun left right =>
      (less left right || less right left || same (value left) (value right)) = true
    .ok (sortStably less isOrder items)
  else .error .unordered

theorem insertByHalving_perm (less : α → α → Bool) (sorted : List α) (item : α) :
    (insertByHalving less sorted item).Perm (item :: sorted) := by
  unfold insertByHalving
  refine List.perm_middle.trans (.cons item ?_)
  rw [List.take_append_drop]

theorem foldl_insertByHalving_perm (less : α → α → Bool) (items sorted : List α) :
    (items.foldl (insertByHalving less) sorted).Perm (sorted ++ items) := by
  induction items generalizing sorted with
  | nil => simp
  | cons item items ih =>
      refine (ih _).trans (((insertByHalving_perm less sorted item).append_right items).trans ?_)
      exact List.perm_middle.symm

theorem splitRun_append (related : α → α → Bool) (first : α) (items : List α) :
    (splitRun related first items).1 ++ (splitRun related first items).2 = first :: items := by
  induction items generalizing first with
  | nil => rfl
  | cons next items ih =>
      simp only [splitRun]
      split
      · exact congrArg (first :: ·) (ih next)
      · rfl

theorem sortByHalving_perm (less : α → α → Bool) (items : List α) :
    (sortByHalving less items).Perm items := by
  cases items with
  | nil => exact .refl _
  | cons first rest =>
      simp only [sortByHalving]
      split
      · refine (foldl_insertByHalving_perm ..).trans ?_
        refine ((List.reverse_perm _).append_right _).trans ?_
        rw [splitRun_append]
      · refine (foldl_insertByHalving_perm ..).trans ?_
        rw [splitRun_append]

theorem sortStably_perm (less : α → α → Bool) (isOrder : Bool) (items : List α) :
    (sortStably less isOrder items).Perm items := by
  unfold sortStably
  split
  · exact List.mergeSort_perm _ _
  · exact sortByHalving_perm less items

/-- Sorting only rearranges. -/
theorem sortAscending_perm {less? : β → β → Option Bool} {same : β → β → Bool} {value : α → β}
    {items sorted : List α} (success : sortAscending less? same value items = .ok sorted) :
    sorted.Perm items := by
  unfold sortAscending at success
  split at success
  · cases success
    exact sortStably_perm ..
  · cases success

end CurveNeighbors
