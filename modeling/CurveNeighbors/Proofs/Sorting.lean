import CurveNeighbors.Sorting
import Mathlib.Data.List.Basic

/-!
# Sorting what goes with the values

Items are sorted by their values alone. If something else in them is replaced and the
values stay, they come out in the same order with the replacements in them, whether all of
them can be put in order or not.
-/

namespace CurveNeighbors

variable {α β γ : Type} {f : α → γ} {less : α → α → Bool} {otherLess : γ → γ → Bool}

section

variable (same : ∀ left right, otherLess (f left) (f right) = less left right)

include same

theorem insertByHalving_map (sorted : List α) (item : α) :
    insertByHalving otherLess (sorted.map f) (f item) =
      (insertByHalving less sorted item).map f := by
  have comesBefore :
      (fun place : Nat => ((sorted.map f)[place]?.map (otherLess (f item))).getD false) =
        fun place : Nat => (sorted[place]?.map (less item)).getD false := by
    funext place
    rw [List.getElem?_map]
    cases sorted[place]? with
    | none => rfl
    | some other => exact same item other
  simp only [insertByHalving, comesBefore, List.length_map, List.map_append, List.map_cons,
    List.map_take, List.map_drop]

theorem foldl_insertByHalving_map (items sorted : List α) :
    (items.map f).foldl (insertByHalving otherLess) (sorted.map f) =
      (items.foldl (insertByHalving less) sorted).map f := by
  induction items generalizing sorted with
  | nil => rfl
  | cons item items ih =>
      rw [List.map_cons, List.foldl_cons, List.foldl_cons, insertByHalving_map same, ih]

omit same in
theorem splitRun_map (related : α → α → Bool) (otherRelated : γ → γ → Bool)
    (same : ∀ left right, otherRelated (f left) (f right) = related left right) (first : α)
    (items : List α) :
    splitRun otherRelated (f first) (items.map f) =
      ((splitRun related first items).1.map f, (splitRun related first items).2.map f) := by
  induction items generalizing first with
  | nil => rfl
  | cons next items ih =>
      rw [List.map_cons, splitRun, splitRun, same, ih]
      split <;> rfl

theorem sortByHalving_map (items : List α) :
    sortByHalving otherLess (items.map f) = (sortByHalving less items).map f := by
  cases items with
  | nil => rfl
  | cons first rest =>
      have isFalling : ((rest.map f).head?.map (otherLess · (f first))).getD false =
          (rest.head?.map (less · first)).getD false := by
        rw [List.head?_map]
        cases rest.head? with
        | none => rfl
        | some next => exact same next first
      have falling := splitRun_map (fun item next => less next item)
        (fun item next => otherLess next item) (fun left right => same right left) first rest
      have rising := splitRun_map (fun item next => !less next item)
        (fun item next => !otherLess next item)
        (fun left right => congrArg not (same right left)) first rest
      simp only [List.map_cons, sortByHalving, isFalling, falling, rising]
      split
      · rw [← List.map_reverse, foldl_insertByHalving_map same]
      · rw [foldl_insertByHalving_map same]

theorem sortStably_map (isOrder : Bool) (items : List α) :
    sortStably otherLess isOrder (items.map f) = (sortStably less isOrder items).map f := by
  rw [sortStably, sortStably]
  split
  · rw [List.map_mergeSort]
    intro left _ right _
    rw [same]
  · exact sortByHalving_map same items

end

/-- Items that keep their values keep their order. -/
theorem sortAscending_map {less? : β → β → Option Bool} {equal : β → β → Bool} {value : γ → β}
    (f : α → γ) (items : List α) :
    sortAscending less? equal value (items.map f) =
      (sortAscending less? equal (fun item => value (f item)) items).map (List.map f) := by
  simp only [sortAscending, List.pairwise_map]
  split
  · exact congrArg Except.ok (sortStably_map (fun _ _ => rfl) _ items)
  · rfl

end CurveNeighbors
