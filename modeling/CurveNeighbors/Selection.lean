/-!
# Selection by rank

Selecting rearranges items so that the one of a given rank stands where sorting
would put it, with the smaller ones in front of it and the others behind. The
arrangement within the two parts is left to the method. It shows where the items are
added up in floating point arithmetic, so the method is fixed here.

A round takes the middle one of three items for a pivot, sifts the others by it and
goes on in the part in which the rank lies, down to three items, which are sorted. If
that takes twice as many rounds as halving would, a heap of the smallest items
finishes instead. `select_perm` says that no item is lost.
-/

namespace CurveNeighbors

namespace Selection

variable {α : Type}

def comesBefore (less : α → α → Bool) (items : Array α) (left right : Nat) : Bool :=
  match items[left]?, items[right]? with
  | some item, some other => less item other
  | _, _ => false

/-! ## Sifting -/

/-- The place of the middle one of the items at three places. -/
def middlePlace (less : α → α → Bool) (items : Array α) (first second third : Nat) : Nat :=
  if comesBefore less items first second then
    if comesBefore less items second third then second
    else if comesBefore less items first third then third
    else first
  else if comesBefore less items first third then first
  else if comesBefore less items second third then third
  else second

/-- Exchanges the first item for the pivot: the middle one of the second, the central and the last
item. -/
def withPivot (less : α → α → Bool) (items : List α) : List α :=
  let items := items.toArray
  let pivot := middlePlace less items 1 (items.size / 2) (items.size - 1)
  (items.swapIfInBounds 0 pivot).toList

/-- Parts items by a pivot. From both ends at once it looks for one that is not smaller and one that
is not larger, exchanges the two and goes on between them. -/
def sift (less : α → α → Bool) (pivot : α) (items : List α) : List α × List α :=
  let front := items.takeWhile (less · pivot)
  match _stuck : items.dropWhile (less · pivot) with
  | [] => (front, [])
  | large :: others =>
      let back := (others.reverse.takeWhile (less pivot ·)).reverse
      match _turned : others.reverse.dropWhile (less pivot ·) with
      | [] => (front, large :: back)
      | small :: between =>
          let (smaller, larger) := sift less pivot between.reverse
          (front ++ small :: smaller, larger ++ large :: back)
termination_by items.length
decreasing_by
  have outer := (List.dropWhile_sublist (l := items) (less · pivot)).length_le
  have inner := (List.dropWhile_sublist (l := others.reverse) (less pivot ·)).length_le
  simp only [_stuck, _turned, List.length_cons, List.length_reverse] at outer inner ⊢
  omega

/-! ## Heaps -/

/-- The place of the larger child of a place in a heap, which is the part of the items in front of
`size`. -/
def largerChild (less : α → α → Bool) (size place : Nat) (items : Array α) : Nat :=
  let left := 2 * place + 1
  if left + 1 < size && !comesBefore less items (left + 1) left then left + 1 else left

theorem lt_largerChild (less : α → α → Bool) (size place : Nat) (items : Array α) :
    place < largerChild less size place items := by
  unfold largerChild
  dsimp only
  split <;> omega

/-- Moves the item at a place of a heap down to a leaf, the larger child taking its place each time.
Gives the place that is reached. -/
def sink (less : α → α → Bool) (size place : Nat) (items : Array α) : Nat × Array α :=
  if 2 * place + 1 < size then
    let child := largerChild less size place items
    sink less size child (items.swapIfInBounds place child)
  else (place, items)
termination_by size - place
decreasing_by
  have below := lt_largerChild less size place items
  omega

/-- Lets an item rise for as long as its parent comes before it, but not above the place `top`. -/
def rise (less : α → α → Bool) (top place : Nat) (items : Array α) : Array α :=
  let parent := (place - 1) / 2
  if top < place && comesBefore less items parent place then
    rise less top parent (items.swapIfInBounds parent place)
  else items
termination_by place
decreasing_by
  simp_all only [Bool.and_eq_true, decide_eq_true_eq]
  omega

/-- Restores a heap whose item at a place may be too small for it. -/
def settle (less : α → α → Bool) (size place : Nat) (items : Array α) : Array α :=
  let (reached, items) := sink less size place items
  rise less place reached items

/-- Arranges the items in front of `size` as a heap, the largest one first. -/
def heapify (less : α → α → Bool) (size : Nat) (items : Array α) : Array α :=
  (List.range (size / 2)).foldr (fun place items => settle less size place items) items

/-- Selects by means of a heap of the `rank + 1` smallest items, whose largest one is then put in
its place. -/
def selectByHeap (less : α → α → Bool) (items : Array α) (rank : Nat) : Array α :=
  let size := rank + 1
  let offer items place :=
    if comesBefore less items place 0 then settle less size 0 (items.swapIfInBounds 0 place)
    else items
  let heap := (List.range' size (items.size - size)).foldl offer (heapify less size items)
  heap.swapIfInBounds 0 rank

/-! ## Selecting -/

/-- Selects in at most the given number of rounds of sifting. -/
def selectIn (less : α → α → Bool) : Nat → List α → Nat → List α
  | rounds, items, rank =>
      if items.length ≤ 3 then items.mergeSort fun left right => !less right left
      else
        match rounds, withPivot less items with
        | 0, _ => (selectByHeap less items.toArray rank).toList
        | _ + 1, [] => items
        | rounds + 1, pivot :: others =>
            let (smaller, larger) := sift less pivot others
            let front := pivot :: smaller
            if front.length ≤ rank then
              front ++ selectIn less rounds larger (rank - front.length)
            else selectIn less rounds front rank ++ larger

/-- Rearranges items so that the one of the given rank stands where sorting would put it, behind all
that come before it. -/
def select (less : α → α → Bool) (items : List α) (rank : Nat) : List α :=
  selectIn less (2 * items.length.log2) items rank

/-! ## Nothing is lost -/

theorem swapIfInBounds_perm (items : Array α) (left right : Nat) :
    (items.swapIfInBounds left right).Perm items := by
  unfold Array.swapIfInBounds
  split
  · split
    · exact Array.swap_perm ..
    · exact .refl _
  · exact .refl _

theorem sink_perm (less : α → α → Bool) (size place : Nat) (items : Array α) :
    (sink less size place items).2.Perm items := by
  fun_induction sink less size place items with
  | case1 place items inside child ih => exact ih.trans (swapIfInBounds_perm ..)
  | case2 => exact .refl _

theorem rise_perm (less : α → α → Bool) (top place : Nat) (items : Array α) :
    (rise less top place items).Perm items := by
  fun_induction rise less top place items with
  | case1 place items parent rises ih => exact ih.trans (swapIfInBounds_perm ..)
  | case2 => exact .refl _

theorem settle_perm (less : α → α → Bool) (size place : Nat) (items : Array α) :
    (settle less size place items).Perm items :=
  (rise_perm ..).trans (sink_perm ..)

theorem heapify_perm (less : α → α → Bool) (size : Nat) (items : Array α) :
    (heapify less size items).Perm items := by
  unfold heapify
  induction List.range (size / 2) with
  | nil => exact .refl _
  | cons place places ih => exact (settle_perm ..).trans ih

theorem selectByHeap_perm (less : α → α → Bool) (items : Array α) (rank : Nat) :
    (selectByHeap less items rank).Perm items := by
  have offered (places : List Nat) (start : Array α) :
      (places.foldl (fun items place => if comesBefore less items place 0 then
        settle less (rank + 1) 0 (items.swapIfInBounds 0 place) else items) start).Perm start := by
    induction places generalizing start with
    | nil => exact .refl _
    | cons place places ih =>
        refine (ih _).trans ?_
        dsimp only
        split
        · exact (settle_perm ..).trans (swapIfInBounds_perm ..)
        · exact .refl _
  exact (swapIfInBounds_perm ..).trans ((offered _ _).trans (heapify_perm ..))

theorem sift_perm (less : α → α → Bool) (pivot : α) (items : List α) :
    ((sift less pivot items).1 ++ (sift less pivot items).2).Perm items := by
  fun_induction sift less pivot items with
  | case1 items front stuck =>
      have whole := List.takeWhile_append_dropWhile (p := (less · pivot)) (l := items)
      rw [stuck] at whole
      exact .of_eq whole
  | case2 items front large others stuck back turned =>
      have whole := List.takeWhile_append_dropWhile (p := (less · pivot)) (l := items)
      have behind := List.takeWhile_append_dropWhile (p := (less pivot ·)) (l := others.reverse)
      rw [turned, List.append_nil] at behind
      rw [stuck] at whole
      simp only [front, back, behind, List.reverse_reverse]
      exact .of_eq whole
  | case3 items front large others stuck back small between turned smaller larger sifted ih =>
      have whole := List.takeWhile_append_dropWhile (p := (less · pivot)) (l := items)
      have behind := List.takeWhile_append_dropWhile (p := (less pivot ·)) (l := others.reverse)
      rw [turned] at behind
      rw [stuck] at whole
      have inner : (smaller ++ larger).Perm between.reverse := by simpa only [sifted] using ih
      have others_eq : others = between.reverse ++ small :: back := by
        have := congrArg List.reverse behind
        simpa [back] using this.symm
      rw [← whole, others_eq]
      have exchanged : (small :: smaller ++ (larger ++ large :: back)).Perm
          (large :: (between.reverse ++ small :: back)) := by
        have kept := ((inner.append_right (large :: back)).cons small)
        rw [List.append_assoc] at kept
        refine kept.trans ?_
        refine (List.perm_middle.cons small).trans ((List.Perm.swap ..).trans ?_)
        exact List.perm_middle.symm.cons large
      simp only [List.append_assoc]
      exact exchanged.append_left front

theorem withPivot_perm (less : α → α → Bool) (items : List α) :
    (withPivot less items).Perm items := by
  have exchanged := swapIfInBounds_perm items.toArray 0
    (middlePlace less items.toArray 1 (items.toArray.size / 2) (items.toArray.size - 1))
  exact Array.perm_iff_toList_perm.mp exchanged

theorem perm_of_sift {less : α → α → Bool} {items others smaller larger : List α} {pivot : α}
    (pivoted : withPivot less items = pivot :: others)
    (sifted : sift less pivot others = (smaller, larger)) :
    (pivot :: smaller ++ larger).Perm items := by
  have parted := sift_perm less pivot others
  rw [sifted] at parted
  have whole := withPivot_perm less items
  rw [pivoted] at whole
  exact (parted.cons pivot).trans whole

theorem selectIn_perm (less : α → α → Bool) (rounds : Nat) (items : List α) (rank : Nat) :
    (selectIn less rounds items rank).Perm items := by
  fun_induction selectIn less rounds items rank with
  | case1 => exact List.mergeSort_perm ..
  | case2 items rank => exact Array.perm_iff_toList_perm.mp (selectByHeap_perm ..)
  | case3 => exact .refl _
  | case4 items rank long rounds pivot others pivoted smaller larger sifted front behind ih =>
      exact (ih.append_left front).trans (perm_of_sift pivoted sifted)
  | case5 items rank long rounds pivot others pivoted smaller larger sifted front before ih =>
      exact (ih.append_right larger).trans (perm_of_sift pivoted sifted)

/-- Selecting only rearranges. -/
theorem select_perm (less : α → α → Bool) (items : List α) (rank : Nat) :
    (select less items rank).Perm items :=
  selectIn_perm ..

end Selection

end CurveNeighbors
