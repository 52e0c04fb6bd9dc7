import CurveNeighbors.Proofs.Counting
import CurveNeighbors.Proofs.Renaming.Building
import Mathlib.Data.List.Pairwise

/-!
# Curves over points in another order

A curve is sorted by values, and only where two of them tie does it matter in which row a
point is stored. If of any two values exactly one comes first, there is only one ascending
arrangement, and the same points in another order are put into it as well.
-/

namespace CurveNeighbors

/-! ## Values without ties -/

theorem countP_lt_of_mem {α : Type} {items : List α} {p q : α → Bool} {item : α}
    (implied : ∀ other ∈ items, p other = true → q other = true) (isItem : item ∈ items)
    (fails : p item = false) (holds : q item = true) : items.countP p < items.countP q := by
  rcases List.append_of_mem isItem with ⟨before, after, rfl⟩
  have earlier := List.countP_mono_left fun other isOther =>
    implied other (List.mem_append_left _ isOther)
  have later := List.countP_mono_left fun other isOther =>
    implied other (List.mem_append_right _ (List.mem_cons_of_mem _ isOther))
  simp only [List.countP_append, List.countP_cons, fails, holds]
  simp only [Bool.false_eq_true, if_false, if_true]
  omega

namespace Value

/-- One of two values comes before the other, and the other does not come before it. -/
def Apart (left right : Value) : Prop :=
  (left.less? right = some true ∧ right.less? left = some false) ∨
    (right.less? left = some true ∧ left.less? right = some false)

/-- Values in a strict total order: it is transitive, no value comes before itself, and of any two
exactly one comes before the other. -/
structure TotallyOrdered (values : List Value) : Prop where
  irreflexive : ∀ value ∈ values, value.less? value ≠ some true
  transitive : ∀ first ∈ values, ∀ second ∈ values, ∀ third ∈ values,
    first.less? second = some true → second.less? third = some true →
      first.less? third = some true
  apart : values.Pairwise Apart

/-- The number of values that come before a value. -/
def countBelow (values : List Value) (value : Value) : Nat :=
  values.countP fun other => other.less? value == some true

theorem countBelow_lt {values : List Value} {left right : Value} (isLeft : left ∈ values)
    (irreflexive : left.less? left ≠ some true)
    (below : ∀ other ∈ values, other.less? left = some true → other.less? right = some true)
    (before : left.less? right = some true) :
    countBelow values left < countBelow values right := by
  apply countP_lt_of_mem _ isLeft
  · simpa using irreflexive
  · simpa using before
  · simpa using below

variable {α : Type} {value : α → Value} {items others : List α} {left right : α}

theorem TotallyOrdered.of_perm (ordered : TotallyOrdered (items.map value))
    (perm : others.Perm items) : TotallyOrdered (others.map value) := by
  have mem_iff : ∀ found, found ∈ others.map value ↔ found ∈ items.map value := fun found =>
    (perm.map value).mem_iff
  refine ⟨?_, ?_, ((perm.map value).pairwise_iff Or.symm).mpr ordered.apart⟩
  · simpa only [mem_iff] using ordered.irreflexive
  · simpa only [mem_iff] using ordered.transitive

theorem TotallyOrdered.countBelow_lt (ordered : TotallyOrdered (items.map value))
    (isLeft : left ∈ items) (isRight : right ∈ items)
    (before : (value left).less? (value right) = some true) :
    countBelow (items.map value) (value left) < countBelow (items.map value) (value right) := by
  have leftValue := List.mem_map_of_mem (f := value) isLeft
  have rightValue := List.mem_map_of_mem (f := value) isRight
  apply Value.countBelow_lt leftValue (ordered.irreflexive _ leftValue) _ before
  intro other isOther below
  exact ordered.transitive _ isOther _ leftValue _ rightValue below before

theorem TotallyOrdered.apart_of_ne (ordered : TotallyOrdered (items.map value))
    (isLeft : left ∈ items) (isRight : right ∈ items) (different : left ≠ right) :
    (value left).Apart (value right) := by
  have : Std.Symm fun left right : α => (value left).Apart (value right) := ⟨fun _ _ => Or.symm⟩
  exact (List.pairwise_map.mp ordered.apart).forall isLeft isRight different

theorem TotallyOrdered.eq_of_countBelow (ordered : TotallyOrdered (items.map value))
    (isLeft : left ∈ items) (isRight : right ∈ items)
    (equal : countBelow (items.map value) (value left) =
      countBelow (items.map value) (value right)) : left = right := by
  by_contra different
  rcases ordered.apart_of_ne isLeft isRight different with ⟨before, _⟩ | ⟨after, _⟩
  · exact absurd equal (ordered.countBelow_lt isLeft isRight before).ne
  · exact absurd equal (ordered.countBelow_lt isRight isLeft after).ne'

theorem TotallyOrdered.less_eq (ordered : TotallyOrdered (items.map value))
    (isLeft : left ∈ items) (isRight : right ∈ items) :
    ((value left).less? (value right) == some true) =
      decide (countBelow (items.map value) (value left) <
        countBelow (items.map value) (value right)) := by
  rw [Bool.eq_iff_iff, beq_iff_eq, decide_eq_true_iff]
  refine ⟨ordered.countBelow_lt isLeft isRight, ?_⟩
  intro fewer
  by_contra notBefore
  have different : left ≠ right := by
    rintro rfl
    exact absurd fewer (lt_irrefl _)
  rcases ordered.apart_of_ne isLeft isRight different with ⟨before, _⟩ | ⟨after, _⟩
  · exact notBefore before
  · exact absurd fewer (ordered.countBelow_lt isRight isLeft after).not_gt

/-- Items whose values are totally ordered can be sorted. -/
theorem TotallyOrdered.exists_sorted (ordered : TotallyOrdered (items.map value)) :
    ∃ sorted, sortAscending less? same value items = .ok sorted ∧
      sorted.Pairwise fun left right => countBelow (items.map value) (value left) ≤
        countBelow (items.map value) (value right) := by
  have apart := List.pairwise_map.mp ordered.apart
  have comparable : items.Pairwise fun left right =>
      ((value left).less? (value right)).isSome = true := by
    apply apart.imp
    rintro left right (⟨before, _⟩ | ⟨_, notBefore⟩) <;> simp [*]
  have isOrder : items.Pairwise fun left right =>
      ((value left).less? (value right) == some true ||
        (value right).less? (value left) == some true ||
          (value left).same (value right)) = true := by
    apply apart.imp
    rintro left right (⟨before, _⟩ | ⟨after, _⟩) <;> simp [*]
  rw [sortAscending, if_pos comparable]
  refine ⟨_, rfl, ?_⟩
  rw [sortStably, if_pos (decide_eq_true isOrder)]
  exact pairwise_mergeSort_of_rank (fun item => countBelow (items.map value) (value item))
    fun _ isLeft _ isRight => ordered.less_eq isLeft isRight

/-- Totally ordered items have one ascending arrangement. -/
theorem TotallyOrdered.sortAscending_of_perm (ordered : TotallyOrdered (items.map value))
    (perm : others.Perm items) :
    sortAscending less? same value others = sortAscending less? same value items := by
  rcases ordered.exists_sorted with ⟨sorted, success, ascending⟩
  rcases (ordered.of_perm perm).exists_sorted with ⟨moved, alsoSuccess, alsoAscending⟩
  have counted : countBelow (others.map value) = countBelow (items.map value) := by
    funext other
    exact (perm.map value).countP_eq _
  rw [counted] at alsoAscending
  have sortedPerm := sortAscending_perm success
  have movedPerm := (sortAscending_perm alsoSuccess).trans perm
  rw [success, alsoSuccess]
  refine congrArg Except.ok (List.Perm.eq_of_pairwise ?_ alsoAscending ascending
    (movedPerm.trans sortedPerm.symm))
  intro left right isLeft isRight notAfter notBefore
  exact ordered.eq_of_countBelow (movedPerm.mem_iff.mp isLeft) (sortedPerm.mem_iff.mp isRight)
    (le_antisymm notAfter notBefore)

end Value

/-! ## Points in another order -/

theorem Outcome.mapM_zip {α β γ : Type} {f : β → Outcome γ} {others : List β} {results : List γ}
    (success : others.mapM f = .ok results) (items : List α) :
    (items.zip others).mapM (fun entry => (f entry.2).map (Prod.mk entry.1)) =
      .ok (items.zip results) := by
  have each := forall₂_of_mapM success
  clear success
  induction each generalizing items with
  | nil => simp only [List.zip_nil_right]; rfl
  | cons found _ ih =>
      cases items with
      | nil => rfl
      | cons item items =>
          rw [List.zip_cons_cons, mapM_cons, ih items, found]
          rfl

namespace Dataset

variable {dataset other : Dataset}

/-- Two datasets hold the same points under the same keys, each in an order of its own. -/
def RearrangedTo (dataset other : Dataset) : Prop :=
  other.items.Perm dataset.items

theorem map_fst_items (dataset : Dataset) : dataset.items.map Prod.fst = dataset.keys.keys :=
  List.map_fst_zip (Nat.le_of_eq dataset.aligned.symm)

theorem map_snd_items (dataset : Dataset) : dataset.items.map Prod.snd = dataset.points :=
  List.map_snd_zip (Nat.le_of_eq dataset.aligned)

namespace RearrangedTo

theorem keys_perm (rearranged : dataset.RearrangedTo other) :
    other.keys.keys.Perm dataset.keys.keys := by
  rw [← other.map_fst_items, ← dataset.map_fst_items]
  exact rearranged.map Prod.fst

theorem points_perm (rearranged : dataset.RearrangedTo other) :
    other.points.Perm dataset.points := by
  rw [← other.map_snd_items, ← dataset.map_snd_items]
  exact rearranged.map Prod.snd

theorem size_eq (rearranged : dataset.RearrangedTo other) : other.size = dataset.size :=
  rearranged.keys_perm.length_eq

theorem contains_eq (rearranged : dataset.RearrangedTo other) (key : Key) :
    other.contains key = dataset.contains key :=
  rearranged.keys_perm.any_eq

theorem checkCovers_eq (rearranged : dataset.RearrangedTo other) (set : CurveSet) :
    set.checkCovers other.keys = set.checkCovers dataset.keys := by
  have covers (order : KeySequence) : order.covers other.keys = order.covers dataset.keys := by
    have size : other.keys.size = dataset.keys.size := rearranged.size_eq
    rw [KeySequence.covers, KeySequence.covers, size, rearranged.keys_perm.all_eq]
  simp only [CurveSet.checkCovers, covers]

/-- The points keep their values and their keys. -/
theorem exists_values (rearranged : dataset.RearrangedTo other) {f : Point → Outcome Value}
    {values : List Value} (success : dataset.points.mapM f = .ok values) :
    ∃ moved, other.points.mapM f = .ok moved ∧
      (other.keys.keys.zip moved).Perm (dataset.keys.keys.zip values) := by
  rcases Outcome.exists_mapM_of_perm rearranged.points_perm success with ⟨moved, alsoSuccess, _⟩
  rcases Outcome.exists_mapM_of_perm rearranged (Outcome.mapM_zip success _) with
    ⟨entries, areEntries, perm⟩
  cases areEntries.symm.trans (Outcome.mapM_zip alsoSuccess _)
  exact ⟨moved, alsoSuccess, perm⟩

end RearrangedTo

end Dataset

/-! ## Curves -/

/-- A curve key that depends on the point alone and gives the points values without ties. -/
structure CurveKey.Separates (curveKey : CurveKey) (points : List Point) : Prop where
  pure : ∀ calls point, curveKey calls point = curveKey 0 point
  ordered : ∃ values, points.mapM (curveKey 0) = .ok values ∧ Value.TotallyOrdered values

namespace CurveOrder

variable {dataset other : Dataset} {curveKey : CurveKey}

theorem outcome_mapM_callKey (pure : ∀ calls point, curveKey calls point = curveKey 0 point)
    (points : List Point) :
    (points.mapM (callKey curveKey)).outcome = points.mapM (curveKey 0) := by
  apply Counting.outcome_mapM
  intro point _ calls
  exact congrArg (·, calls + 1) (pure calls point)

/-- A curve visits the same keys in the same order, whichever order they are stored in. -/
theorem exists_build (rearranged : dataset.RearrangedTo other) (nonempty : dataset.size ≠ 0)
    (separates : curveKey.Separates dataset.points) :
    ∃ order, ∀ name, (build dataset curveKey name).outcome = .ok ⟨name, order⟩ ∧
      (build other curveKey name).outcome = .ok ⟨name, order⟩ := by
  rcases separates with ⟨pure, values, success, ordered⟩
  rcases rearranged.exists_values success with ⟨moved, alsoSuccess, perm⟩
  have aligned : dataset.keys.keys.length = values.length :=
    dataset.aligned.symm.trans (Outcome.forall₂_of_mapM success).length_eq
  rw [← List.map_snd_zip (Nat.le_of_eq aligned.symm)] at ordered
  rcases ordered.exists_sorted with ⟨sorted, isSorted, _⟩
  have isMoved := (ordered.sortAscending_of_perm perm).trans isSorted
  refine ⟨⟨sorted.map Prod.fst, pairwise_of_sorted isSorted⟩, ?_⟩
  intro name
  rw [build_outcome, build_outcome, if_neg nonempty, if_neg (rearranged.size_eq.trans_ne nonempty),
    outcome_mapM_callKey pure, outcome_mapM_callKey pure, success, alsoSuccess, Outcome.ok_bind,
    Outcome.ok_bind, isSorted, isMoved, Outcome.ok_bind, ofValues_sorted isSorted]
  exact ⟨rfl, rfl⟩

end CurveOrder

/-! ## Indexes -/

theorem CurveSet.eq_of_ofCurves {curves : List CurveOrder} {scaleFactors : List ScaleFactor}
    {sampleScale : ScaleFactor} {scaled : scaleFactors.length = curves.length} {set : CurveSet}
    (success : ofCurves curves scaleFactors sampleScale scaled = .ok set) :
    set.curves = curves ∧ set.scaleFactors = scaleFactors := by
  unfold ofCurves at success
  split at success
  · cases success
    exact ⟨rfl, rfl⟩
  · split at success
    · cases success
      exact ⟨rfl, rfl⟩
    · cases success

namespace Index

variable {dataset other : Dataset} {index : Index} {curveKeys : List CurveKey}
  {names scaleFactors sampleScale workers : Value} {distance : Distance}
  {arrangement otherArrangement : Arrangement}

theorem eq_of_ofCurves {set : CurveSet}
    (success : ofCurves dataset set distance arrangement = .ok index) :
    index.dataset = dataset ∧ index.curves = set ∧ index.distance = distance := by
  unfold ofCurves at success
  split at success
  · split at success
    · cases success
      exact ⟨rfl, rfl, rfl⟩
    · cases success
  · cases success

/-- What an index was built from. -/
structure BuiltFrom (index : Index) (dataset : Dataset) (curveKeys : List CurveKey)
    (scaleFactors : Value) (distance : Distance) : Prop where
  points : index.dataset = dataset
  measure : index.distance = distance
  curves : List.Forall₂ (fun curveKey order => ∃ name,
    (CurveOrder.build dataset curveKey name).outcome = .ok order) curveKeys index.curves.curves
  factors : ∃ given read, ScaleFactor.given scaleFactors curveKeys.length = .ok given ∧
    ScaleFactor.readAll given.val = .ok read ∧ index.curves.scaleFactors = read.val

theorem builtFrom_of_build
    (built : build dataset curveKeys names scaleFactors sampleScale workers distance arrangement =
      .ok index) :
    index.BuiltFrom dataset curveKeys scaleFactors distance := by
  rw [build] at built
  rcases Outcome.bind_eq_ok.mp built with ⟨names, _, built⟩
  rcases Outcome.bind_eq_ok.mp built with ⟨_, _, built⟩
  rcases Outcome.bind_eq_ok.mp built with ⟨curves, areCurves, built⟩
  rcases Outcome.bind_eq_ok.mp built with ⟨set, isSet, built⟩
  rcases Outcome.bind_eq_ok.mp built with ⟨index, isIndex, built⟩
  rcases Outcome.bind_eq_ok.mp built with ⟨_, _, built⟩
  cases built
  have each : List.Forall₂ (fun curveKey order => ∃ name,
      (CurveOrder.build dataset curveKey name).outcome = .ok order) curveKeys curves := by
    rw [← List.zipIdx_map_fst 0 curveKeys, List.forall₂_map_left_iff]
    apply (Outcome.forall₂_of_mapM areCurves).imp
    intro entry order isOrder
    rcases Outcome.bind_eq_ok.mp isOrder with ⟨name, _, isOrder⟩
    exact ⟨name, isOrder⟩
  rw [CurveSet.build_eq curves scaleFactors sampleScale each.length_eq] at isSet
  rcases Outcome.bind_eq_ok.mp isSet with ⟨given, isGiven, isSet⟩
  rcases Outcome.bind_eq_ok.mp isSet with ⟨read, isRead, isSet⟩
  rcases Outcome.bind_eq_ok.mp isSet with ⟨_, _, isSet⟩
  rcases CurveSet.eq_of_ofCurves isSet with ⟨rfl, sameFactors⟩
  rcases eq_of_ofCurves isIndex with ⟨samePoints, rfl, sameDistance⟩
  exact ⟨samePoints, sameDistance, each, given, read, isGiven, isRead, sameFactors⟩

/-- Where all curve keys separate the points, an index can be built of these in any order. -/
theorem exists_build_rearranged (rearranged : dataset.RearrangedTo other)
    (separates : ∀ curveKey ∈ curveKeys, curveKey.Separates dataset.points)
    (built : build dataset curveKeys names scaleFactors sampleScale workers distance arrangement =
      .ok index) :
    ∃ otherIndex, build other curveKeys names scaleFactors sampleScale workers distance
      otherArrangement = .ok otherIndex := by
  rw [build] at built ⊢
  rcases Outcome.bind_eq_ok.mp built with ⟨read, areNames, built⟩
  rcases Outcome.bind_eq_ok.mp built with ⟨_, areWorkers, built⟩
  rcases Outcome.bind_eq_ok.mp built with ⟨curves, areCurves, built⟩
  rcases Outcome.bind_eq_ok.mp built with ⟨set, isSet, built⟩
  rcases Outcome.bind_eq_ok.mp built with ⟨index, isIndex, built⟩
  rcases Outcome.bind_eq_ok.mp built with ⟨timed, areTimed, _⟩
  rcases eq_of_ofCurves isIndex with ⟨rfl, rfl, rfl⟩
  have otherCurves : (curveKeys.zipIdx.mapM fun entry => do
      let name ← read.itemAt entry.2
      (CurveOrder.build other entry.1 name).outcome) = .ok curves := by
    rcases Outcome.mapM_eq_ok_iff.mp areCurves with ⟨length, each⟩
    refine Outcome.mapM_eq_ok_iff.mpr ⟨length, ?_⟩
    intro place entry isEntry
    rcases each place entry isEntry with ⟨order, isOrder, success⟩
    refine ⟨order, isOrder, ?_⟩
    rcases Outcome.bind_eq_ok.mp success with ⟨name, isName, success⟩
    have isKey := List.fst_mem_of_mem_zipIdx (List.mem_of_getElem? isEntry)
    rcases CurveOrder.exists_build rearranged index.nonempty (separates _ isKey) with
      ⟨common, builds⟩
    rw [isName, Outcome.ok_bind, (builds name).2, ← (builds name).1, success]
  have otherNonempty := rearranged.size_eq.trans_ne index.nonempty
  have otherCovered := (rearranged.checkCovers_eq index.curves).trans index.covered
  refine ⟨⟨other, index.curves, index.distance, otherArrangement, otherNonempty, otherCovered⟩, ?_⟩
  rw [areNames, Outcome.ok_bind, areWorkers, Outcome.ok_bind, otherCurves, Outcome.ok_bind, isSet,
    Outcome.ok_bind, ofCurves_eq_ok index.distance otherArrangement otherNonempty otherCovered,
    Outcome.ok_bind]
  replace areTimed : timedCurves ⟨other, index.curves, index.distance, otherArrangement,
    otherNonempty, otherCovered⟩ = .ok timed := areTimed
  rw [areTimed]
  rfl

/-- Two indexes hold the same points, each in an order of its own, and the same curves as far as a
mask selects them. -/
structure RearrangedOn (mask : CurveMask) (index other : Index) : Prop where
  points : index.dataset.RearrangedTo other.dataset
  measure : other.distance = index.distance
  size : other.curves.size = index.curves.size
  factors : other.curves.scaleFactors = index.curves.scaleFactors
  orders : ∀ (curve : Nat) order, mask.selects curve = true →
    index.curves.curves[curve]? = some order →
      ∃ visited, other.curves.curves[curve]? = some visited ∧ visited.order = order.order

/-- Indexes are built alike from the same points in different orders, where curve keys separate
these. -/
theorem rearrangedOn_of_builtFrom {otherIndex : Index} {mask : CurveMask}
    (rearranged : dataset.RearrangedTo other)
    (built : index.BuiltFrom dataset curveKeys scaleFactors distance)
    (otherBuilt : otherIndex.BuiltFrom other curveKeys scaleFactors distance)
    (separates : ∀ (curve : Nat) curveKey, mask.selects curve = true →
      curveKeys[curve]? = some curveKey → curveKey.Separates dataset.points) :
    RearrangedOn mask index otherIndex where
  points := by rwa [built.points, otherBuilt.points]
  measure := otherBuilt.measure.trans built.measure.symm
  size := otherBuilt.curves.length_eq.symm.trans built.curves.length_eq
  factors := by
    rcases built.factors with ⟨given, read, isGiven, isRead, same⟩
    rcases otherBuilt.factors with ⟨otherGiven, otherRead, isOtherGiven, isOtherRead, otherSame⟩
    cases isGiven.symm.trans isOtherGiven
    cases isRead.symm.trans isOtherRead
    exact otherSame.trans same.symm
  orders := by
    intro curve order selected isCurve
    rcases exists_getElem?_of_forall₂ built.curves.flip isCurve with
      ⟨curveKey, isKey, name, isOrder⟩
    rcases exists_getElem?_of_forall₂ otherBuilt.curves isKey with
      ⟨visited, isVisited, otherName, isOtherOrder⟩
    have nonempty : dataset.size ≠ 0 := built.points ▸ index.nonempty
    have apart := separates curve curveKey selected isKey
    rcases CurveOrder.exists_build rearranged nonempty apart with ⟨common, builds⟩
    cases isOrder.symm.trans (builds name).1
    cases isOtherOrder.symm.trans (builds otherName).2
    exact ⟨_, isVisited, rfl⟩

end Index

end CurveNeighbors
