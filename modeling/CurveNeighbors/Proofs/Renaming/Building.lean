import CurveNeighbors.Index.Build
import CurveNeighbors.Proofs.Renaming.Queries
import CurveNeighbors.Proofs.Sorting
import Mathlib.Data.List.Forall2

/-!
# Building under new names

A curve is sorted by the values of points, and what a set of curves and an index check is
whether the same keys are everywhere. So whatever is built of points under their keys is
built of them under new names as well, with the new names in the places of the old ones,
and where building fails it fails in the same way.
-/

namespace CurveNeighbors

theorem map_fst_zip_sublist {α β : Type} (items : List α) (others : List β) :
    ((items.zip others).map Prod.fst).Sublist items := by
  induction items generalizing others with
  | nil => exact .slnil
  | cons item items ih =>
      cases others with
      | nil => exact List.nil_sublist _
      | cons other others => exact (ih others).cons_cons item

theorem Outcome.Corresponds.mapM {α β γ : Type} {related : β → γ → Prop} {f : α → Outcome β}
    {g : α → Outcome γ} {items : List α}
    (each : ∀ item ∈ items, Outcome.Corresponds related (f item) (g item)) :
    Outcome.Corresponds (List.Forall₂ related) (items.mapM f) (items.mapM g) := by
  induction items with
  | nil => exact List.Forall₂.nil
  | cons item items ih =>
      rcases List.forall_mem_cons.mp each with ⟨first, each⟩
      rw [Outcome.mapM_cons, Outcome.mapM_cons]
      apply first.bind
      intro result other isFirst
      apply (ih each).bind
      intro results others isRest
      exact List.Forall₂.cons isFirst isRest

/-! ## Curves -/

namespace CurveOrder

theorem ofValues_keys {keys : List Key}
    (different : keys.Pairwise fun earlier later => (earlier == later) = false) (name : Value) :
    ofValues (keys.map fun key => key.value) name = .ok ⟨name, keys, different⟩ := by
  have items : (keys.map fun key => key.value).map Except.ok =
      keys.map fun key => (.ok key.value : Outcome Value) :=
    List.map_map
  rw [ofValues, items, KeySequence.read_eq_ok _ ⟨keys, different⟩]
  rfl

theorem build_outcome (dataset : Dataset) (curveKey : CurveKey) (name : Value) :
    (build dataset curveKey name).outcome =
      if dataset.size = 0 then .error .curveOverEmptyDataset
      else (dataset.points.mapM (callKey curveKey)).outcome >>= fun values =>
        sortAscending Value.less? Value.same Prod.snd (dataset.keys.keys.zip values) >>=
          fun sorted => ofValues (sorted.map fun entry => entry.1.value) name := by
  rw [build]
  split
  · rfl
  · apply Counting.bind_outcome
    intro values left
    rw [Counting.pure_bind]
    cases sortAscending Value.less? Value.same Prod.snd (dataset.keys.keys.zip values) <;> rfl

section

variable {dataset other : Dataset} {rename : Key → Key} {values : List Value}
  {sorted : List (Key × Value)}
  (success : sortAscending Value.less? Value.same Prod.snd (dataset.keys.keys.zip values) =
    .ok sorted)

include success

theorem mem_of_sorted {key : Key} (isKey : key ∈ sorted.map Prod.fst) :
    key ∈ dataset.keys.keys := by
  have isMember := ((sortAscending_perm success).map Prod.fst).mem_iff.mp isKey
  exact (map_fst_zip_sublist dataset.keys.keys values).subset isMember

/-- The keys of a dataset are different in whatever order they are sorted. -/
theorem pairwise_of_sorted :
    (sorted.map Prod.fst).Pairwise fun earlier later => (earlier == later) = false := by
  apply (((sortAscending_perm success).map Prod.fst).pairwise_iff ?_).mpr
  · exact dataset.keys.distinct.sublist (map_fst_zip_sublist dataset.keys.keys values)
  · intro left right different
    rwa [BEq.comm]

theorem ofValues_sorted (name : Value) :
    ofValues (sorted.map fun entry => entry.1.value) name =
      .ok ⟨name, sorted.map Prod.fst, pairwise_of_sorted success⟩ := by
  have isRead := ofValues_keys (pairwise_of_sorted success) name
  rwa [List.map_map] at isRead

end

/-- The curve that is built under new names visits the keys under these. -/
theorem build_renamed {dataset other : Dataset} {rename : Key → Key}
    (renamed : dataset.RenamedTo rename other) (curveKey : CurveKey) (name : Value) :
    Outcome.Corresponds
      (fun curve visited => curve.order.Within dataset.keys ∧ curve.RenamedTo rename visited)
      (build dataset curveKey name).outcome (build other curveKey name).outcome := by
  rw [build_outcome, build_outcome, renamed.size_eq, renamed.points]
  split
  · exact rfl
  · apply Outcome.corresponds_bind
    intro values
    -- The points and hence the values are the same, and nothing else is compared in sorting.
    have moved : sortAscending Value.less? Value.same Prod.snd (other.keys.keys.zip values) =
        (sortAscending Value.less? Value.same Prod.snd (dataset.keys.keys.zip values)).map
          (List.map (Prod.map rename id)) := by
      rw [renamed.keys, List.zip_map_left, sortAscending_map]
      rfl
    rcases isSorted : sortAscending Value.less? Value.same Prod.snd
      (dataset.keys.keys.zip values) with fault | sorted
    · rw [moved, isSorted]
      exact rfl
    · rw [isSorted] at moved
      replace moved : sortAscending Value.less? Value.same Prod.snd (other.keys.keys.zip values) =
          .ok (sorted.map (Prod.map rename id)) := moved
      rw [moved, Outcome.ok_bind, Outcome.ok_bind, ofValues_sorted isSorted, ofValues_sorted moved]
      have renamedKeys : (sorted.map (Prod.map rename id)).map Prod.fst =
          (sorted.map Prod.fst).map rename := by
        rw [List.map_map, List.map_map]
        rfl
      exact ⟨fun key isKey => renamed.found key (mem_of_sorted isSorted isKey), renamedKeys, rfl⟩

end CurveOrder

/-! ## Curve sets -/

namespace CurveSet

variable {dataset other : Dataset} {rename : Key → Key} {curves visited : List CurveOrder}

theorem map_name_eq
    (each : List.Forall₂ (fun curve visited => curve.RenamedTo rename visited) curves visited) :
    visited.map (·.name) = curves.map (·.name) := by
  induction each with
  | nil => rfl
  | cons same _ ih => rw [List.map_cons, List.map_cons, same.name, ih]

/-- Curves under new names visit the same keys if they did so before. -/
theorem alike_renamed (renamed : dataset.RenamedTo rename other) {first visitedFirst : CurveOrder}
    (firstWithin : first.order.Within dataset.keys) (isFirst : first.RenamedTo rename visitedFirst)
    (within : ∀ curve ∈ curves, curve.order.Within dataset.keys)
    (each : List.Forall₂ (fun curve visited => curve.RenamedTo rename visited) curves visited) :
    (∀ curve ∈ visited, visitedFirst.order.covers curve.order = true) ↔
      ∀ curve ∈ curves, first.order.covers curve.order = true := by
  induction each with
  | nil => simp only [List.not_mem_nil, false_imp_iff, implies_true]
  | cons same _ ih =>
      rcases List.forall_mem_cons.mp within with ⟨isWithin, within⟩
      rw [List.forall_mem_cons, List.forall_mem_cons, ih within,
        renamed.faithful.covers_eq firstWithin isWithin isFirst.order same.order]

theorem ofCurves_renamed (renamed : dataset.RenamedTo rename other)
    (within : ∀ curve ∈ curves, curve.order.Within dataset.keys)
    (each : List.Forall₂ (fun curve visited => curve.RenamedTo rename visited) curves visited)
    {scaleFactors : List ScaleFactor} (sampleScale : ScaleFactor)
    (scaled : scaleFactors.length = curves.length)
    (otherScaled : scaleFactors.length = visited.length) :
    Outcome.Corresponds
      (fun set others => set.curves = curves ∧ set.RenamedTo rename others)
      (ofCurves curves scaleFactors sampleScale scaled)
      (ofCurves visited scaleFactors sampleScale otherScaled) := by
  cases each with
  | nil => exact ⟨rfl, .nil, rfl, rfl⟩
  | @cons first visitedFirst rest others isFirst isRest =>
      rcases List.forall_mem_cons.mp within with ⟨firstWithin, restWithin⟩
      have same := alike_renamed renamed firstWithin isFirst restWithin isRest
      by_cases alike : ∀ curve ∈ rest, first.order.covers curve.order = true
      · rw [ofCurves, ofCurves, dif_pos alike, dif_pos (same.mpr alike)]
        exact ⟨rfl, .cons isFirst isRest, rfl, rfl⟩
      · rw [ofCurves, ofCurves, dif_neg alike, dif_neg (mt same.mp alike)]
        exact rfl

/-- How many curves there are is all that is asked of them before they are compared. -/
theorem build_eq (curves : List CurveOrder) (scaleFactors sampleScale : Value) {count : Nat}
    (isCount : count = curves.length) :
    build curves scaleFactors sampleScale =
      ScaleFactor.given scaleFactors count >>= fun given =>
        ScaleFactor.readAll given.val >>= fun factors =>
          ScaleFactor.read sampleScale >>= fun scale =>
            ofCurves curves factors.val scale
              (factors.property.trans (given.property.trans isCount)) := by
  subst isCount
  rfl

theorem build_renamed (renamed : dataset.RenamedTo rename other)
    (within : ∀ curve ∈ curves, curve.order.Within dataset.keys)
    (each : List.Forall₂ (fun curve visited => curve.RenamedTo rename visited) curves visited)
    (scaleFactors sampleScale : Value) :
    Outcome.Corresponds
      (fun set others => set.curves = curves ∧ set.RenamedTo rename others)
      (build curves scaleFactors sampleScale) (build visited scaleFactors sampleScale) := by
  rw [build_eq visited scaleFactors sampleScale each.length_eq,
    build_eq curves scaleFactors sampleScale rfl]
  apply Outcome.corresponds_bind
  intro given
  apply Outcome.corresponds_bind
  intro factors
  apply Outcome.corresponds_bind
  intro scale
  exact ofCurves_renamed renamed within each scale _ _

/-- The first curve that misses a key misses its new name as well. -/
theorem find?_misses_renamed (renamed : dataset.RenamedTo rename other)
    (within : ∀ curve ∈ curves, curve.order.Within dataset.keys)
    (each : List.Forall₂ (fun curve visited => curve.RenamedTo rename visited) curves visited) :
    (visited.find? fun curve => !curve.order.covers other.keys).map (·.name) =
      (curves.find? fun curve => !curve.order.covers dataset.keys).map (·.name) := by
  induction each with
  | nil => rfl
  | @cons curve _ _ _ same _ ih =>
      rcases List.forall_mem_cons.mp within with ⟨isWithin, within⟩
      rw [List.find?_cons, List.find?_cons,
        renamed.faithful.covers_eq isWithin renamed.found same.order renamed.keys]
      cases curve.order.covers dataset.keys with
      | true => exact ih within
      | false => exact congrArg some same.name

theorem checkCovers_eq (set : CurveSet) (keys : KeySequence) :
    set.checkCovers keys =
      match (set.curves.find? fun curve => !curve.order.covers keys).map (·.name) with
      | some name => .error (.curveMissesDataset name)
      | none => .ok () := by
  rw [checkCovers]
  cases set.curves.find? fun curve => !curve.order.covers keys <;> rfl

theorem checkCovers_renamed {set others : CurveSet} (renamed : dataset.RenamedTo rename other)
    (within : ∀ curve ∈ set.curves, curve.order.Within dataset.keys)
    (same : set.RenamedTo rename others) :
    others.checkCovers other.keys = set.checkCovers dataset.keys := by
  rw [checkCovers_eq, checkCovers_eq, find?_misses_renamed renamed within same.each]

end CurveSet

/-! ## Indexes -/

namespace Index

variable {dataset other : Dataset} {rename : Key → Key}

theorem ofCurves_eq_ok {set : CurveSet} (distance : Distance) (arrangement : Arrangement)
    (nonempty : dataset.size ≠ 0) (covered : set.checkCovers dataset.keys = .ok ()) :
    ofCurves dataset set distance arrangement =
      .ok ⟨dataset, set, distance, arrangement, nonempty, covered⟩ := by
  rw [ofCurves, dif_pos nonempty]
  split
  · rfl
  · next failure => cases failure.symm.trans covered

theorem ofCurves_eq_error {set : CurveSet} {fault : Fault} (distance : Distance)
    (arrangement : Arrangement) (nonempty : dataset.size ≠ 0)
    (failure : set.checkCovers dataset.keys = .error fault) :
    ofCurves dataset set distance arrangement = .error fault := by
  rw [ofCurves, dif_pos nonempty]
  split
  · next covered => cases covered.symm.trans failure
  · next other =>
      cases other.symm.trans failure
      rfl

theorem ofCurves_renamed {set others : CurveSet} (renamed : dataset.RenamedTo rename other)
    (within : ∀ curve ∈ set.curves, curve.order.Within dataset.keys)
    (same : set.RenamedTo rename others) (distance : Distance)
    (arrangement otherArrangement : Arrangement) :
    Outcome.Corresponds
      (fun index otherIndex =>
        index.dataset = dataset ∧ index.distance = distance ∧ index.RenamedTo rename otherIndex)
      (ofCurves dataset set distance arrangement)
      (ofCurves other others distance otherArrangement) := by
  have sameCheck := CurveSet.checkCovers_renamed renamed within same
  rcases eq_or_ne dataset.size 0 with isEmpty | nonempty
  · rw [ofCurves, ofCurves, dif_neg (not_not.mpr isEmpty),
      dif_neg (not_not.mpr (renamed.size_eq.trans isEmpty))]
    exact rfl
  · have otherNonempty : other.size ≠ 0 := renamed.size_eq.trans_ne nonempty
    rcases checked : set.checkCovers dataset.keys with fault | _
    · rw [ofCurves_eq_error distance _ nonempty checked,
        ofCurves_eq_error distance _ otherNonempty (sameCheck.trans checked)]
      exact rfl
    · rw [ofCurves_eq_ok distance _ nonempty checked,
        ofCurves_eq_ok distance _ otherNonempty (sameCheck.trans checked)]
      exact ⟨rfl, rfl, renamed, same, rfl⟩

/-- Whatever an index is built from, it can be built of the points under new names, and then it has
the curves under these names. -/
theorem build_renamed (renamed : dataset.RenamedTo rename other) (curveKeys : List CurveKey)
    (names scaleFactors sampleScale workers : Value) (distance : Distance)
    (arrangement otherArrangement : Arrangement) :
    Outcome.Corresponds
      (fun index otherIndex =>
        index.dataset = dataset ∧ index.distance = distance ∧ index.RenamedTo rename otherIndex)
      (build dataset curveKeys names scaleFactors sampleScale workers distance arrangement)
      (build other curveKeys names scaleFactors sampleScale workers distance
        otherArrangement) := by
  rw [build, build]
  apply Outcome.corresponds_bind
  intro names
  apply Outcome.corresponds_bind
  intro _
  have sorted : Outcome.Corresponds (List.Forall₂ fun curve visited =>
        curve.order.Within dataset.keys ∧ CurveOrder.RenamedTo curve rename visited)
      (curveKeys.zipIdx.mapM fun entry => do
        let name ← names.itemAt entry.2
        (CurveOrder.build dataset entry.1 name).outcome)
      (curveKeys.zipIdx.mapM fun entry => do
        let name ← names.itemAt entry.2
        (CurveOrder.build other entry.1 name).outcome) := by
    apply Outcome.Corresponds.mapM
    intro entry _
    apply Outcome.corresponds_bind
    intro name
    exact CurveOrder.build_renamed renamed entry.1 name
  apply sorted.bind
  intro curves visited each
  rcases (List.forall₂_and_left _ _).mp each with ⟨within, each⟩
  apply (CurveSet.build_renamed renamed within each scaleFactors sampleScale).bind
  rintro set others ⟨rfl, same⟩
  apply (ofCurves_renamed renamed within same distance arrangement otherArrangement).bind
  rintro index otherIndex ⟨isDataset, isDistance, isRenamed⟩
  rw [timedCurves, timedCurves, CurveSet.names, CurveSet.names,
    CurveSet.map_name_eq isRenamed.curves.each]
  apply Outcome.corresponds_bind
  intro _
  exact ⟨isDataset, isDistance, isRenamed⟩

end Index

end CurveNeighbors
