import CurveNeighbors.Proofs.Renaming.Building

/-!
# Indexes under new names

The points of a dataset and the curves over its keys can be stored once more under new
names, which may be of any types, and the index of these answers as the first index does:
it fails where this one fails, with a fault of the same kind, it finds and keeps the same
points, it gives the same distances, and it draws the same. Of the keys it takes nothing
but which of them are equal, so it does not matter whether they can be put in order.

New names may bring candidates into another order. Where all distances are numbers this
shows nowhere. A distance that fails makes both indexes fail, but if it fails in several
ways, each of them reports what it meets first. Each can meet first what the other can: for
any order of the one there is an order of the other in which it reports the same.
-/

namespace CurveNeighbors

/-! ## Storing under new names -/

namespace Dataset

/-- The same points under new names. -/
def rebuild (dataset : Dataset) (rename : Key → Key) : Outcome Dataset := do
  let keys ← KeySequence.read .duplicateKey
    (dataset.keys.keys.map fun key => .ok (rename key).value)
  ofPoints keys dataset.points

theorem exists_rebuild {dataset : Dataset} {rename : Key → Key}
    (reflexive : ∀ key ∈ dataset.keys.keys, key.equals key = true)
    (stillReflexive : ∀ key ∈ dataset.keys.keys, (rename key).equals (rename key) = true)
    (faithful : dataset.keys.IsRenaming rename) :
    ∃ other, dataset.rebuild rename = .ok other ∧ dataset.RenamedTo rename other := by
  have found : dataset.keys.Within dataset.keys := by
    intro key isKey
    exact KeySequence.contains_iff.mpr ⟨key, isKey, Key.beq_self_of_equals (reflexive key isKey)⟩
  rcases faithful.exists_renamedTo found with ⟨names, isRenamed⟩
  have items : (dataset.keys.keys.map fun key => (.ok (rename key).value : Outcome Value)) =
      names.keys.map fun name => .ok name.value := by
    rw [isRenamed, List.map_map]
    rfl
  have aligned : dataset.points.length = names.size :=
    dataset.aligned.trans isRenamed.size_eq.symm
  have uniform : ∀ point ∈ dataset.points,
      point.length = (dataset.points.head?.map List.length).getD 0 := by
    intro point isPoint
    rcases List.exists_cons_of_ne_nil (List.ne_nil_of_mem isPoint) with ⟨first, rest, points⟩
    rw [dataset.uniform point isPoint, points]
    exact (dataset.uniform first (points ▸ List.mem_cons_self)).symm
  have namesReflexive : ∀ name ∈ names.keys, name.equals name = true := by
    rw [isRenamed]
    exact List.forall_mem_map.mpr stillReflexive
  refine ⟨⟨names, dataset.points, _, aligned, uniform⟩, ?_,
    ⟨isRenamed, rfl, faithful, reflexive, namesReflexive⟩⟩
  rw [rebuild, items, KeySequence.read_eq_ok, Outcome.ok_bind, ofPoints, dif_pos aligned,
    dif_pos uniform]

end Dataset

namespace CurveOrder

/-- The same curve under new names. -/
def rebuild (curve : CurveOrder) (rename : Key → Key) : Outcome CurveOrder :=
  ofValues (curve.order.keys.map fun key => (rename key).value) curve.name

theorem exists_rebuild {curve : CurveOrder} {keys : KeySequence} {rename : Key → Key}
    (within : curve.order.Within keys) (faithful : keys.IsRenaming rename) :
    ∃ visited, curve.rebuild rename = .ok visited ∧ curve.RenamedTo rename visited := by
  have different := faithful.pairwise_map within curve.order.distinct
  refine ⟨⟨curve.name, curve.order.keys.map rename, different⟩, ?_, rfl, rfl⟩
  have isRead := ofValues_keys different curve.name
  rwa [List.map_map] at isRead

end CurveOrder

namespace ScaleFactor

theorem read_ofInt (factor : ScaleFactor) : read (.ofInt factor.val) = .ok factor := by
  have isInt : (Value.ofInt factor.val).toInt = .ok factor.val := rfl
  have same : (Value.ofInt factor.val).same (.ofInt factor.val) = true := by
    rw [Value.ofInt, Value.same]
    exact Number.same_iff.mpr (.inr ⟨rfl, by rintro ⟨⟩⟩)
  rw [read, isInt, Outcome.ok_bind, dif_pos factor.property, if_pos same]
  rfl

theorem exists_readAll {values : List Value} {factors : List ScaleFactor}
    (each : List.Forall₂ (fun value factor => read value = .ok factor) values factors) :
    ∃ found, readAll values = .ok found ∧ found.val = factors := by
  induction each with
  | nil => exact ⟨_, rfl, rfl⟩
  | cons first _ ih =>
      rcases ih with ⟨found, isRead, rest⟩
      refine ⟨⟨_ :: found.val, congrArg (· + 1) found.property⟩, ?_, congrArg _ rest⟩
      rw [readAll, first, Outcome.ok_bind, isRead, Outcome.ok_bind]
      rfl

end ScaleFactor

namespace CurveSet

/-- The same curves under new names, with the same scale factors. -/
def rebuild (set : CurveSet) (rename : Key → Key) : Outcome CurveSet := do
  let curves ← set.curves.mapM (·.rebuild rename)
  build curves (.list (set.scaleFactors.map fun factor => .ofInt factor.val))
    (.ofInt set.sampleScale.val)

theorem build_ofCurves {curves : List CurveOrder} {scaleFactors : List ScaleFactor}
    (scaled : scaleFactors.length = curves.length) (sampleScale : ScaleFactor) :
    build curves (.list (scaleFactors.map fun factor => .ofInt factor.val))
        (.ofInt sampleScale.val) =
      ofCurves curves scaleFactors sampleScale scaled := by
  have aligned : (scaleFactors.map fun factor => Value.ofInt factor.val).length = curves.length :=
    (List.length_map _).trans scaled
  have given : ScaleFactor.given (.list (scaleFactors.map fun factor => .ofInt factor.val))
      curves.length = .ok ⟨_, aligned⟩ :=
    dif_pos aligned
  have each : List.Forall₂ (fun value factor => ScaleFactor.read value = .ok factor)
      (scaleFactors.map fun factor => .ofInt factor.val) scaleFactors := by
    rw [List.forall₂_map_left_iff, List.forall₂_same]
    exact fun factor _ => factor.read_ofInt
  rcases ScaleFactor.exists_readAll each with ⟨found, isRead, isFound⟩
  rw [build, given, Outcome.ok_bind, isRead, Outcome.ok_bind, ScaleFactor.read_ofInt,
    Outcome.ok_bind]
  congr

theorem ofCurves_self (set : CurveSet) :
    ofCurves set.curves set.scaleFactors set.sampleScale set.scaled = .ok set := by
  rcases set with ⟨_ | ⟨first, rest⟩, scaleFactors, sampleScale, scaled, alike⟩
  · rfl
  · exact dif_pos (alike first rfl)

theorem exists_rebuild {dataset other : Dataset} {set : CurveSet} {rename : Key → Key}
    (renamed : dataset.RenamedTo rename other)
    (within : ∀ curve ∈ set.curves, curve.order.Within dataset.keys) :
    ∃ others, set.rebuild rename = .ok others ∧ set.RenamedTo rename others := by
  have each : ∀ curve ∈ set.curves, ∃ visited, curve.rebuild rename = .ok visited := by
    intro curve isCurve
    rcases CurveOrder.exists_rebuild (within curve isCurve) renamed.faithful with
      ⟨visited, rebuilt, _⟩
    exact ⟨visited, rebuilt⟩
  rcases Outcome.exists_mapM each with ⟨visited, rebuilt⟩
  have same : List.Forall₂ (fun curve visited => curve.RenamedTo rename visited)
      set.curves visited := by
    apply ((List.forall₂_and_left _ _).mpr ⟨within, Outcome.forall₂_of_mapM rebuilt⟩).imp
    rintro curve visited ⟨isWithin, isRebuilt⟩
    rcases CurveOrder.exists_rebuild isWithin renamed.faithful with ⟨other, again, isRenamed⟩
    cases isRebuilt.symm.trans again
    exact isRenamed
  -- The renamed curves visit the same keys because those of the set do.
  have scaled : set.scaleFactors.length = visited.length := set.scaled.trans same.length_eq
  have built := ofCurves_renamed renamed within same set.sampleScale set.scaled scaled
  rw [ofCurves_self] at built
  rcases built.exists_ok with ⟨others, isBuilt, _, isRenamed⟩
  refine ⟨others, ?_, isRenamed⟩
  rw [rebuild, rebuilt, Outcome.ok_bind, build_ofCurves scaled, isBuilt]

end CurveSet

namespace Index

/-! ## Alike answers -/

/-- Two indexes have the same points and curves under different names, and they answer alike. If the
distance fails in one way only, or not at all, they fail with faults of the same kind. In any case
they may come to the same, given all orders in which candidates may be scored. Neither of them has
to put keys in order, and neither depends on the order in which it meets candidates. -/
structure AnswersAlike (index : Index) (rename : Key → Key) (other : Index) : Prop where
  renamed : index.RenamedTo rename other
  candidates : ∀ query value source, index.Counterpart rename other query.key value →
    Outcome.Corresponds (fun found others => found.RenamedTo rename others)
        (index.candidates query source).1
        (other.candidates { query with key := value } source).1 ∧
      (other.candidates { query with key := value } source).2 =
        (index.candidates query source).2
  answers : ∀ query value state, index.Counterpart rename other query.key value →
    Outcome.CorrespondsUpTo (index.dataset.Raises index.distance)
        (fun kept others => others = kept.map (Neighbor.renamed rename))
        (index.query query state).1 (other.query { query with key := value } state).1 ∧
      (other.query { query with key := value } state).2.source =
        (index.query query state).2.source
  kinds : (∀ fault raised, index.dataset.Raises index.distance fault →
      index.dataset.Raises index.distance raised → raised.kind = fault.kind) →
    ∀ query value state, index.Counterpart rename other query.key value →
      Outcome.Corresponds (fun kept others => others = kept.map (Neighbor.renamed rename))
        (index.query query state).1 (other.query { query with key := value } state).1
  arrangements : ∀ query value state, index.Counterpart rename other query.key value →
    (∃ arrangement, Outcome.Corresponds
      (fun kept others => others = kept.map (Neighbor.renamed rename)) (index.query query state).1
      ((other.withArrangement arrangement).query { query with key := value } state).1) ∧
    ∃ arrangement, Outcome.Corresponds
      (fun kept others => others = kept.map (Neighbor.renamed rename))
      ((index.withArrangement arrangement).query query state).1
      (other.query { query with key := value } state).1
  ignoresOrder : ∀ query, index.IgnoresOrder query
  otherIgnoresOrder : ∀ query, other.IgnoresOrder query

theorem RenamedTo.answersAlike {index other : Index} {rename : Key → Key}
    (renamed : index.RenamedTo rename other) (defines : index.dataset.Defines index.distance) :
    index.AnswersAlike rename other where
  renamed := renamed
  candidates := fun _ _ source counterpart => candidates_renamed renamed counterpart source
  answers := fun _ _ state counterpart => query_renamed renamed defines counterpart state
  kinds := by
    intro alike query value state counterpart
    exact (query_renamed renamed defines counterpart state).1.corresponds alike
  arrangements := fun _ _ state counterpart =>
    exists_arrangements renamed defines counterpart state
  ignoresOrder := ignoresOrder renamed.dataset.beq_self defines
  otherIgnoresOrder := by
    apply ignoresOrder
    · intro name isName
      exact Key.beq_self_of_equals (renamed.dataset.stillReflexive name isName)
    · rw [Dataset.Defines, renamed.dataset.points, renamed.distance]
      exact defines

end Index

/-- New names for five keys, no two of which are of one type. -/
def mixedNames : KeySequence :=
  ⟨[⟨.null, rfl⟩, ⟨.text "name", rfl⟩, Key.ofInt 9, ⟨.tuple [.text "name", .null], rfl⟩,
    ⟨.truth false, rfl⟩], by decide⟩

/-- An index whose distance fails in one way for the second point and in another for the third. -/
def failingTwice (arrangement : Arrangement) : Index :=
  { Demand.twoCurves with
    distance := fun _ other =>
      if other == [2] then .error .lengthsDiffer
      else if other == [3] then .error .notNumeric
      else .ok (.whole 0)
    arrangement := arrangement }

/-- A query for the first key, all keys being candidates. -/
def queryOfFirst : Query :=
  ⟨.ofInt 1, .value (.ofInt 1), .ofInt 4, .ofInt 1, .null⟩

/-- Where the distance fails in several ways, the kind of the fault depends on the order of the
candidates, even under the same names. -/
theorem kind_of_failingTwice :
    (Outcome.fault? ((failingTwice .asAdded).query queryOfFirst ⟨.absent, 0⟩).1).map Fault.kind =
        some .value ∧
      (Outcome.fault? ((failingTwice .lastFirst).query queryOfFirst ⟨.absent, 0⟩).1).map
        Fault.kind = some .type := by
  decide +kernel

end CurveNeighbors
