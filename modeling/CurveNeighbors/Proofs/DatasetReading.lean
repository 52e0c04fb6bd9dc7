import CurveNeighbors.Dataset.Reading
import CurveNeighbors.Proofs.Renaming.Keys
import Mathlib.Data.List.Induction

/-!
# Datasets that are read

Points are read under keys that are all equal to themselves, from vectors that all spell
points. Then nothing but the keys and the dimensions decides: there has to be a point, no
key may occur twice, and all points must have one dimension. What is wrong with other
points is always a matter of configuration. A repeated key is reported before any vector
is looked at, so no dimension hides it.

The dataset that is read has the keys in their order, each in the form in which it was
given, and row and key determine each other. It is the same dataset, to the last bit,
however the points are handed over: in a mapping, in an array with the keys beside it, or
in a dataset that has been read before.
-/

namespace CurveNeighbors

/-! ## Keys -/

namespace KeySequence

/-- Of keys that are not all different, there is a first one that equals an earlier one. -/
theorem exists_repeated {keys : List Key}
    (notDifferent : ¬ keys.Pairwise fun earlier later => (earlier == later) = false) :
    ∃ before key after, keys = before ++ key :: after ∧
      (before.Pairwise fun earlier later => (earlier == later) = false) ∧
      before.any (· == key) = true := by
  induction keys using List.reverseRecOn with
  | nil => exact absurd .nil notDifferent
  | append_singleton keys last ih =>
      by_cases different : keys.Pairwise fun earlier later => (earlier == later) = false
      · refine ⟨keys, last, [], rfl, different, ?_⟩
        by_contra isNew
        apply notDifferent
        refine List.pairwise_append.mpr ⟨different, List.pairwise_singleton .., ?_⟩
        intro earlier isEarlier other isLast
        cases List.mem_singleton.mp isLast
        simpa using fun same => isNew (List.any_eq_true.mpr ⟨earlier, isEarlier, same⟩)
      · rcases ih different with ⟨before, key, after, split, rest⟩
        exact ⟨before, key, after ++ [last], by simp [split], rest⟩

/-- The first key that equals an earlier one is refused. -/
theorem read_of_repeated {repeated : Key → Fault} {before after : List Key} {key : Key}
    (different : before.Pairwise fun earlier later => (earlier == later) = false)
    (again : before.any (· == key) = true) :
    read repeated ((before ++ key :: after).map fun key => .ok key.value) =
      .error (repeated key) := by
  have fresh : ∀ key ∈ before, empty.contains key = false := fun _ _ => rfl
  have present : (empty.insertAll before).contains key = true := by
    rw [contains_insertAll, again, Bool.or_true]
  have step : append repeated (empty.insertAll before) (.ok key.value) =
      .error (repeated key) := by
    rw [append, Outcome.ok_bind, key.toKey_value, Outcome.ok_bind, if_pos present]
  rw [read, List.map_append, List.foldlM_append, foldlM_append_eq different fresh,
    Outcome.ok_bind, List.map_cons, List.foldlM_cons, step, Outcome.error_bind]

end KeySequence

/-! ## Vectors -/

namespace Nested

/-- A list of numbers. -/
def IsFlat (vector : Value) : Prop :=
  ∃ coordinates, vector = .list coordinates ∧
    ∀ coordinate ∈ coordinates, coordinate.number?.isSome = true

theorem shape_of_number {value : Value} (isNumber : value.number?.isSome = true) :
    shape value = .ok [] := by
  cases value <;> first | rfl | cases isNumber

theorem leaves_of_number {value : Value} (isNumber : value.number?.isSome = true) :
    leaves value = [value] := by
  cases value <;> first | rfl | cases isNumber

theorem shapes_of_forall {items : List Value} {expected : List Nat}
    (each : ∀ item ∈ items, shape item = .ok expected) :
    shapes items = .ok (List.replicate items.length expected) := by
  induction items with
  | nil => rfl
  | cons item items ih =>
      rcases List.forall_mem_cons.mp each with ⟨first, each⟩
      rw [shapes, first, Outcome.ok_bind, ih each, Outcome.ok_bind]
      rfl

theorem listShape_replicate {count : Nat} (positive : 0 < count) (expected : List Nat) :
    listShape (List.replicate count expected) = .ok (count :: expected) := by
  cases count with
  | zero => cases positive
  | succ count => simp [List.replicate_succ, listShape]

/-- A list of items of one shape. -/
theorem shape_of_forall {items : List Value} {expected : List Nat} (some : items ≠ [])
    (each : ∀ item ∈ items, shape item = .ok expected) :
    shape (.list items) = .ok (items.length :: expected) := by
  rw [shape, shapes_of_forall each, Outcome.ok_bind,
    listShape_replicate (List.length_pos_of_ne_nil some)]

theorem shape_of_numbers {coordinates : List Value}
    (numbers : ∀ coordinate ∈ coordinates, coordinate.number?.isSome = true) :
    shape (.list coordinates) = .ok [coordinates.length] := by
  by_cases none : coordinates = []
  · subst none
    rfl
  · exact shape_of_forall none fun coordinate isCoordinate =>
      shape_of_number (numbers coordinate isCoordinate)

theorem leaves_of_numbers {coordinates : List Value}
    (numbers : ∀ coordinate ∈ coordinates, coordinate.number?.isSome = true) :
    leaves (.list coordinates) = coordinates := by
  rw [leaves]
  induction coordinates with
  | nil => rfl
  | cons coordinate coordinates ih =>
      rcases List.forall_mem_cons.mp numbers with ⟨first, numbers⟩
      rw [allLeaves, leaves_of_number first, ih numbers, List.singleton_append]

end Nested

open Nested

/-- A flat vector is read coordinate by coordinate. -/
theorem Point.ofValue_of_numbers {coordinates : List Value}
    (numbers : ∀ coordinate ∈ coordinates, coordinate.number?.isSome = true) :
    ofValue (.list coordinates) = coordinates.mapM Value.toCoordinate := by
  have shallow : boundedShape (.list coordinates) = .ok [coordinates.length] := by
    rw [boundedShape, shape_of_numbers numbers]
    rfl
  rw [ofValue, shallow, Outcome.ok_bind, leaves_of_numbers numbers]

/-- The coordinates of a point are read as they are. -/
theorem Point.ofValue_toValue (point : Point) : ofValue point.toValue = .ok point := by
  have numbers : ∀ coordinate ∈ point.map fun coordinate => Value.number (.real coordinate),
      coordinate.number?.isSome = true := by
    simp [Value.number?]
  rw [toValue, ofValue_of_numbers numbers]
  apply Outcome.mapM_of_forall₂
  rw [List.forall₂_map_left_iff]
  exact List.forall₂_same.mpr fun _ _ => rfl

theorem Point.length_of_numbers {coordinates : List Value} {point : Point}
    (numbers : ∀ coordinate ∈ coordinates, coordinate.number?.isSome = true)
    (success : ofValue (.list coordinates) = .ok point) : coordinates.length = point.length := by
  rw [ofValue_of_numbers numbers] at success
  exact (Outcome.forall₂_of_mapM success).length_eq

namespace Dataset

/-- Vectors under keys, as they are handed over. -/
def pairsOf (entries : List (Key × Value)) : List (Value × Value) :=
  entries.map fun entry => (entry.1.value, entry.2)

/-- There is a point, no key occurs twice, and all points have one dimension. -/
structure Consistent (keys : List Key) (points : List Point) : Prop where
  nonempty : keys ≠ []
  different : keys.Pairwise fun earlier later => (earlier == later) = false
  uniform : ∀ left ∈ points, ∀ right ∈ points, left.length = right.length

/-- What is wrong with points under their keys: there are none, a key is the first to equal an
earlier one, or a point is the first to differ in dimension. -/
inductive Flaw (keys : List Key) (points : List Point) : Fault → Prop
  | empty (none : keys = []) : Flaw keys points .emptyDataset
  | repeated {before after : List Key} {key : Key} (split : keys = before ++ key :: after)
      (different : before.Pairwise fun earlier later => (earlier == later) = false)
      (again : before.any (· == key) = true) : Flaw keys points (.duplicateKey key)
  | mismatch {before after : List (Key × Point)} {key : Key} {point first : Point}
      (different : keys.Pairwise fun earlier later => (earlier == later) = false)
      (isFirst : points.head? = some first)
      (split : keys.zip points = before ++ (key, point) :: after)
      (alike : ∀ entry ∈ before, entry.2.length = first.length)
      (differs : point.length ≠ first.length) :
      Flaw keys points (.dimensionMismatch key point.length first.length)

namespace Flaw

variable {keys : List Key} {points : List Point} {fault : Fault}

theorem kind_eq (flaw : Flaw keys points fault) : fault.kind = .configuration := by
  cases flaw <;> rfl

/-- It is reported as what it is, unless an integer in a key is too long to be written. -/
theorem reported_eq (flaw : Flaw keys points fault)
    (writable : ∀ key ∈ keys, key.value.isWritable = true) : fault.reported = fault := by
  cases flaw with
  | empty => rfl
  | repeated split =>
      have keyWritable := writable _ (split ▸ List.mem_append_right _ List.mem_cons_self)
      simp [Fault.reported, Fault.shown, keyWritable]
  | mismatch _ _ split =>
      have isEntry := split ▸ List.mem_append_right _ List.mem_cons_self
      have keyWritable := writable _ (List.of_mem_zip isEntry).1
      simp [Fault.reported, Fault.shown, keyWritable]

theorem not_consistent (flaw : Flaw keys points fault) : ¬ Consistent keys points := by
  intro consistent
  cases flaw with
  | empty none => exact consistent.nonempty none
  | repeated split _ again =>
      have different := consistent.different
      rw [split, List.pairwise_append] at different
      rcases List.any_eq_true.mp again with ⟨earlier, isEarlier, same⟩
      simp [different.2.2 earlier isEarlier _ List.mem_cons_self] at same
  | mismatch _ isFirst split _ differs =>
      have isEntry := split ▸ List.mem_append_right _ List.mem_cons_self
      exact differs (consistent.uniform _ (List.of_mem_zip isEntry).2 _ (List.mem_of_head? isFirst))

end Flaw

/-! ## Points under keys -/

/-- The keys are read before the vectors. -/
theorem ofPairs_eq {entries : List (Key × Value)} (nonempty : entries ≠ []) :
    ofPairs (pairsOf entries) =
      KeySequence.read .duplicateKey ((entries.map Prod.fst).map fun key => .ok key.value) >>=
        fun keys => entries.mapM (fun entry => Point.ofValue entry.2) >>= ofPoints keys := by
  have some : ((pairsOf entries).map (.ok : _ → Outcome (Value × Value))).isEmpty = false := by
    simpa [pairsOf] using nonempty
  have keys : ((pairsOf entries).map (.ok : _ → Outcome (Value × Value))).map
      (fun item => item.map Prod.fst) = (entries.map Prod.fst).map fun key => .ok key.value := by
    simp [pairsOf, Except.map]
  have vectors : (((pairsOf entries).map (.ok : _ → Outcome (Value × Value))).filterMap
      Except.toOption).mapM (fun pair => Point.ofValue pair.2) =
        entries.mapM fun entry => Point.ofValue entry.2 := by
    simp [pairsOf, List.filterMap_map, Function.comp_def, Except.toOption, List.mapM_map]
  rw [ofPairs, ofItems, some, keys, vectors]
  rfl

/-- Points of one dimension are taken as they are, and of others the first that differs is
refused. -/
theorem ofPoints_cases {keys : KeySequence} {points : List Point}
    (aligned : points.length = keys.size) :
    (∃ dataset, ofPoints keys points = .ok dataset ∧ dataset.keys = keys ∧
      dataset.points = points ∧ ∀ left ∈ points, ∀ right ∈ points, left.length = right.length) ∨
    ∃ fault, ofPoints keys points = .error fault ∧ Flaw keys.keys points fault := by
  rw [ofPoints, dif_pos aligned]
  cases first : points.head? with
  | none =>
      cases List.head?_eq_none_iff.mp first
      exact .inl ⟨_, dif_pos (by simp), rfl, rfl, by simp⟩
  | some head =>
      rw [Option.map_some, Option.getD_some]
      by_cases uniform : ∀ point ∈ points, point.length = head.length
      · left
        rw [dif_pos uniform]
        refine ⟨_, rfl, rfl, rfl, ?_⟩
        intro left isLeft right isRight
        exact (uniform left isLeft).trans (uniform right isRight).symm
      · right
        rw [dif_neg uniform]
        cases differing :
          (keys.keys.zip points).find? fun entry => entry.2.length != head.length with
        | none =>
            exfalso
            apply uniform
            intro point isPoint
            rw [← List.map_snd_zip (Nat.le_of_eq aligned)] at isPoint
            rcases List.mem_map.mp isPoint with ⟨entry, isEntry, rfl⟩
            simpa using List.find?_eq_none.mp differing entry isEntry
        | some entry =>
            rcases List.find?_eq_some_iff_append.mp differing with
              ⟨differs, before, after, split, alike⟩
            refine ⟨_, rfl, .mismatch keys.distinct first split ?_ (by simpa using differs)⟩
            intro earlier isEarlier
            simpa using alike earlier isEarlier

/-- Pairs whose vectors spell points are read as a dataset of these, or something is wrong with
them. -/
theorem ofPairs_cases {entries : List (Key × Value)} {points : List Point}
    (spelled : entries.mapM (fun entry => Point.ofValue entry.2) = .ok points) :
    (∃ dataset, ofPairs (pairsOf entries) = .ok dataset ∧
      dataset.keys.keys = entries.map Prod.fst ∧ dataset.points = points ∧
      Consistent (entries.map Prod.fst) points) ∨
    ∃ fault, ofPairs (pairsOf entries) = .error fault ∧
      Flaw (entries.map Prod.fst) points fault := by
  by_cases none : entries = []
  · subst none
    exact .inr ⟨_, rfl, .empty rfl⟩
  · rw [ofPairs_eq none, spelled]
    have lengths := (Outcome.forall₂_of_mapM spelled).length_eq
    by_cases different :
        (entries.map Prod.fst).Pairwise fun earlier later => (earlier == later) = false
    · let keys : KeySequence := ⟨entries.map Prod.fst, different⟩
      have keysRead := KeySequence.read_eq_ok .duplicateKey keys
      have aligned : points.length = keys.size := by simp [keys, KeySequence.size, lengths]
      rw [keysRead, Outcome.ok_bind, Outcome.ok_bind]
      rcases ofPoints_cases aligned with ⟨dataset, read, hasKeys, hasPoints, uniform⟩ | flawed
      · exact .inl ⟨dataset, read, congrArg KeySequence.keys hasKeys, hasPoints,
          by simpa using none, different, uniform⟩
      · exact .inr flawed
    · rcases KeySequence.exists_repeated different with
        ⟨before, key, after, split, earlierDifferent, again⟩
      right
      refine ⟨.duplicateKey key, ?_, .repeated split earlierDifferent again⟩
      rw [split, KeySequence.read_of_repeated earlierDifferent again, Outcome.error_bind]

/-! ## What a dataset holds -/

/-- A dataset holds points under keys, in their order and each key in its form. A row and the key in
it determine each other, and a key is found in every form in which it is equal to a given one. -/
structure Holds (dataset : Dataset) (given : List Key) (located : List Point) : Prop where
  keys : dataset.keys.keys = given
  points : dataset.points = located
  rowOf : ∀ row : Nat, row < dataset.size →
    ∃ key, dataset.keyAt row = .ok key ∧ dataset.rowOf key = .ok row
  keyAt : ∀ key, dataset.contains key = true → ∃ (row : Nat) (holder : Key),
    dataset.rowOf key = .ok row ∧ dataset.keyAt row = .ok holder ∧ (holder == key) = true
  pointOf : ∀ (place : Nat) holder point, given[place]? = some holder →
    located[place]? = some point → ∀ key, (holder == key) = true →
      dataset.pointOf key = .ok point
  contains : ∀ key, dataset.contains key = true ↔ ∃ holder ∈ given, (holder == key) = true

theorem eq_of_keys_of_points {dataset other : Dataset} (nonempty : dataset.points ≠ [])
    (sameKeys : dataset.keys.keys = other.keys.keys) (samePoints : dataset.points = other.points) :
    dataset = other := by
  rcases dataset with ⟨keys, points, dimension, aligned, uniform⟩
  rcases other with ⟨otherKeys, _, otherDimension, otherAligned, otherUniform⟩
  cases KeySequence.eq_of_keys sameKeys
  cases samePoints
  rcases List.exists_mem_of_ne_nil points nonempty with ⟨point, isPoint⟩
  cases (uniform point isPoint).symm.trans (otherUniform point isPoint)
  rfl

section

variable {dataset : Dataset} (reflexive : ∀ key ∈ dataset.keys.keys, (key == key) = true)

include reflexive

theorem holds_own : dataset.Holds dataset.keys.keys dataset.points := by
  refine ⟨rfl, rfl, ?_, ?_, ?_, fun key => KeySequence.contains_iff⟩
  · intro row inside
    have isKey : dataset.keys.keys[row]? = some dataset.keys.keys[row] :=
      List.getElem?_eq_getElem inside
    exact ⟨_, Sequence.itemAt_of_getElem? isKey, KeySequence.position_eq_ok_iff.mpr
      ⟨_, isKey, reflexive _ (List.getElem_mem inside)⟩⟩
  · intro key present
    rcases KeySequence.exists_position_iff.mpr present with ⟨row, placed⟩
    rcases KeySequence.position_eq_ok_iff.mp placed with ⟨holder, isHolder, same⟩
    exact ⟨row, holder, placed, Sequence.itemAt_of_getElem? isHolder, same⟩
  · intro place holder point isHolder isPoint key same
    have placed : dataset.rowOf key = .ok place :=
      KeySequence.position_eq_ok_iff.mpr ⟨holder, isHolder, same⟩
    rw [pointOf, placed, Outcome.ok_bind, pointAt, isPoint]

/-- Each key is found with its own point. -/
theorem mapM_pointOf :
    dataset.keys.keys.mapM (fun key => do
      let point ← dataset.pointOf key
      return (key.value, point.toValue)) =
        .ok (pairsOf (dataset.items.map fun item => (item.1, item.2.toValue))) := by
  have lengths : dataset.points.length = dataset.keys.keys.length := dataset.aligned
  refine Outcome.mapM_eq_ok_iff.mpr ⟨by simp [pairsOf, items, lengths], ?_⟩
  intro place key isKey
  have inside : place < dataset.points.length := by
    rw [lengths]
    exact (List.getElem?_eq_some_iff.mp isKey).1
  have isPoint := List.getElem?_eq_getElem inside
  have isItem : dataset.items[place]? = some (key, dataset.points[place]) :=
    List.getElem?_zip_eq_some.mpr ⟨isKey, isPoint⟩
  have found := (holds_own reflexive).pointOf place key _ isKey isPoint key
    (reflexive key (List.mem_of_getElem? isKey))
  refine ⟨(key.value, dataset.points[place].toValue), by simp [pairsOf, isItem], ?_⟩
  rw [found]
  rfl

/-- A dataset that is read again, key by key, is the same. -/
theorem copy_eq (nonempty : dataset.keys.keys ≠ []) : dataset.copy = .ok dataset := by
  have lengths : dataset.points.length = dataset.keys.keys.length := dataset.aligned
  have sameKeys : (dataset.items.map fun item => (item.1, item.2.toValue)).map Prod.fst =
      dataset.keys.keys := by
    rw [List.map_map]
    exact List.map_fst_zip (Nat.le_of_eq lengths.symm)
  have spelled : (dataset.items.map fun item => (item.1, item.2.toValue)).mapM
      (fun entry => Point.ofValue entry.2) = .ok dataset.points := by
    apply Outcome.mapM_of_forall₂
    rw [List.forall₂_map_left_iff, ← List.map_snd_zip (Nat.le_of_eq lengths),
      List.forall₂_map_right_iff]
    exact List.forall₂_same.mpr fun item _ => item.2.ofValue_toValue
  rw [copy, mapM_pointOf reflexive, Outcome.ok_bind]
  rcases ofPairs_cases spelled with ⟨other, read, keys, points, _⟩ | ⟨fault, _, flaw⟩
  · rw [read, eq_of_keys_of_points _ (keys.trans sameKeys) points]
    rw [points]
    intro none
    exact nonempty (List.length_eq_zero_iff.mp (lengths.symm.trans (by rw [none]; rfl)))
  · refine absurd ⟨?_, ?_, ?_⟩ flaw.not_consistent
    · rwa [sameKeys]
    · rw [sameKeys]
      exact dataset.keys.distinct
    · intro left isLeft right isRight
      exact (dataset.uniform left isLeft).trans (dataset.uniform right isRight).symm

end

/-! ## Mappings -/

/-- Different keys are entered into a mapping one behind the other. -/
theorem foldlM_enter {entries mapping : List (Key × Value)}
    (different : (entries.map Prod.fst).Pairwise fun earlier later => (earlier == later) = false)
    (fresh : ∀ entry ∈ entries, mapping.any (·.1 == entry.1) = false) :
    (pairsOf entries).foldlM enter mapping = .ok (mapping ++ entries) := by
  induction entries generalizing mapping with
  | nil => exact congrArg Except.ok (List.append_nil mapping).symm
  | cons entry entries ih =>
      rcases List.forall_mem_cons.mp fresh with ⟨absent, fresh⟩
      rcases List.pairwise_cons.mp different with ⟨isNew, different⟩
      have step : enter mapping (entry.1.value, entry.2) = .ok (mapping ++ [entry]) := by
        rw [enter, Key.toKey_value, Outcome.ok_bind, if_neg (by simp [absent])]
        rfl
      rw [pairsOf, List.map_cons, List.foldlM_cons, step, Outcome.ok_bind]
      refine (ih different ?_).trans (by rw [List.append_assoc, List.singleton_append])
      intro other isOther
      rw [List.any_append, fresh other isOther, Bool.false_or, List.any_cons, List.any_nil,
        Bool.or_false]
      exact isNew other.1 (List.mem_map_of_mem isOther)

theorem ofMapping_eq {entries : List (Key × Value)}
    (different : (entries.map Prod.fst).Pairwise fun earlier later => (earlier == later) = false) :
    ofMapping (pairsOf entries) = ofPairs (pairsOf entries) := by
  rw [ofMapping, foldlM_enter different (fun _ _ => rfl), Outcome.ok_bind, List.nil_append]
  rfl

/-! ## Arrays -/

section

variable {vectors : List Value} (flat : ∀ vector ∈ vectors, IsFlat vector)

include flat

theorem isSome_number?_of_mem_allLeaves :
    ∀ leaf ∈ allLeaves vectors, leaf.number?.isSome = true := by
  induction vectors with
  | nil => exact fun leaf impossible => absurd impossible List.not_mem_nil
  | cons vector vectors ih =>
      rcases List.forall_mem_cons.mp flat with ⟨⟨coordinates, rfl, numbers⟩, others⟩
      intro leaf isLeaf
      rw [allLeaves, leaves_of_numbers numbers] at isLeaf
      rcases List.mem_append.mp isLeaf with isFirst | later
      · exact numbers leaf isFirst
      · exact ih others leaf later

/-- Numbers are not read as texts. -/
theorem withOneType_of_flat : withOneType vectors = vectors := by
  apply if_neg
  rw [isTextual, Bool.and_eq_true]
  rintro ⟨hasText, _⟩
  rcases List.any_eq_true.mp hasText with ⟨leaf, isLeaf, isText⟩
  have isNumber := isSome_number?_of_mem_allLeaves flat leaf isLeaf
  cases leaf with
  | text => cases isNumber
  | _ => cases isText

/-- Flat vectors of one dimension are the rows of an array. -/
theorem arrayRows_of_flat {points : List Point} (nonempty : vectors ≠ [])
    (spelled : vectors.mapM Point.ofValue = .ok points)
    (uniform : ∀ left ∈ points, ∀ right ∈ points, left.length = right.length) :
    arrayRows (.list vectors) = .ok vectors := by
  rcases List.exists_mem_of_ne_nil vectors nonempty with ⟨some, isSome⟩
  rcases Outcome.exists_of_mem_items spelled isSome with ⟨first, isFirst, _⟩
  have shapes : ∀ vector ∈ vectors, shape vector = .ok [first.length] := by
    intro vector isVector
    rcases Outcome.exists_of_mem_items spelled isVector with ⟨point, isPoint, read⟩
    rcases flat vector isVector with ⟨coordinates, rfl, numbers⟩
    rw [shape_of_numbers numbers, Point.length_of_numbers numbers read,
      uniform point isPoint first isFirst]
  have bounded : boundedShape (.list vectors) = .ok [vectors.length, first.length] := by
    rw [boundedShape, shape_of_forall nonempty shapes]
    rfl
  rw [arrayRows, bounded]
  rfl

end

theorem map_snd_pairsOf (entries : List (Key × Value)) :
    (pairsOf entries).map Prod.snd = entries.map Prod.snd := by
  simp [pairsOf]

/-- An array of flat vectors with their keys beside it is read like the pairs. -/
theorem ofArray_eq {entries : List (Key × Value)} {points : List Point}
    (consistent : Consistent (entries.map Prod.fst) points)
    (spelled : entries.mapM (fun entry => Point.ofValue entry.2) = .ok points)
    (flat : ∀ entry ∈ entries, IsFlat entry.2) :
    ofArray (.list ((pairsOf entries).map Prod.snd)) (some ((pairsOf entries).map Prod.fst)) =
      ofPairs (pairsOf entries) := by
  have flatVectors : ∀ vector ∈ (pairsOf entries).map Prod.snd, IsFlat vector := by
    rw [map_snd_pairsOf]
    exact List.forall_mem_map.mpr flat
  have vectorsSpelled : ((pairsOf entries).map Prod.snd).mapM Point.ofValue = .ok points := by
    rwa [map_snd_pairsOf, List.mapM_map]
  have nonempty : (pairsOf entries).map Prod.snd ≠ [] := by
    simpa [pairsOf] using consistent.nonempty
  have zipped : ((pairsOf entries).map Prod.fst).zip ((pairsOf entries).map Prod.snd) =
      pairsOf entries := (List.zip_of_prod rfl rfl).symm
  rw [ofArray, arrayRows_of_flat flatVectors nonempty vectorsSpelled consistent.uniform,
    Outcome.ok_bind, withOneType_of_flat flatVectors, ofRows, if_pos (by simp), zipped]

/-! ## All readings -/

/-- Points are read exactly if there are some, no key occurs twice and all have one dimension;
what is wrong with others is a matter of configuration, and a repeated key comes first. The dataset
holds the points under their keys, and it is the same one that is read from a mapping, from itself,
and from an array of the vectors if these are flat. -/
theorem readings_agree {entries : List (Key × Value)} {points : List Point}
    (reflexive : ∀ entry ∈ entries, (entry.1 == entry.1) = true)
    (spelled : entries.mapM (fun entry => Point.ofValue entry.2) = .ok points) :
    ((∃ dataset, ofPairs (pairsOf entries) = .ok dataset) ↔
      Consistent (entries.map Prod.fst) points) ∧
    (∀ fault, ofPairs (pairsOf entries) = .error fault →
      Flaw (entries.map Prod.fst) points fault ∧ fault.kind = .configuration ∧
      ((∀ entry ∈ entries, entry.1.value.isWritable = true) → fault.reported = fault)) ∧
    ((¬ (entries.map Prod.fst).Pairwise fun earlier later => (earlier == later) = false) →
      ∃ key, ofPairs (pairsOf entries) = .error (.duplicateKey key)) ∧
    ∀ dataset, ofPairs (pairsOf entries) = .ok dataset →
      dataset.Holds (entries.map Prod.fst) points ∧
      ofMapping (pairsOf entries) = .ok dataset ∧ dataset.copy = .ok dataset ∧
      ((∀ entry ∈ entries, IsFlat entry.2) →
        ofArray (.list ((pairsOf entries).map Prod.snd))
          (some ((pairsOf entries).map Prod.fst)) = .ok dataset) := by
  rcases ofPairs_cases spelled with
    ⟨dataset, read, keys, isPoints, consistent⟩ | ⟨fault, failure, flaw⟩
  · have ownReflexive : ∀ key ∈ dataset.keys.keys, (key == key) = true := by
      rw [keys]
      exact List.forall_mem_map.mpr reflexive
    refine ⟨⟨fun _ => consistent, fun _ => ⟨dataset, read⟩⟩, ?_, ?_, ?_⟩
    · intro fault failure
      cases read.symm.trans failure
    · exact fun repeated => absurd consistent.different repeated
    · intro other alsoRead
      cases read.symm.trans alsoRead
      refine ⟨?_, ?_, ?_, ?_⟩
      · rw [← keys, ← isPoints]
        exact holds_own ownReflexive
      · rw [ofMapping_eq consistent.different, read]
      · exact copy_eq ownReflexive (keys ▸ consistent.nonempty)
      · intro flat
        rw [ofArray_eq consistent spelled flat, read]
  · refine ⟨⟨?_, fun consistent => absurd consistent flaw.not_consistent⟩, ?_, ?_, ?_⟩
    · rintro ⟨dataset, read⟩
      cases read.symm.trans failure
    · intro other alsoFailure
      cases failure.symm.trans alsoFailure
      refine ⟨flaw, flaw.kind_eq, ?_⟩
      intro writable
      exact flaw.reported_eq (List.forall_mem_map.mpr writable)
    · intro repeated
      cases flaw with
      | empty none => exact absurd (none ▸ List.Pairwise.nil) repeated
      | repeated => exact ⟨_, failure⟩
      | mismatch different => exact absurd different repeated
    · intro dataset read
      cases read.symm.trans failure

/-- Two points under the keys true and a text, and a number under the integer one. -/
def threeEntries : List (Key × Value) :=
  [(⟨.truth true, rfl⟩, .list [.ofInt 3, .number (.real 0.5)]),
    (⟨.text "second", rfl⟩, .list [.truth false, .ofInt (-2)]), (Key.ofInt 1, .ofInt 7)]

/-- The first two are read, and the key true is found as one. With the third, this is the key that
is reported, although the dimension is another one as well. -/
theorem readings_agree_two_keys :
    (∃ dataset, ofPairs (pairsOf (threeEntries.take 2)) = .ok dataset ∧
      dataset.rowOf (Key.ofInt 1) = .ok 0 ∧
      ofMapping (pairsOf (threeEntries.take 2)) = .ok dataset ∧ dataset.copy = .ok dataset ∧
      ofArray (.list ((pairsOf (threeEntries.take 2)).map Prod.snd))
        (some ((pairsOf (threeEntries.take 2)).map Prod.fst)) = .ok dataset) ∧
    ∃ key, ofPairs (pairsOf threeEntries) = .error (.duplicateKey key) := by
  have reflexive : ∀ entry ∈ threeEntries, (entry.1 == entry.1) = true := by decide
  have firstReflexive : ∀ entry ∈ threeEntries.take 2, (entry.1 == entry.1) = true := by decide
  constructor
  · have agree := readings_agree firstReflexive rfl
    rcases agree.1.mpr ⟨by decide, by decide, by decide⟩ with ⟨dataset, read⟩
    rcases agree.2.2.2 dataset read with ⟨holds, mapped, copied, fromArray⟩
    have flat : ∀ entry ∈ threeEntries.take 2, IsFlat entry.2 := by
      intro entry isEntry
      simp only [threeEntries, List.take_succ_cons, List.take_zero, List.mem_cons,
        List.not_mem_nil, or_false] at isEntry
      rcases isEntry with rfl | rfl
      all_goals exact ⟨_, rfl, by decide⟩
    have placed : dataset.rowOf (Key.ofInt 1) = .ok 0 := by
      apply KeySequence.position_eq_ok_iff.mpr
      rw [holds.keys]
      exact ⟨_, rfl, by decide⟩
    exact ⟨dataset, read, placed, mapped, copied, fromArray flat⟩
  · exact (readings_agree reflexive rfl).2.2.1 (by decide)

end Dataset

end CurveNeighbors
