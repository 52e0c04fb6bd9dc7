import CurveNeighbors.Proofs.Renaming.Building

/-!
# Curves over the same keys

Whether a curve visits certain keys is found out by counting them and by looking for
each of them. Since no key occurs twice in a sequence, this is enough: a sequence that
is as long as another one and has all its keys is a permutation of it. So curves make up
a set if they are permutations of one another, and an index with a dataset if they are
permutations of its keys.

The positions of a key are found by looking it up among the keys of the first curve.
That is so for every key of an index, and on each curve the positions of its keys are all
there are.
-/

namespace CurveNeighbors

namespace KeySequence

variable {sequence other third : KeySequence}

/-! ## Permutations -/

/-- Two sequences hold equal keys in some order. -/
def PermutationOf (sequence other : KeySequence) : Prop :=
  ∃ arrangement : List Key, arrangement.Perm sequence.keys ∧
    List.Forall₂ (fun left right => (left == right) = true) arrangement other.keys

/-- Equal keys of different keys are different. -/
theorem nodup_of_beq {arrangement keys : List Key}
    (different : keys.Pairwise fun earlier later => (earlier == later) = false)
    (each : List.Forall₂ (fun left right => (left == right) = true) arrangement keys) :
    arrangement.Nodup := by
  induction each with
  | nil => exact .nil
  | @cons left right arrangement keys same each ih =>
      rcases List.pairwise_cons.mp different with ⟨isNew, different⟩
      refine List.nodup_cons.mpr ⟨?_, ih different⟩
      intro again
      rcases exists_right_of_forall₂ each again with ⟨twin, isTwin, alsoSame⟩
      have twins : (right == twin) = true := BEq.trans (BEq.symm same) alsoSame
      rw [isNew twin isTwin] at twins
      cases twins

/-- Counting the keys and looking for each of them tells whether they are the same. -/
theorem covers_iff_permutationOf :
    sequence.covers other = true ↔ sequence.PermutationOf other := by
  rw [covers_iff]
  constructor
  · rintro ⟨size, within⟩
    rcases exists_forall₂ fun key isKey => contains_iff.mp (within key isKey) with
      ⟨arrangement, each⟩
    have same : List.Forall₂ (fun left right => (left == right) = true) arrangement other.keys :=
      (each.imp fun _ _ both => both.2).flip
    refine ⟨arrangement, ?_, same⟩
    have subset : arrangement ⊆ sequence.keys := by
      intro member isMember
      rcases exists_left_of_forall₂ each isMember with ⟨_, _, isThere, _⟩
      exact isThere
    apply (List.subperm_of_subset (nodup_of_beq other.distinct same) subset).perm_of_length_le
    rw [same.length_eq]
    exact Nat.le_of_eq size
  · rintro ⟨arrangement, perm, same⟩
    refine ⟨perm.length_eq.symm.trans same.length_eq, ?_⟩
    intro key isKey
    rcases exists_left_of_forall₂ same isKey with ⟨member, isMember, found⟩
    exact contains_iff.mpr ⟨member, perm.mem_iff.mp isMember, found⟩

theorem PermutationOf.symm (permutation : sequence.PermutationOf other) :
    other.PermutationOf sequence := by
  rw [← covers_iff_permutationOf] at permutation ⊢
  rw [covers_iff]
  exact ⟨(covers_iff.mp permutation).1.symm, fun _ isKey =>
    contains_of_mem_of_covers permutation isKey⟩

theorem PermutationOf.trans (first : sequence.PermutationOf other)
    (second : other.PermutationOf third) : sequence.PermutationOf third := by
  rw [← covers_iff_permutationOf] at first second ⊢
  rcases covers_iff.mp first with ⟨firstSize, _⟩
  rcases covers_iff.mp second with ⟨secondSize, within⟩
  refine covers_iff.mpr ⟨firstSize.trans secondSize, ?_⟩
  intro key isKey
  rw [contains_eq_of_covers first]
  exact within key isKey

end KeySequence

/-! ## Sets of curves -/

namespace CurveSet

variable {curves : List CurveOrder} {scaleFactors : List ScaleFactor} {sampleScale : ScaleFactor}
  {scaled : scaleFactors.length = curves.length} {set : CurveSet} {keys : KeySequence}
  {fault : Fault}

/-- Curves that are all permutations of the first are permutations of one another. -/
theorem pairwise_permutationOf_iff {first : CurveOrder} {rest : List CurveOrder} :
    ((first :: rest).Pairwise fun curve other => curve.order.PermutationOf other.order) ↔
      ∀ curve ∈ rest, first.order.covers curve.order = true := by
  simp only [List.pairwise_cons, KeySequence.covers_iff_permutationOf]
  constructor
  · exact And.left
  · intro alike
    refine ⟨alike, List.pairwise_of_forall_mem_list ?_⟩
    intro curve isCurve other isOther
    exact (alike curve isCurve).symm.trans (alike other isOther)

theorem exists_ofCurves_iff :
    (∃ set, ofCurves curves scaleFactors sampleScale scaled = .ok set ∧ set.curves = curves) ↔
      curves.Pairwise fun curve other => curve.order.PermutationOf other.order := by
  cases curves with
  | nil => exact ⟨fun _ => .nil, fun _ => ⟨_, rfl, rfl⟩⟩
  | cons first rest =>
      rw [pairwise_permutationOf_iff, ofCurves]
      constructor
      · rintro ⟨set, success, _⟩
        split at success
        · assumption
        · cases success
      · intro alike
        exact ⟨_, dif_pos alike, rfl⟩

theorem kind_of_ofCurves
    (failure : ofCurves curves scaleFactors sampleScale scaled = .error fault) :
    fault.kind = .configuration := by
  cases curves with
  | nil => cases failure
  | cons first rest =>
      rw [ofCurves] at failure
      split at failure
      · cases failure
      · cases failure
        rfl

/-- All scale factors for a number of curves and the scale of samples can be read. -/
def ScalesRead (scaleFactors sampleScale : Value) (count : Nat) : Prop :=
  ∃ given factors scale, ScaleFactor.given scaleFactors count = .ok given ∧
    ScaleFactor.readAll given.val = .ok factors ∧ ScaleFactor.read sampleScale = .ok scale

theorem build_of_scalesRead {scaleFactors sampleScale : Value}
    (areRead : ScalesRead scaleFactors sampleScale curves.length) :
    ∃ factors scale, ∃ scaled : factors.length = curves.length,
      build curves scaleFactors sampleScale = ofCurves curves factors scale scaled := by
  rcases areRead with ⟨given, factors, scale, isGiven, areRead, isRead⟩
  refine ⟨factors.val, scale, factors.property.trans given.property, ?_⟩
  rw [build, isGiven, Outcome.ok_bind, areRead, Outcome.ok_bind, isRead, Outcome.ok_bind]

theorem checkCovers_eq_ok_iff :
    set.checkCovers keys = .ok () ↔ ∀ curve ∈ set.curves, curve.order.PermutationOf keys := by
  constructor
  · intro covered curve isCurve
    exact KeySequence.covers_iff_permutationOf.mp (covers_of_checkCovers covered isCurve)
  · intro permutations
    have noneMisses : (set.curves.find? fun curve => !curve.order.covers keys) = none := by
      apply List.find?_eq_none.mpr
      intro curve isCurve
      simpa using KeySequence.covers_iff_permutationOf.mpr (permutations curve isCurve)
    rw [checkCovers, noneMisses]

theorem kind_of_checkCovers (failure : set.checkCovers keys = .error fault) :
    fault.kind = .configuration := by
  rw [checkCovers] at failure
  split at failure
  · cases failure
    rfl
  · cases failure

/-! ## The position cache -/

/-- A key with its positions on all curves. -/
def entryOf (set : CurveSet) (key : Key) : Outcome (Key × List Nat) := do
  let positions ← set.curves.mapM (·.position key)
  return (key, positions)

/-- The entries of the keys of the first curve. -/
def cache (set : CurveSet) : Outcome (List (Key × List Nat)) :=
  match set.curves with
  | [] => .ok []
  | first :: _ => first.order.keys.mapM set.entryOf

/-- The positions that are kept under a key. -/
def cached (cache : List (Key × List Nat)) (key : Key) : Outcome (List Nat) :=
  match cache.find? fun entry => entry.1 == key with
  | some entry => .ok entry.2
  | none => .error (.unknownKey key)

theorem entryOf_eq_ok_iff (some : set.curves ≠ []) {key : Key} {entry : Key × List Nat} :
    set.entryOf key = .ok entry ↔ entry.1 = key ∧ set.positionsOf key = .ok entry.2 := by
  rw [positionsOf, if_neg (by simpa using some), entryOf, Outcome.bind_eq_ok]
  constructor
  · rintro ⟨positions, found, isEntry⟩
    cases isEntry
    exact ⟨rfl, found⟩
  · rintro ⟨rfl, found⟩
    exact ⟨entry.2, found, rfl⟩

theorem positionsOf_congr {left right : Key} {positions : List Nat}
    (same : (left == right) = true) (found : set.positionsOf left = .ok positions) :
    set.positionsOf right = .ok positions := by
  rw [positionsOf] at found ⊢
  split at found
  · cases found
  · next some =>
      rw [if_neg some]
      apply Outcome.mapM_of_forall₂
      exact (Outcome.forall₂_of_mapM found).imp fun _ _ isPlace =>
        KeySequence.position_congr same isPlace

theorem positionsOf_of_not_contains {first : CurveOrder} {rest : List CurveOrder} {key : Key}
    (areCurves : set.curves = first :: rest) (missing : first.order.contains key = false) :
    set.positionsOf key = .error (.unknownKey key) := by
  have unplaced : first.position key = .error (.unknownKey key) :=
    KeySequence.position_of_not_contains missing
  rw [positionsOf, areCurves, if_neg (by simp), Outcome.mapM_cons, unplaced, Outcome.error_bind]

/-- What is kept under the keys of the first curve are the positions of every key, also of one that
is not there. -/
theorem exists_cache (covered : set.checkCovers keys = .ok ()) :
    ∃ cache, set.cache = .ok cache ∧ ∀ key, cached cache key = set.positionsOf key := by
  cases areCurves : set.curves with
  | nil =>
      refine ⟨[], by rw [cache, areCurves], ?_⟩
      intro key
      rw [positionsOf, areCurves]
      rfl
  | cons first rest =>
      have isCurve : first ∈ set.curves := by
        rw [areCurves]
        exact List.mem_cons_self
      have some : set.curves ≠ [] := List.ne_nil_of_mem isCurve
      have entries : ∀ key ∈ first.order.keys, ∃ entry, set.entryOf key = .ok entry := by
        intro key isKey
        have present := KeySequence.contains_of_mem_of_covers
          (covers_of_checkCovers covered isCurve) isKey
        rcases exists_positionsOf covered some present with ⟨positions, found, _⟩
        exact ⟨(key, positions), (entryOf_eq_ok_iff some).mpr ⟨rfl, found⟩⟩
      rcases Outcome.exists_mapM entries with ⟨cache, success⟩
      have each := Outcome.forall₂_of_mapM success
      refine ⟨cache, ?_, ?_⟩
      · rw [CurveSet.cache, areCurves]
        exact success
      intro key
      rw [cached]
      split
      · next entry isFound =>
          rcases exists_left_of_forall₂ each (List.mem_of_find?_eq_some isFound) with
            ⟨holder, _, isEntry⟩
          rcases (entryOf_eq_ok_iff some).mp isEntry with ⟨rfl, found⟩
          have same := List.find?_some isFound
          exact (positionsOf_congr same found).symm
      · next noneFound =>
          refine (positionsOf_of_not_contains areCurves ?_).symm
          rw [← Bool.not_eq_true, KeySequence.contains_iff]
          rintro ⟨member, isMember, same⟩
          rcases exists_right_of_forall₂ each isMember with ⟨entry, isThere, isEntry⟩
          rcases (entryOf_eq_ok_iff some).mp isEntry with ⟨rfl, _⟩
          exact List.find?_eq_none.mp noneFound entry isThere same

end CurveSet

/-! ## Indexes -/

namespace Index

variable {dataset : Dataset} {set : CurveSet} {distance : Distance} {arrangement : Arrangement}
  {index : Index} {curve : Nat} {order : CurveOrder} {key : Key} {fault : Fault}

theorem exists_ofCurves_iff :
    (∃ index, ofCurves dataset set distance arrangement = .ok index ∧ index.dataset = dataset ∧
      index.curves = set ∧ index.distance = distance) ↔
      dataset.size ≠ 0 ∧ ∀ curve ∈ set.curves, curve.order.PermutationOf dataset.keys := by
  rw [← CurveSet.checkCovers_eq_ok_iff]
  constructor
  · rintro ⟨index, _, rfl, rfl, _⟩
    exact ⟨index.nonempty, index.covered⟩
  · rintro ⟨nonempty, covered⟩
    exact ⟨_, ofCurves_eq_ok distance arrangement nonempty covered, rfl, rfl, rfl⟩

theorem kind_of_ofCurves (failure : ofCurves dataset set distance arrangement = .error fault) :
    fault.kind = .configuration := by
  rw [ofCurves] at failure
  split at failure
  · split at failure
    · cases failure
    · next other =>
        cases failure
        exact CurveSet.kind_of_checkCovers other
  · cases failure
    rfl

/-- The position of a key on a curve, among its positions on all curves. -/
def positionOn (index : Index) (curve : Nat) (key : Key) : Outcome Nat := do
  let positions ← index.positionsOf key
  Sequence.itemAt positions curve

theorem exists_positionOn (isCurve : index.curves.curves[curve]? = some order)
    (indexed : index.dataset.contains key = true) :
    ∃ place, index.positionOn curve key = .ok place ∧ order.position key = .ok place := by
  rcases exists_positionsOf indexed with ⟨positions, found, each⟩
  rcases exists_getElem?_of_forall₂ each isCurve with ⟨place, isPlace, there⟩
  refine ⟨place, ?_, there⟩
  rw [positionOn, found, Outcome.ok_bind, Sequence.itemAt_of_getElem? isPlace]

/-- The positions that the keys of a dataset have on a curve are all its positions, each once. -/
theorem exists_places (isCurve : index.curves.curves[curve]? = some order) :
    ∃ places, index.dataset.keys.keys.mapM (index.positionOn curve) = .ok places ∧
      places.Perm (List.range index.dataset.size) := by
  have covers := covers_of_curve (List.mem_of_getElem? isCurve)
  rcases KeySequence.covers_iff.mp covers with ⟨size, within⟩
  have placed : ∀ key ∈ index.dataset.keys.keys, ∃ place, index.positionOn curve key = .ok place ∧
      order.order.position? key = some place := by
    intro key isKey
    have indexed := within key isKey
    rw [KeySequence.contains_eq_of_covers covers] at indexed
    rcases exists_positionOn isCurve indexed with ⟨place, found, there⟩
    exact ⟨place, found, KeySequence.position_eq_ok.mp there⟩
  refine ⟨_, Outcome.mapM_eq_filterMap placed, ?_⟩
  have perm := KeySequence.positionsIn_perm within (Nat.le_of_eq size)
  rwa [show order.order.size = index.dataset.size from size] at perm

/-- Curves make up a set if and only if they are permutations of one another, and an index if and
only if they are permutations of the keys of its dataset; otherwise the configuration is at fault.
In an index, what is looked up among the keys of the first curve are the positions of a key on all
curves, the same key stands there, which compares as equal unless the key does not even equal
itself, and on every curve the keys take all positions once. -/
theorem coverage_is_exact :
    (∀ curves scaleFactors sampleScale,
      CurveSet.ScalesRead scaleFactors sampleScale curves.length →
      ((∃ set, CurveSet.build curves scaleFactors sampleScale = .ok set ∧ set.curves = curves) ↔
        curves.Pairwise fun curve other => curve.order.PermutationOf other.order) ∧
      ∀ fault, CurveSet.build curves scaleFactors sampleScale = .error fault →
        fault.kind = .configuration) ∧
    (∀ dataset set distance arrangement,
      ((∃ index, ofCurves dataset set distance arrangement = .ok index ∧
        index.dataset = dataset ∧ index.curves = set ∧ index.distance = distance) ↔
        dataset.size ≠ 0 ∧ ∀ curve ∈ set.curves, curve.order.PermutationOf dataset.keys) ∧
      ∀ fault, ofCurves dataset set distance arrangement = .error fault →
        fault.kind = .configuration) ∧
    ∀ index : Index,
      (∃ cache, index.curves.cache = .ok cache ∧
        ∀ key, CurveSet.cached cache key = index.curves.positionsOf key) ∧
      (∀ key, index.dataset.contains key = true →
        ∃ positions, index.positionsOf key = .ok positions ∧
          positions.length = index.curves.size ∧
          ∀ (curve : Nat) order, index.curves.curveAt curve = .ok order →
            ∃ (place : Nat) (holder : Key), positions[curve]? = some place ∧
              order.position key = .ok place ∧ order.keyAt place = .ok holder ∧
              (holder == key) = true ∧
              (key.equals key = true → holder.equals key = true)) ∧
      ∀ (curve : Nat) order, index.curves.curveAt curve = .ok order →
        ∃ places, index.dataset.keys.keys.mapM (index.positionOn curve) = .ok places ∧
          places.Perm (List.range index.dataset.size) := by
  refine ⟨?_, fun _ _ _ _ => ⟨exists_ofCurves_iff, fun _ => kind_of_ofCurves⟩, ?_⟩
  · intro curves scaleFactors sampleScale areRead
    rcases CurveSet.build_of_scalesRead areRead with ⟨factors, scale, scaled, isBuilt⟩
    rw [isBuilt]
    exact ⟨CurveSet.exists_ofCurves_iff, fun _ => CurveSet.kind_of_ofCurves⟩
  · intro index
    refine ⟨CurveSet.exists_cache index.covered, ?_, ?_⟩
    · intro key indexed
      rcases exists_positionsOf indexed with ⟨positions, found, each⟩
      refine ⟨positions, found, each.length_eq.symm, ?_⟩
      intro curve order isCurve
      rcases exists_getElem?_of_forall₂ each (Sequence.getElem?_of_itemAt isCurve) with
        ⟨place, isPlace, there⟩
      rcases KeySequence.position_eq_ok_iff.mp there with ⟨holder, isHolder, same⟩
      refine ⟨place, holder, isPlace, there, Sequence.itemAt_of_getElem? isHolder, same, ?_⟩
      intro reflexive
      rw [Key.equals_eq_beq reflexive, same]
    · intro curve order isCurve
      exact exists_places (Sequence.getElem?_of_itemAt isCurve)

/-- The keys one and two, in either order, where one may also be written as true. -/
theorem coverage_is_exact_equal_keys :
    ∃ curves set, curves.map CurveOrder.length = [2, 2] ∧
      CurveSet.build curves .null (.ofInt 1) = .ok set ∧ set.curves = curves := by
  let curves : List CurveOrder := [⟨.null, [Key.ofInt 1, Key.ofInt 2], by decide⟩,
    ⟨.null, [Key.ofInt 2, ⟨.truth true, rfl⟩], by decide⟩]
  have areRead : CurveSet.ScalesRead .null (.ofInt 1) curves.length := ⟨_, _, _, rfl, rfl, rfl⟩
  have permutations : curves.Pairwise fun curve other => curve.order.PermutationOf other.order :=
    CurveSet.pairwise_permutationOf_iff.mpr (by decide)
  rcases (coverage_is_exact.1 _ _ _ areRead).1.mpr permutations with ⟨set, isBuilt, areCurves⟩
  exact ⟨curves, set, rfl, isBuilt, areCurves⟩

end Index

end CurveNeighbors
