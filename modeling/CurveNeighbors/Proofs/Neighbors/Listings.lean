import CurveNeighbors.Proofs.Neighbors.Recall
import CurveNeighbors.Proofs.Number.Rounding

/-!
# Listing true neighbours

The recall looks at the true neighbours as a set: it is the share of the keys that are in
this set and among the candidates, however often and in whatever order they are listed.
Listed with their distances, all keys are recognised.

Listed alone, a key that is itself a tuple of two with a number behind is taken for
another key with its distance. That never goes unnoticed: keys of this form can be nested
only finitely often, and the outermost of them is missed when it is the only candidate.
So keys may be listed alone exactly if there is none of this form among them.
-/

namespace CurveNeighbors

/-! ## Keys in common -/

/-- The keys that are among some keys and among some candidates, each of them once. -/
structure IsCommon (keys candidates : List Key) (common : KeySequence) : Prop where
  within : ∀ key ∈ common.keys,
    keys.any (· == key) = true ∧ candidates.any (· == key) = true
  complete : ∀ key, keys.any (· == key) = true → candidates.any (· == key) = true →
    common.contains key = true

/-- However they are arranged, there are equally many keys in common. -/
theorem IsCommon.size_eq {keys candidates : List Key} {common other : KeySequence}
    (isCommon : IsCommon keys candidates common) (alsoCommon : IsCommon keys candidates other) :
    common.size = other.size := by
  have contained {first second : KeySequence} (isFirst : IsCommon keys candidates first)
      (isSecond : IsCommon keys candidates second) : first.size ≤ second.size := by
    apply KeySequence.size_le_of_within
    intro key isKey
    rcases isFirst.within key isKey with ⟨isNeighbor, isCandidate⟩
    exact isSecond.complete key isNeighbor isCandidate
  exact Nat.le_antisymm (contained isCommon alsoCommon) (contained alsoCommon isCommon)

def commonKeys (keys candidates : List Key) : KeySequence where
  keys := (KeySequence.empty.insertAll keys).keys.filter fun key => candidates.any (· == key)
  distinct := (KeySequence.empty.insertAll keys).distinct.filter _

section

variable {keys others candidates more : List Key}

theorem contains_commonKeys (key : Key) :
    (commonKeys keys candidates).contains key =
      (keys.any (· == key) && candidates.any (· == key)) := by
  have all := KeySequence.contains_insertAll KeySequence.empty keys key
  have none : KeySequence.empty.contains key = false := rfl
  rw [none, Bool.false_or] at all
  rw [← all, Bool.eq_iff_iff, Bool.and_eq_true, KeySequence.contains_iff, KeySequence.contains_iff]
  simp only [commonKeys, List.mem_filter]
  constructor
  · rintro ⟨member, ⟨isMember, isCandidate⟩, same⟩
    refine ⟨⟨member, isMember, same⟩, ?_⟩
    rcases List.any_eq_true.mp isCandidate with ⟨candidate, isCandidate, found⟩
    exact List.any_eq_true.mpr ⟨candidate, isCandidate, BEq.trans found same⟩
  · rintro ⟨⟨member, isMember, same⟩, isCandidate⟩
    refine ⟨member, ⟨isMember, ?_⟩, same⟩
    rcases List.any_eq_true.mp isCandidate with ⟨candidate, isCandidate, found⟩
    exact List.any_eq_true.mpr ⟨candidate, isCandidate, BEq.trans found (BEq.symm same)⟩

theorem isCommon_commonKeys : IsCommon keys candidates (commonKeys keys candidates) where
  within key isKey := by
    rcases List.mem_filter.mp isKey with ⟨isMember, isCandidate⟩
    rcases List.any_eq_true.mp isCandidate with ⟨candidate, _, found⟩
    have own : (commonKeys keys candidates).contains key = true :=
      KeySequence.contains_iff.mpr ⟨key, isKey, Key.beq_self_of_beq (BEq.symm found)⟩
    simpa [contains_commonKeys] using own
  complete key isNeighbor isCandidate := by
    rw [contains_commonKeys, isNeighbor, isCandidate]
    rfl

theorem IsCommon.congr {common : KeySequence} (isCommon : IsCommon keys candidates common)
    (sameKeys : ∀ key, keys.any (· == key) = others.any (· == key))
    (sameCandidates : ∀ key, candidates.any (· == key) = more.any (· == key)) :
    IsCommon others more common where
  within key isKey := by
    rw [← sameKeys, ← sameCandidates]
    exact isCommon.within key isKey
  complete key := by
    rw [← sameKeys, ← sameCandidates]
    exact isCommon.complete key

theorem size_commonKeys_le (grown : ∀ key, candidates.any (· == key) = true →
      more.any (· == key) = true) :
    (commonKeys keys candidates).size ≤ (commonKeys keys more).size := by
  apply KeySequence.size_le_of_within
  intro key isKey
  rcases isCommon_commonKeys.within key isKey with ⟨isNeighbor, isCandidate⟩
  exact isCommon_commonKeys.complete key isNeighbor (grown key isCandidate)

end

/-! ## Shares -/

/-- The double that a number of keys in common is as a share of a number of neighbours. -/
def shareOf (found : Nat) (count : Int) : Outcome Float := do
  return cappedShare found (← roundedCount (.whole count))

theorem shareOf_eq {found : Nat} {count : Int} (positive : 0 < count) (small : count ≤ 2 ^ 53) :
    shareOf found count =
      .ok (Binary64.nearest false (min found count.toNat) count.toNat) := by
  rcases Int.eq_ofNat_of_zero_le positive.le with ⟨capacity, rfl⟩
  rw [shareOf, roundedCount_whole (by omega) (by omega)]
  simp [cappedShare]

/-- Only of a number of neighbours beyond the doubles there is no share. -/
theorem exists_shareOf_iff {found : Nat} {count : Int} (positive : 0 < count) :
    (∃ share, shareOf found count = .ok share) ↔ count < Binary64.overflowBound := by
  rcases Int.eq_ofNat_of_zero_le positive.le with ⟨capacity, rfl⟩
  rw [← not_le, Int.ofNat_le, ← Binary64.ofInt?_eq_none_iff, shareOf, roundedCount,
    Number.toFloat?]
  cases Binary64.ofInt? capacity <;> simp

theorem cappedShare_atMost {fewer more : Nat} (whole : ExactValue) (ordered : fewer ≤ more) :
    (Number.real (cappedShare fewer whole)).atMost (.real (cappedShare more whole)) = true := by
  cases whole with
  | finite whole =>
      rcases Nat.eq_zero_or_pos whole.num.toNat with none | some
      · simp only [cappedShare, none, Nat.min_zero]
        exact Binary64.atMost_of_place_le (by decide) (by decide) le_rfl
      · apply Binary64.nearest_atMost some
        exact min_le_min_right _ (Nat.mul_le_mul_right _ ordered)
  | _ => exact Binary64.nearest_atMost Nat.one_pos le_rfl

/-- The share of more keys is no smaller. -/
theorem exists_shareOf_atMost {fewer more : Nat} {count : Int} {share : Float}
    (ordered : fewer ≤ more) (isShare : shareOf fewer count = .ok share) :
    ∃ larger, shareOf more count = .ok larger ∧
      (Number.real share).atMost (.real larger) = true := by
  rcases Outcome.bind_eq_ok.mp isShare with ⟨whole, isWhole, isShare⟩
  cases isShare
  refine ⟨cappedShare more whole, ?_, cappedShare_atMost whole ordered⟩
  rw [shareOf, isWhole]
  rfl

/-! ## Listed keys -/

section

variable {listing : List Value} {keys candidates : List Key} {count : Int}
  (listed : (listing.map listedKey).mapM Value.toKey = .ok keys)

include listed

theorem foundCount_of_listed :
    foundCount listing (candidates.map Key.value) = .ok (commonKeys keys candidates).size := by
  have found : (KeySequence.empty.insertAll keys).keys.countP
      (fun key => candidates.any (· == key)) = (commonKeys keys candidates).size :=
    List.countP_eq_length_filter
  rw [foundCount, KeySequence.ofValues, listed, Key.mapM_toKey]
  exact congrArg Except.ok found

theorem candidateRecall_of_listed (positive : 0 < count) :
    candidateRecall listing (candidates.map Key.value) (.ofInt count) =
      shareOf (commonKeys keys candidates).size count := by
  rw [candidateRecall, readNeighborCount_of_positive positive, Outcome.ok_bind,
    foundCount_of_listed listed, Outcome.ok_bind]
  rfl

theorem exactRecall_of_listed :
    exactRecall listing (candidates.map Key.value) count =
      .ok (min 1 ((commonKeys keys candidates).size / count)) := by
  rw [exactRecall, foundCount_of_listed listed]
  rfl

end

/-- Keys with their distances. -/
def withDistances (keys : List Key) (distances : List Number) : List Value :=
  List.zipWith (fun key distance => .tuple [key.value, .number distance]) keys distances

theorem map_listedKey_withDistances {keys : List Key} {distances : List Number}
    (aligned : distances.length = keys.length) :
    (withDistances keys distances).map listedKey = keys.map Key.value := by
  induction keys generalizing distances with
  | nil => simp [withDistances]
  | cons key keys ih =>
      cases distances with
      | nil => simp at aligned
      | cons distance distances =>
          have rest := ih (Nat.succ.inj aligned)
          simpa [withDistances, listedKey] using rest

/-! ## Keys that look like listings -/

namespace Value

/-- Whether a value is taken for a key with its distance. -/
def isListing : Value → Bool
  | .tuple [_, distance] => distance.number?.isSome
  | _ => false

/-- How often a key can be taken from a value as if it were one with its distance. -/
def listingDepth : Value → Nat
  | .tuple [key, distance] => if distance.number?.isSome then key.listingDepth + 1 else 0
  | _ => 0

theorem isListing_iff {value : Value} : value.isListing = true ↔ 0 < value.listingDepth := by
  fun_cases isListing value with
  | case1 key distance => cases found : distance.number? <;> simp [listingDepth, found]
  | case2 => simp_all [listingDepth]

theorem listedKey_of_not_isListing {value : Value} (alone : value.isListing = false) :
    listedKey value = value := by
  fun_cases isListing value with
  | case1 key distance => cases distance <;> simp_all [isListing, number?, listedKey]
  | case2 => simp_all [listedKey]

/-- The key that is taken from a value has one fewer key to be taken from it. -/
theorem listingDepth_listedKey {value : Value} (isListing : value.isListing = true) :
    (listedKey value).listingDepth + 1 = value.listingDepth := by
  fun_cases Value.isListing value with
  | case1 key distance =>
      cases distance <;> simp_all [Value.isListing, number?, listedKey, listingDepth]
  | case2 => simp_all [Value.isListing]

theorem isSome_number?_congr {left right : Value} (same : left.same right = true) :
    left.number?.isSome = right.number?.isSome := by
  cases left <;> cases right <;> simp_all [Value.same, number?]

/-- Only pairs are the same as pairs, and then their items are. -/
theorem same_pair_cases {left right : Value} (same : left.same right = true) :
    (∃ key distance other another, left = .tuple [key, distance] ∧ right = .tuple [other, another] ∧
      key.same other = true ∧ distance.same another = true) ∨
    ((∀ key distance, left ≠ .tuple [key, distance]) ∧
      ∀ key distance, right ≠ .tuple [key, distance]) := by
  cases left <;> cases right <;> simp_all [Value.same, number?]
  next items others =>
    rcases items with _ | ⟨key, _ | ⟨distance, _ | ⟨third, rest⟩⟩⟩ <;>
      rcases others with _ | ⟨other, _ | ⟨another, _ | ⟨last, others⟩⟩⟩ <;>
        simp_all [sameItems]

theorem listingDepth_congr {left right : Value} (same : left.same right = true) :
    left.listingDepth = right.listingDepth := by
  fun_induction listingDepth left generalizing right with
  | case1 key distance isNumber ih =>
      rcases same_pair_cases same with
        ⟨_, _, other, another, ⟨⟩, rfl, sameKey, sameDistance⟩ | ⟨none, _⟩
      · rw [isSome_number?_congr sameDistance] at isNumber
        simp [listingDepth, isNumber, ih sameKey]
      · simp at none
  | case2 key distance notNumber =>
      rcases same_pair_cases same with
        ⟨_, _, other, another, ⟨⟩, rfl, sameKey, sameDistance⟩ | ⟨none, _⟩
      · rw [isSome_number?_congr sameDistance] at notNumber
        simp [listingDepth, notNumber]
      · simp at none
  | case3 left noPair =>
      rcases same_pair_cases same with ⟨key, distance, _, _, rfl, _⟩ | ⟨_, none⟩
      · simp at noPair
      · fun_cases listingDepth right <;> simp_all

theorem isHashable_listedKey {value : Value} (hashable : value.isHashable = true) :
    (listedKey value).isHashable = true := by
  cases alone : value.isListing with
  | false => rwa [listedKey_of_not_isListing alone]
  | true =>
      fun_cases Value.isListing value with
      | case1 key distance =>
          cases distance <;> simp_all [isListing, number?, listedKey, isHashable, allHashable]
      | case2 => simp_all [isListing]

end Value

/-! ## Keys listed alone -/

/-- What a key is taken for when it is listed alone. -/
def Key.takenAlone (key : Key) : Key :=
  ⟨listedKey key.value, Value.isHashable_listedKey key.hashable⟩

section

variable {keys candidates : List Key} {distances : List Number}

theorem map_listedKey_alone (keys : List Key) :
    (keys.map Key.value).map listedKey = (keys.map Key.takenAlone).map Key.value := by
  rw [List.map_map, List.map_map]
  rfl

theorem map_listedKey_of_not_isListing (alone : ∀ key ∈ keys, key.value.isListing = false) :
    (keys.map Key.value).map listedKey = keys.map Key.value := by
  rw [List.map_map]
  apply List.map_congr_left
  intro key isKey
  exact Value.listedKey_of_not_isListing (alone key isKey)

theorem candidateRecall_congr {listing other : List Value}
    (same : listing.map listedKey = other.map listedKey) (candidates : List Value) (count : Value) :
    candidateRecall listing candidates count = candidateRecall other candidates count := by
  simp only [candidateRecall, foundCount, same]

theorem listed_withDistances (aligned : distances.length = keys.length) :
    ((withDistances keys distances).map listedKey).mapM Value.toKey = .ok keys := by
  rw [map_listedKey_withDistances aligned, Key.mapM_toKey]

theorem listed_alone (keys : List Key) :
    ((keys.map Key.value).map listedKey).mapM Value.toKey = .ok (keys.map Key.takenAlone) := by
  rw [map_listedKey_alone, Key.mapM_toKey]

theorem size_commonKeys_pos_iff {candidate : Key} :
    0 < (commonKeys keys [candidate]).size ↔ keys.any (· == candidate) = true := by
  have common : (commonKeys keys [candidate]).contains candidate =
      (keys.any (· == candidate) && candidate == candidate) := by
    simp [contains_commonKeys]
  constructor
  · intro some
    rcases List.exists_mem_of_length_pos some with ⟨key, isKey⟩
    rcases isCommon_commonKeys.within key isKey with ⟨isNeighbor, isCandidate⟩
    have same : (candidate == key) = true := by simpa using isCandidate
    rcases List.any_eq_true.mp isNeighbor with ⟨neighbor, isMember, found⟩
    exact List.any_eq_true.mpr ⟨neighbor, isMember, BEq.trans found (BEq.symm same)⟩
  · intro isNeighbor
    rcases List.any_eq_true.mp isNeighbor with ⟨neighbor, _, found⟩
    rw [isNeighbor, Key.beq_self_of_beq (BEq.symm found)] at common
    rcases KeySequence.contains_iff.mp common with ⟨member, isMember, _⟩
    exact List.length_pos_of_mem isMember

/-- Of a single candidate either all or nothing is found. -/
theorem shareOf_one_inj {fewer more : Nat} (same : shareOf fewer 1 = shareOf more 1) :
    0 < fewer ↔ 0 < more := by
  have oneIf (found : Nat) : ∃ value, (shareOf found 1).map Binary64.exact = .ok (.finite value) ∧
      (value = 1 ↔ 0 < found) := by
    rcases Binary64.exists_exact_nearest (min_le_right found 1) one_pos (by decide) with
      ⟨value, isValue, isOne⟩
    refine ⟨value, ?_, isOne.trans (by omega)⟩
    rw [shareOf_eq one_pos (by decide), ← isValue]
    rfl
  rcases oneIf fewer with ⟨value, isValue, isOne⟩
  rcases oneIf more with ⟨other, isOther, alsoOne⟩
  rw [same, isOther] at isValue
  cases isValue
  exact isOne.symm.trans alsoOne

/-- If a key that looks like a listing is found when it is listed alone, another one does so even
more often. -/
theorem exists_deeper (aligned : distances.length = keys.length) {key : Key} (isKey : key ∈ keys)
    (own : (key == key) = true) (isListing : key.value.isListing = true)
    (agree : candidateRecall (keys.map Key.value) [key.value] (.ofInt 1) =
      candidateRecall (withDistances keys distances) [key.value] (.ofInt 1)) :
    ∃ deeper ∈ keys, deeper.value.listingDepth = key.value.listingDepth + 1 := by
  rw [← List.map_singleton] at agree
  have paired : candidateRecall (withDistances keys distances) ([key].map Key.value) (.ofInt 1) =
      shareOf (commonKeys keys [key]).size 1 :=
    candidateRecall_of_listed (listed_withDistances aligned) one_pos
  have alone : candidateRecall (keys.map Key.value) ([key].map Key.value) (.ofInt 1) =
      shareOf (commonKeys (keys.map Key.takenAlone) [key]).size 1 :=
    candidateRecall_of_listed (listed_alone keys) one_pos
  rw [paired, alone] at agree
  have isFound : keys.any (· == key) = true := List.any_eq_true.mpr ⟨key, isKey, own⟩
  have isFoundAlone := (size_commonKeys_pos_iff.symm.trans (shareOf_one_inj agree)).mpr
    (size_commonKeys_pos_iff.mpr isFound)
  rcases List.any_eq_true.mp isFoundAlone with ⟨taken, isTaken, same⟩
  rcases List.mem_map.mp isTaken with ⟨deeper, isDeeper, rfl⟩
  have depths : (listedKey deeper.value).listingDepth = key.value.listingDepth :=
    Value.listingDepth_congr same
  cases looks : deeper.value.isListing with
  | true => exact ⟨deeper, isDeeper, by rw [← Value.listingDepth_listedKey looks, depths]⟩
  | false =>
      rw [Value.listedKey_of_not_isListing looks] at depths
      rw [Value.isListing_iff, ← depths, ← Value.isListing_iff, looks] at isListing
      cases isListing

/-- Keys that are found whenever they are listed alone do not look like listings. -/
theorem not_isListing_of_agree (aligned : distances.length = keys.length)
    (own : ∀ key ∈ keys, (key == key) = true)
    (agree : ∀ key ∈ keys, candidateRecall (keys.map Key.value) [key.value] (.ofInt 1) =
      candidateRecall (withDistances keys distances) [key.value] (.ofInt 1)) :
    ∀ key ∈ keys, key.value.isListing = false := by
  intro key isKey
  by_contra isListing
  have isListing : key.value.isListing = true := by simpa using isListing
  -- From each such key another one is reached, so there is one beyond any depth.
  have unbounded : ∀ bound, ∃ deeper ∈ keys, bound < deeper.value.listingDepth := by
    intro bound
    induction bound with
    | zero => exact ⟨key, isKey, Value.isListing_iff.mp isListing⟩
    | succ bound ih =>
        rcases ih with ⟨deep, isDeep, above⟩
        have looks := Value.isListing_iff.mpr (Nat.zero_lt_of_lt above)
        rcases exists_deeper aligned isDeep (own deep isDeep) looks (agree deep isDeep) with
          ⟨deeper, isDeeper, depth⟩
        exact ⟨deeper, isDeeper, by omega⟩
  let depths := keys.map fun key => key.value.listingDepth
  rcases unbounded depths.sum with ⟨deeper, isDeeper, above⟩
  have limited := List.single_le_sum (fun _ _ => Nat.zero_le _) deeper.value.listingDepth
    (List.mem_map_of_mem (f := fun key : Key => key.value.listingDepth) isDeeper)
  exact absurd limited (Nat.not_le.mpr above)

end

/-! ## The recall of a set of keys -/

/-- The recall of what is listed is the share of some keys that are among the candidates. It is
rounded once if the number of neighbours is a double, and never falls when there are more
candidates. -/
structure MeasuresKeys (listing : List Value) (keys : List Key) : Prop where
  share : ∀ (candidates : List Key) (count : Int), 0 < count →
    ∃ common, IsCommon keys candidates common ∧
      exactRecall listing (candidates.map Key.value) count = .ok (min 1 (common.size / count)) ∧
      candidateRecall listing (candidates.map Key.value) (.ofInt count) =
        shareOf common.size count ∧
      (count ≤ 2 ^ 53 → shareOf common.size count =
        .ok (Binary64.nearest false (min common.size count.toNat) count.toNat)) ∧
      ((∃ share, shareOf common.size count = .ok share) ↔ count < Binary64.overflowBound)
  grows : ∀ (candidates more : List Key) (count : Int), 0 < count →
    (∀ key, candidates.any (· == key) = true → more.any (· == key) = true) →
    ∀ share, candidateRecall listing (candidates.map Key.value) (.ofInt count) = .ok share →
      ∃ larger, candidateRecall listing (more.map Key.value) (.ofInt count) = .ok larger ∧
        (Number.real share).atMost (.real larger) = true

theorem measuresKeys_of_listed {listing : List Value} {keys : List Key}
    (listed : (listing.map listedKey).mapM Value.toKey = .ok keys) : MeasuresKeys listing keys where
  share candidates count positive :=
    ⟨commonKeys keys candidates, isCommon_commonKeys, exactRecall_of_listed listed,
      candidateRecall_of_listed listed positive, shareOf_eq positive, exists_shareOf_iff positive⟩
  grows candidates more count positive grown share isShare := by
    rw [candidateRecall_of_listed listed positive] at isShare ⊢
    exact exists_shareOf_atMost (size_commonKeys_le grown) isShare

/-- Listings of the same set of keys have the same recall. -/
theorem MeasuresKeys.recall_eq {listing other : List Value} {keys others candidates more : List Key}
    {count : Int} (measures : MeasuresKeys listing keys) (alsoMeasures : MeasuresKeys other others)
    (sameKeys : ∀ key, keys.any (· == key) = others.any (· == key))
    (sameCandidates : ∀ key, candidates.any (· == key) = more.any (· == key))
    (positive : 0 < count) :
    candidateRecall listing (candidates.map Key.value) (.ofInt count) =
      candidateRecall other (more.map Key.value) (.ofInt count) := by
  rcases measures.share candidates count positive with ⟨common, isCommon, _, isRecall, _⟩
  rcases alsoMeasures.share more count positive with ⟨alsoCommon, isAlso, _, alsoRecall, _⟩
  rw [isRecall, alsoRecall, (isCommon.congr sameKeys sameCandidates).size_eq isAlso]

/-- Listed with their distances, keys are measured as a set: neither repetition nor order counts.
Listed alone, they are measured as what they are taken for, and this is the same if none of them
looks like a key with its distance, and only then. -/
theorem recall_of_listed_keys {keys : List Key} {distances : List Number}
    (aligned : distances.length = keys.length) :
    MeasuresKeys (withDistances keys distances) keys ∧
    MeasuresKeys (keys.map Key.value) (keys.map Key.takenAlone) ∧
    (∀ (others : List Key) (otherDistances : List Number) (candidates more : List Key) (count : Int),
      otherDistances.length = others.length →
      (∀ key, keys.any (· == key) = others.any (· == key)) →
      (∀ key, candidates.any (· == key) = more.any (· == key)) → 0 < count →
      candidateRecall (withDistances keys distances) (candidates.map Key.value) (.ofInt count) =
        candidateRecall (withDistances others otherDistances) (more.map Key.value)
          (.ofInt count)) ∧
    ((∀ key ∈ keys, key.value.isListing = false) → ∀ candidates count,
      candidateRecall (keys.map Key.value) candidates count =
        candidateRecall (withDistances keys distances) candidates count) ∧
    ((∀ key ∈ keys, (key == key) = true) →
      (∀ candidates : List Key,
        candidateRecall (keys.map Key.value) (candidates.map Key.value) (.ofInt 1) =
          candidateRecall (withDistances keys distances) (candidates.map Key.value) (.ofInt 1)) →
      ∀ key ∈ keys, key.value.isListing = false) := by
  have measures := measuresKeys_of_listed (listed_withDistances aligned)
  refine ⟨measures, measuresKeys_of_listed (listed_alone keys), ?_, ?_, ?_⟩
  · intro others otherDistances candidates more count alsoAligned sameKeys sameCandidates positive
    have alsoMeasures := measuresKeys_of_listed (listed_withDistances alsoAligned)
    exact measures.recall_eq alsoMeasures sameKeys sameCandidates positive
  · intro alone candidates count
    apply candidateRecall_congr
    rw [map_listedKey_of_not_isListing alone, map_listedKey_withDistances aligned]
  · intro own agree
    apply not_isListing_of_agree aligned own
    intro key _
    exact agree [key]

/-- A key that is made of a text and a number. -/
def numberedKey : Key := ⟨.tuple [.text "x", .ofInt 1], rfl⟩

/-- Next to another key and with their distances, it is found as an equal one. -/
theorem recall_of_listed_keys_numbered :
    [Number.real 0, .real 2].length = [numberedKey, Key.ofInt 7].length ∧
      MeasuresKeys (withDistances [numberedKey, .ofInt 7] [.real 0, .real 2])
        [numberedKey, .ofInt 7] ∧
      exactRecall (withDistances [numberedKey, .ofInt 7] [.real 0, .real 2])
        [.tuple [.text "x", .truth true]] 2 = .ok (1 / 2) := by
  have aligned : [Number.real 0, .real 2].length = [numberedKey, Key.ofInt 7].length := rfl
  have half : min 1 (((1 : Nat) : ℚ) / ((2 : Int) : ℚ)) = 1 / 2 := by norm_num
  exact ⟨aligned, (recall_of_listed_keys aligned).1, congrArg Except.ok half⟩

/-- Listed alone, it is taken for another key, and missed although it is a candidate. -/
theorem recall_misses_numbered_key :
    candidateRecall [numberedKey.value] [numberedKey.value] (.ofInt 1) = .ok 0 ∧
      candidateRecall (withDistances [numberedKey] [.real 0]) [numberedKey.value] (.ofInt 1) =
        .ok 1 := by
  constructor
  · exact congrArg Except.ok (Float.toBits_inj.mp (by decide +kernel))
  · exact congrArg Except.ok (Float.toBits_inj.mp (by decide +kernel))

end CurveNeighbors
