import CurveNeighbors.Proofs.Index.Arrivals
import CurveNeighbors.Proofs.Renaming.Searches

/-!
# Queries for renamed keys

An index under new names has the same curves, visited under these names. A query for a
renamed key makes the same demand, so it has the same windows and the same sample, and
what is found and what is kept of it are the old results under new names. Where it fails
the kind of the fault is the same, and in any case the source of randomness is left in the
same state.

The candidates may be scored in another order under the new names. What is kept of them
does not depend on it. But if the distance fails for several of them, the order decides
which of its faults is met first. What a query may come to, in one order or another, is
still the same under new names.
-/

namespace CurveNeighbors

/-- A curve visits the keys of another one under new names. -/
structure CurveOrder.RenamedTo (curve : CurveOrder) (rename : Key → Key) (other : CurveOrder) :
    Prop where
  order : curve.order.RenamedTo rename other.order
  name : other.name = curve.name

/-- Curves visit the keys of others under new names and have the same scale factors. -/
structure CurveSet.RenamedTo (set : CurveSet) (rename : Key → Key) (other : CurveSet) : Prop where
  each : List.Forall₂ (fun curve visited => curve.RenamedTo rename visited) set.curves other.curves
  scaleFactors : other.scaleFactors = set.scaleFactors
  sampleScale : other.sampleScale = set.sampleScale

theorem CurveSet.RenamedTo.size_eq {set other : CurveSet} {rename : Key → Key}
    (renamed : set.RenamedTo rename other) : other.size = set.size :=
  renamed.each.length_eq.symm

namespace Index

/-- An index has the points and the curves of another one under new names. -/
structure RenamedTo (index : Index) (rename : Key → Key) (other : Index) : Prop where
  dataset : index.dataset.RenamedTo rename other.dataset
  curves : index.curves.RenamedTo rename other.curves
  distance : other.distance = index.distance

theorem within_of_curve {index : Index} {order : CurveOrder}
    (isCurve : order ∈ index.curves.curves) : order.order.Within index.dataset.keys := by
  intro key isKey
  exact KeySequence.contains_of_mem_of_covers (covers_of_curve isCurve) isKey

end Index

theorem Sequence.slice_map {α β : Type} (f : α → β) (items : List α) (start stop : Int) :
    slice (items.map f) start stop = (slice items start stop).map f := by
  simp only [slice, List.length_map, List.map_take, List.map_drop]

/-! ## Renamed demands -/

namespace Demand

variable {index other : Index} {rename : Key → Key}

/-- What is demanded of a renamed index. -/
def renamed (demand : Demand index) (isRenamed : index.RenamedTo rename other) : Demand other :=
  { demand with
    key := rename demand.key
    indexed := isRenamed.dataset.contains_eq demand.indexed }

variable (demand : Demand index) (isRenamed : index.RenamedTo rename other)

theorem halfWidthOn_renamed (curve : Nat) :
    (demand.renamed isRenamed).halfWidthOn curve = demand.halfWidthOn curve := by
  rw [halfWidthOn, halfWidthOn, factorOn, factorOn, isRenamed.curves.scaleFactors]
  rfl

theorem windowKeys_renamed (curve : Nat) :
    (demand.renamed isRenamed).windowKeys curve = (demand.windowKeys curve).map rename := by
  rw [windowKeys, windowKeys]
  cases isCurve : index.curves.curves[curve]? with
  | none =>
      have outside := List.getElem?_eq_none_iff.mp isCurve
      rw [isRenamed.curves.each.length_eq] at outside
      rw [List.getElem?_eq_none_iff.mpr outside]
      rfl
  | some order =>
      rcases exists_getElem?_of_forall₂ isRenamed.curves.each isCurve with ⟨visited, isOther, same⟩
      have placed : visited.order.position? (rename demand.key) =
          order.order.position? demand.key :=
        isRenamed.dataset.faithful.position?_eq
          (Index.within_of_curve (List.mem_of_getElem? isCurve)) same.order demand.indexed
      rw [isOther]
      simp only [halfWidthOn_renamed, isRenamed.dataset.size_eq]
      simp only [renamed, placed]
      cases order.order.position? demand.key with
      | none => rfl
      | some place =>
          dsimp only
          rw [CurveOrder.keysBetween, same.order, Sequence.slice_map, CurveOrder.keysBetween]

theorem own_renamed :
    (KeySequence.empty.insert demand.key).RenamedTo rename
      (KeySequence.empty.insert (demand.renamed isRenamed).key) :=
  isRenamed.dataset.faithful.insert (KeySequence.empty_within _)
    (KeySequence.empty_renamedTo rename) demand.indexed

theorem curveCandidates_renamed (mask : CurveMask) :
    (demand.curveCandidates mask).RenamedTo rename
      ((demand.renamed isRenamed).curveCandidates mask) := by
  have windows : mask.toList.flatMap (demand.renamed isRenamed).windowKeys =
      (mask.toList.flatMap demand.windowKeys).map rename := by
    rw [List.map_flatMap]
    apply List.flatMap_congr
    intro curve _
    exact demand.windowKeys_renamed isRenamed curve
  rw [curveCandidates, curveCandidates, windows]
  apply isRenamed.dataset.faithful.insertAll
    ((KeySequence.empty_within _).insert demand.indexed) (demand.own_renamed isRenamed)
  intro key isKey
  rcases List.mem_flatMap.mp isKey with ⟨curve, _, isWindow⟩
  rcases exists_order_of_mem_windowKeys isWindow with ⟨order, isCurve, isThere⟩
  exact Index.within_of_curve isCurve key isThere

theorem sampleSize_renamed : (demand.renamed isRenamed).sampleSize = demand.sampleSize := by
  rw [sampleSize, sampleSize, sampleHalfWidth, sampleHalfWidth, isRenamed.curves.sampleScale,
    isRenamed.dataset.size_eq]
  rfl

theorem sampleCandidates_renamed (rows : List Nat) :
    (demand.sampleCandidates rows).RenamedTo rename
      ((demand.renamed isRenamed).sampleCandidates rows) := by
  have drawn : rows.filterMap (other.dataset.keys.keys[·]?) =
      (rows.filterMap (index.dataset.keys.keys[·]?)).map rename := by
    rw [List.map_filterMap]
    apply List.filterMap_congr
    intro row _
    exact isRenamed.dataset.keys.getElem?_eq row
  rw [sampleCandidates, sampleCandidates, drawn]
  apply isRenamed.dataset.faithful.insertAll
    ((KeySequence.empty_within _).insert demand.indexed) (demand.own_renamed isRenamed)
  intro key isKey
  rcases List.mem_filterMap.mp isKey with ⟨row, _, found⟩
  exact isRenamed.dataset.found key (List.mem_of_getElem? found)

end Demand

/-! ## Outcomes under new names -/

namespace Outcome

variable {α β γ δ : Type}

/-- Both outcomes are faults, which are of one kind, or results that are related. -/
def Corresponds (related : α → β → Prop) : Outcome α → Outcome β → Prop
  | .ok result, .ok other => related result other
  | .error fault, .error other => other.kind = fault.kind
  | _, _ => False

theorem Corresponds.bind {related : α → β → Prop} {next : γ → δ → Prop} {outcome : Outcome α}
    {other : Outcome β} {f : α → Outcome γ} {g : β → Outcome δ}
    (corresponds : Corresponds related outcome other)
    (each : ∀ left right, related left right → Corresponds next (f left) (g right)) :
    Corresponds next (outcome >>= f) (other >>= g) := by
  cases outcome <;> cases other
  · exact corresponds
  · exact corresponds.elim
  · exact corresponds.elim
  · exact each _ _ corresponds

/-- What begins with the same outcome corresponds if it does so afterwards. -/
theorem corresponds_bind {next : γ → δ → Prop} {outcome : Outcome α} {f : α → Outcome γ}
    {g : α → Outcome δ} (each : ∀ result, Corresponds next (f result) (g result)) :
    Corresponds next (outcome >>= f) (outcome >>= g) := by
  cases outcome with
  | error fault => exact rfl
  | ok result => exact each result

theorem Corresponds.mono {related next : α → β → Prop} {outcome : Outcome α} {other : Outcome β}
    (corresponds : Corresponds related outcome other)
    (each : ∀ left right, related left right → next left right) :
    Corresponds next outcome other := by
  cases outcome <;> cases other
  · exact corresponds
  · exact corresponds.elim
  · exact corresponds.elim
  · exact each _ _ corresponds

/-- Outcomes correspond, except that certain faults may be of different kinds. -/
def CorrespondsUpTo (raised : Fault → Prop) (related : α → β → Prop) :
    Outcome α → Outcome β → Prop
  | .ok result, .ok other => related result other
  | .error fault, .error other => other.kind = fault.kind ∨ raised fault ∧ raised other
  | _, _ => False

theorem Corresponds.upTo {related : α → β → Prop} {outcome : Outcome α} {other : Outcome β}
    (corresponds : Corresponds related outcome other) (raised : Fault → Prop) :
    CorrespondsUpTo raised related outcome other := by
  cases outcome <;> cases other
  · exact .inl corresponds
  · exact corresponds.elim
  · exact corresponds.elim
  · exact corresponds

/-- If all of these faults are of one kind, there is no exception. -/
theorem CorrespondsUpTo.corresponds {raised : Fault → Prop} {related : α → β → Prop}
    {outcome : Outcome α} {other : Outcome β}
    (corresponds : CorrespondsUpTo raised related outcome other)
    (alike : ∀ fault other, raised fault → raised other → other.kind = fault.kind) :
    Corresponds related outcome other := by
  cases outcome <;> cases other
  · rcases corresponds with same | ⟨first, second⟩
    · exact same
    · exact alike _ _ first second
  · exact corresponds.elim
  · exact corresponds.elim
  · exact corresponds

theorem Corresponds.exists_ok {related : α → β → Prop} {result : α} {other : Outcome β}
    (corresponds : Corresponds related (.ok result) other) :
    ∃ otherResult, other = .ok otherResult ∧ related result otherResult := by
  cases other with
  | error _ => exact corresponds.elim
  | ok otherResult => exact ⟨otherResult, rfl, corresponds⟩

theorem Corresponds.exists_error {related : α → β → Prop} {fault : Fault} {other : Outcome β}
    (corresponds : Corresponds related (.error fault) other) :
    ∃ otherFault, other = .error otherFault ∧ otherFault.kind = fault.kind := by
  cases other with
  | error otherFault => exact ⟨otherFault, rfl, corresponds⟩
  | ok _ => exact corresponds.elim

end Outcome

theorem Dataset.RenamedTo.raises_iff {dataset other : Dataset} {rename : Key → Key}
    (renamed : dataset.RenamedTo rename other) {distance : Distance} {fault : Fault} :
    other.Raises distance fault ↔ dataset.Raises distance fault := by
  rw [Dataset.Raises, Dataset.Raises, renamed.points]

namespace Index

variable {index other : Index} {rename : Key → Key} {query : Query} {value : Value}

/-- What is asked of a renamed index in place of a value. A key of the index is asked for by its new
name, and any other value is one of the same sort. -/
inductive Counterpart (index : Index) (rename : Key → Key) (other : Index) : Value → Value → Prop
  | known {key : Key} (present : index.dataset.contains key = true) :
      Counterpart index rename other key.value (rename key).value
  | unknown {key stranger : Key} (absent : index.dataset.contains key = false)
      (otherAbsent : other.dataset.contains stranger = false) :
      Counterpart index rename other key.value stranger.value
  | unhashable {value stranger : Value} (noKey : value.isHashable = false)
      (otherNoKey : stranger.isHashable = false) : Counterpart index rename other value stranger

theorem Counterpart.toKey {given value : Value}
    (counterpart : index.Counterpart rename other given value)
    (isRenamed : index.RenamedTo rename other) :
    Outcome.Corresponds (fun key stranger => Outcome.Corresponds (fun _ _ => True)
      (index.positionsOf key) (other.positionsOf stranger)) given.toKey value.toKey := by
  cases counterpart with
  | @known key present =>
      rcases index.exists_positionsOf present with ⟨positions, placed, _⟩
      rcases other.exists_positionsOf (isRenamed.dataset.contains_eq present) with
        ⟨others, otherPlaced, _⟩
      rw [Key.toKey_value, Key.toKey_value, Outcome.Corresponds, placed, otherPlaced]
      trivial
  | @unknown key stranger absent otherAbsent =>
      rw [Key.toKey_value, Key.toKey_value, Outcome.Corresponds, Index.positionsOf,
        Index.positionsOf, if_neg (by simp [absent]), if_neg (by simp [otherAbsent])]
      rfl
  | unhashable noKey otherNoKey =>
      rw [Value.toKey, Value.toKey, dif_neg (by simp [noKey]), dif_neg (by simp [otherNoKey])]
      rfl

theorem RenamedTo.hasRoomFor_eq (isRenamed : index.RenamedTo rename other) (query : Query)
    (value : Value) (halfWindow count : Int) :
    other.hasRoomFor { query with key := value } halfWindow count =
      index.hasRoomFor query halfWindow count := by
  have largest :
      other.largestScale query.scale.toValue = index.largestScale query.scale.toValue := by
    unfold largestScale
    rw [isRenamed.curves.scaleFactors, isRenamed.curves.sampleScale]
  rw [hasRoomFor, hasRoomFor, largest, isRenamed.dataset.size_eq]

/-- The checks of a query come out in the same way for its counterpart. -/
theorem check_renamed (isRenamed : index.RenamedTo rename other)
    (counterpart : index.Counterpart rename other query.key value) :
    Outcome.Corresponds (fun _ _ => True) (index.check query)
      (other.check { query with key := value }) := by
  have masks : other.readMask query.selection = index.readMask query.selection := by
    rw [readMask_eq, readMask_eq, isRenamed.curves.size_eq]
  rw [check, check, masks]
  apply Outcome.corresponds_bind
  intro count
  apply Outcome.corresponds_bind
  intro halfWindow
  apply Outcome.corresponds_bind
  intro mask
  apply Outcome.corresponds_bind
  intro passed
  apply (counterpart.toKey isRenamed).bind
  intro key stranger positions
  apply positions.bind
  intro _ _ _
  rw [isRenamed.hasRoomFor_eq]
  split
  · exact rfl
  · trivial

/-- What is asked of the index for a key of it is asked under the new name. -/
theorem Counterpart.asks {demand : Demand index} {mask : CurveMask}
    (counterpart : index.Counterpart rename other query.key value)
    (isRenamed : index.RenamedTo rename other) (asks : query.Asks demand mask) :
    ({ query with key := value } : Query).Asks (demand.renamed isRenamed) mask := by
  refine ⟨?_, asks.selection, asks.halfWindow, asks.count, asks.scale,
    (isRenamed.hasRoomFor_eq query value _ _).trans asks.room⟩
  have isKey := asks.key
  have indexed := demand.indexed
  generalize query.key = given at counterpart isKey
  cases counterpart with
  | known present =>
      rw [Key.toKey_value] at isKey
      cases isKey
      exact Key.toKey_value _
  | unknown absent otherAbsent =>
      rw [Key.toKey_value] at isKey
      cases isKey
      rw [absent] at indexed
      cases indexed
  | unhashable noKey otherNoKey =>
      rw [Value.toKey, dif_neg (by simp [noKey])] at isKey
      cases isKey

theorem RenamedTo.hasCurvesOf (isRenamed : index.RenamedTo rename other) {mask : CurveMask}
    (exist : index.HasCurvesOf mask) : other.HasCurvesOf mask := by
  intro curve selected
  rw [isRenamed.curves.size_eq]
  exact exist curve selected

/-! ## Candidates -/

/-- What is found for a renamed key is what is found for the key, under new names, and the same has
been drawn for it. -/
theorem candidates_renamed (isRenamed : index.RenamedTo rename other)
    (counterpart : index.Counterpart rename other query.key value) (source : RandomSource) :
    Outcome.Corresponds (fun found others => found.RenamedTo rename others)
        (index.candidates query source).1
        (other.candidates { query with key := value } source).1 ∧
      (other.candidates { query with key := value } source).2 =
        (index.candidates query source).2 := by
  rcases success : index.check query with fault | checked
  · have checks := check_renamed isRenamed counterpart
    rw [success] at checks
    rcases checks.exists_error with ⟨otherFault, failure, kind⟩
    rw [candidates_apply, candidates_apply, success, failure]
    exact ⟨kind, rfl⟩
  · rcases exists_asks_of_check success with ⟨demand, exist, asks, _⟩
    have otherAsks := counterpart.asks isRenamed asks
    cases none : checked.mask.isEmpty with
    | false =>
        have reflexive := KeySequence.equals_self_of_contains isRenamed.dataset.reflexive
          demand.indexed
        have otherReflexive := KeySequence.equals_self_of_contains isRenamed.dataset.stillReflexive
          (demand.renamed isRenamed).indexed
        rw [demand.candidates_eq reflexive none exist asks,
          Demand.candidates_eq otherReflexive none (isRenamed.hasCurvesOf exist) otherAsks]
        exact ⟨demand.curveCandidates_renamed isRenamed checked.mask, rfl⟩
    | true =>
        rw [demand.candidates_eq_sample none asks, Demand.candidates_eq_sample none otherAsks,
          isRenamed.dataset.size_eq, demand.sampleSize_renamed isRenamed]
        cases source.start with
        | error fault => exact ⟨rfl, rfl⟩
        | ok state =>
            dsimp only
            cases Sampling.sample index.dataset.size demand.sampleSize state with
            | none => exact ⟨rfl, rfl⟩
            | some drawn => exact ⟨demand.sampleCandidates_renamed isRenamed drawn.1, rfl⟩

/-! ## Answers -/

theorem RenamedTo.known_renamed (isRenamed : index.RenamedTo rename other)
    {found others : KeySequence} (known : found.Within index.dataset.keys)
    (renamed : found.RenamedTo rename others) : others.Within other.dataset.keys := by
  intro name isName
  rw [renamed] at isName
  rcases List.mem_map.mp isName with ⟨key, isKey, rfl⟩
  exact isRenamed.dataset.contains_eq (known key isKey)

theorem Counterpart.asksAt {demand : Demand index} {mask : CurveMask} {point : Point}
    (counterpart : index.Counterpart rename other query.key value)
    (isRenamed : index.RenamedTo rename other) (asked : index.AsksAt query demand mask point) :
    other.AsksAt { query with key := value } (demand.renamed isRenamed) mask point :=
  ⟨isRenamed.hasCurvesOf asked.exist, counterpart.asks isRenamed asked.asks,
    (isRenamed.dataset.pointOf_eq demand.indexed).trans asked.located⟩

/-- A query scores the candidates that have been found, and its counterpart scores them under their
new names. -/
structure ScoresAlike (index : Index) (rename : Key → Key) (other : Index) (query : Query)
    (value : Value) (state : QueryState) (demand : Demand index) (point : Point)
    (found others : KeySequence) : Prop where
  known : found.Within index.dataset.keys
  renamed : found.RenamedTo rename others
  isPoint : point ∈ index.dataset.points
  drawn : (index.candidates query state.source).1 = .ok found
  otherDrawn : (other.candidates { query with key := value } state.source).1 = .ok others
  answer : (index.query query state).1 =
    (rerank index.distance index.dataset (index.arrangement.values found) point
      (.ofInt demand.count)).outcome
  otherAnswer : (other.query { query with key := value } state).1 =
    (rerank index.distance other.dataset (other.arrangement.values others) point
      (.ofInt demand.count)).outcome

/-- A query and its counterpart are refused alike, or go on to score the same candidates. -/
theorem refused_or_scoresAlike (isRenamed : index.RenamedTo rename other)
    (counterpart : index.Counterpart rename other query.key value) (state : QueryState) :
    (∃ fault otherFault, (index.query query state).1 = .error fault ∧
      (other.query { query with key := value } state).1 = .error otherFault ∧
      otherFault.kind = fault.kind) ∨
    ∃ demand point found others,
      index.ScoresAlike rename other query value state demand point found others := by
  rcases state with ⟨source, evaluations⟩
  have found := (candidates_renamed isRenamed counterpart source).1
  rcases run : index.candidates query source with ⟨fault | candidates, left⟩
  · rw [run] at found
    rcases found.exists_error with ⟨otherFault, otherRun, kind⟩
    left
    refine ⟨fault, otherFault, ?_, ?_, kind⟩
    · rw [query_of_candidates_fault run evaluations]
    · rw [query_of_candidates_fault (Prod.ext otherRun rfl) evaluations]
  · rw [run] at found
    rcases found.exists_ok with ⟨others, otherRun, isRenamedFound⟩
    rcases exists_asksAt run with ⟨demand, mask, point, asked, isPoint⟩
    right
    refine ⟨demand, point, candidates, others, ?_, isRenamedFound, isPoint, ?_, otherRun, ?_, ?_⟩
    · exact contains_of_found isRenamed.dataset.beq_self run
    · rw [run]
    · rw [asked.query_of_found run]
    · rw [(counterpart.asksAt isRenamed asked).query_of_found (Prod.ext otherRun rfl),
        isRenamed.distance]
      rfl

namespace ScoresAlike

variable {state : QueryState} {demand : Demand index} {point : Point} {found others : KeySequence}
  (alike : index.ScoresAlike rename other query value state demand point found others)
  (isRenamed : index.RenamedTo rename other)

include alike isRenamed

/-- Where all candidates can be scored, the answers are the same under new names. -/
theorem exists_kept {scored : List ScoredCandidate}
    (scores : ScoresOf index.distance index.dataset point found scored) :
    ∃ kept, (index.query query state).1 = .ok kept ∧
      (other.query { query with key := value } state).1 =
        .ok (kept.map (Neighbor.renamed rename)) := by
  rcases exists_rerank_renamed isRenamed.dataset alike.known alike.renamed demand.toNat_count_pos
    scores (index.arrangement.values_perm found) (other.arrangement.values_perm others) with
    ⟨kept, reranked, otherReranked⟩
  rw [demand.toNat_count] at reranked otherReranked
  exact ⟨kept, alike.answer.trans reranked, alike.otherAnswer.trans otherReranked⟩

/-- Where they cannot, both queries fail with faults of the distance. -/
theorem exists_raised {fault : Fault}
    (unscored : found.values.mapM (scoreOf index.distance index.dataset point) = .error fault) :
    ∃ raised otherRaised, (index.query query state).1 = .error raised ∧
      (other.query { query with key := value } state).1 = .error otherRaised ∧
      index.dataset.Raises index.distance raised ∧
      index.dataset.Raises index.distance otherRaised := by
  have otherUnscored := mapM_scoreOf_renamed isRenamed.dataset alike.known alike.renamed
    index.distance point
  rw [unscored] at otherUnscored
  rcases Dataset.exists_raised_of_arrival alike.known alike.isPoint demand.positive
    (index.arrangement.values_perm found) unscored with ⟨raised, isRaised, failure⟩
  rcases Dataset.exists_raised_of_arrival (isRenamed.known_renamed alike.known alike.renamed)
    (isRenamed.dataset.points ▸ alike.isPoint) demand.positive
    (other.arrangement.values_perm others) otherUnscored with
    ⟨otherRaised, isOtherRaised, otherFailure⟩
  exact ⟨raised, otherRaised, alike.answer.trans failure, alike.otherAnswer.trans otherFailure,
    isRaised, isRenamed.dataset.raises_iff.mp isOtherRaised⟩

/-- If candidates are scored in the same order under their new names, the same one is the first that
cannot be scored. -/
theorem exists_fault {fault : Fault}
    (visited : other.arrangement.visit others = (index.arrangement.visit found).map rename)
    (unscored : found.values.mapM (scoreOf index.distance index.dataset point) = .error fault) :
    ∃ raised, (index.query query state).1 = .error raised ∧
      (other.query { query with key := value } state).1 = .error raised := by
  have known : ∀ key ∈ index.arrangement.visit found, index.dataset.contains key = true :=
    fun key isKey => alike.known key ((index.arrangement.perm found).mem_iff.mp isKey)
  have arrival := mapM_scoreOf_map isRenamed.dataset known index.distance point
  rw [← visited] at arrival
  rcases each : (index.arrangement.values found).mapM
    (scoreOf index.distance index.dataset point) with raised | scored
  · rw [Arrangement.values] at each
    rw [each] at arrival
    exact ⟨raised, alike.answer.trans (rerank_of_mapM_error demand.positive each),
      alike.otherAnswer.trans (rerank_of_mapM_error demand.positive arrival)⟩
  · rcases Outcome.exists_mapM_of_perm (index.arrangement.values_perm found).symm each with
      ⟨moved, scoredAll, _⟩
    cases unscored.symm.trans scoredAll

end ScoresAlike

/-- What is answered for a renamed key is what is answered for the key, under new names, and the
same has been drawn for it. If candidates cannot be scored, both queries fail with faults of the
distance. -/
theorem query_renamed (isRenamed : index.RenamedTo rename other)
    (defines : index.dataset.Defines index.distance)
    (counterpart : index.Counterpart rename other query.key value) (state : QueryState) :
    Outcome.CorrespondsUpTo (index.dataset.Raises index.distance)
        (fun kept others => others = kept.map (Neighbor.renamed rename))
        (index.query query state).1 (other.query { query with key := value } state).1 ∧
      (other.query { query with key := value } state).2.source =
        (index.query query state).2.source := by
  have left := (candidates_renamed isRenamed counterpart state.source).2
  refine ⟨?_, by rw [source_of_query, source_of_query, left]⟩
  rcases refused_or_scoresAlike isRenamed counterpart state with
    ⟨fault, otherFault, failure, otherFailure, kind⟩ | ⟨demand, point, found, others, alike⟩
  · rw [failure, otherFailure]
    exact .inl kind
  · rcases each : found.values.mapM (scoreOf index.distance index.dataset point) with
      fault | scored
    · rcases alike.exists_raised isRenamed each with
        ⟨raised, otherRaised, failure, otherFailure, isRaised, isOtherRaised⟩
      rw [failure, otherFailure]
      exact .inr ⟨isRaised, isOtherRaised⟩
    · rcases alike.exists_kept isRenamed ⟨each, defines.of_mapM alike.isPoint each⟩ with
        ⟨kept, answer, otherAnswer⟩
      rw [answer, otherAnswer]
      rfl

/-! ## Orders that correspond -/

/-- An index whose candidates come to be scored in another order. -/
def withArrangement (index : Index) (arrangement : Arrangement) : Index :=
  { index with arrangement := arrangement }

theorem candidates_withArrangement (index : Index) (arrangement : Arrangement) (query : Query)
    (source : RandomSource) :
    (index.withArrangement arrangement).candidates query source = index.candidates query source :=
  rfl

/-- An index is renamed to another one, whatever the orders in which candidates are scored. -/
theorem RenamedTo.withArrangements (isRenamed : index.RenamedTo rename other)
    (arrangement otherArrangement : Arrangement) :
    (index.withArrangement arrangement).RenamedTo rename
      (other.withArrangement otherArrangement) :=
  ⟨isRenamed.dataset, isRenamed.curves, isRenamed.distance⟩

theorem Counterpart.withArrangements {given : Value}
    (counterpart : index.Counterpart rename other given value)
    (arrangement otherArrangement : Arrangement) :
    (index.withArrangement arrangement).Counterpart rename
      (other.withArrangement otherArrangement) given value := by
  cases counterpart with
  | known present => exact .known present
  | unknown absent otherAbsent => exact .unknown absent otherAbsent
  | unhashable noKey otherNoKey => exact .unhashable noKey otherNoKey

/-- If candidates are scored in the same order under their new names, queries fail with faults of
the same kind, in whatever ways the distance may fail. -/
theorem query_renamed_of_visited (isRenamed : index.RenamedTo rename other)
    (defines : index.dataset.Defines index.distance)
    (counterpart : index.Counterpart rename other query.key value) {state : QueryState}
    (visited : ∀ found others, (index.candidates query state.source).1 = .ok found →
      (other.candidates { query with key := value } state.source).1 = .ok others →
      other.arrangement.visit others = (index.arrangement.visit found).map rename) :
    Outcome.Corresponds (fun kept others => others = kept.map (Neighbor.renamed rename))
      (index.query query state).1 (other.query { query with key := value } state).1 := by
  rcases refused_or_scoresAlike isRenamed counterpart state with
    ⟨fault, otherFault, failure, otherFailure, kind⟩ | ⟨demand, point, found, others, alike⟩
  · rw [failure, otherFailure]
    exact kind
  · rcases each : found.values.mapM (scoreOf index.distance index.dataset point) with
      fault | scored
    · rcases alike.exists_fault isRenamed (visited found others alike.drawn alike.otherDrawn)
        each with ⟨raised, failure, otherFailure⟩
      rw [failure, otherFailure]
      exact rfl
    · rcases alike.exists_kept isRenamed ⟨each, defines.of_mapM alike.isPoint each⟩ with
        ⟨kept, answer, otherAnswer⟩
      rw [answer, otherAnswer]
      rfl

/-- A query and its counterpart come to the same if their candidates are visited in orders that
correspond. -/
theorem query_withArrangements (isRenamed : index.RenamedTo rename other)
    (defines : index.dataset.Defines index.distance)
    (counterpart : index.Counterpart rename other query.key value) {state : QueryState}
    {demand : Demand index} {point : Point} {found others : KeySequence}
    (alike : index.ScoresAlike rename other query value state demand point found others)
    {arrangement otherArrangement : Arrangement}
    (visited : otherArrangement.visit others = (arrangement.visit found).map rename) :
    Outcome.Corresponds (fun kept others => others = kept.map (Neighbor.renamed rename))
      ((index.withArrangement arrangement).query query state).1
      ((other.withArrangement otherArrangement).query { query with key := value } state).1 := by
  apply query_renamed_of_visited (isRenamed.withArrangements arrangement otherArrangement) defines
    (counterpart.withArrangements arrangement otherArrangement)
  intro candidates otherCandidates drawn otherDrawn
  rw [candidates_withArrangement] at drawn otherDrawn
  cases alike.drawn.symm.trans drawn
  cases alike.otherDrawn.symm.trans otherDrawn
  exact visited

/-- For every order in which the candidates of a query may be scored, there is one for those of its
counterpart with which it comes to the same, and the other way round. -/
theorem exists_arrangements (isRenamed : index.RenamedTo rename other)
    (defines : index.dataset.Defines index.distance)
    (counterpart : index.Counterpart rename other query.key value) (state : QueryState) :
    (∃ arrangement, Outcome.Corresponds
      (fun kept others => others = kept.map (Neighbor.renamed rename)) (index.query query state).1
      ((other.withArrangement arrangement).query { query with key := value } state).1) ∧
    ∃ arrangement, Outcome.Corresponds
      (fun kept others => others = kept.map (Neighbor.renamed rename))
      ((index.withArrangement arrangement).query query state).1
      (other.query { query with key := value } state).1 := by
  rcases refused_or_scoresAlike isRenamed counterpart state with
    ⟨fault, otherFault, failure, otherFailure, kind⟩ | ⟨demand, point, found, others, alike⟩
  · have corresponds : Outcome.Corresponds
        (fun kept others => others = kept.map (Neighbor.renamed rename))
        (index.query query state).1 (other.query { query with key := value } state).1 := by
      rw [failure, otherFailure]
      exact kind
    exact ⟨⟨other.arrangement, corresponds⟩, ⟨index.arrangement, corresponds⟩⟩
  · constructor
    · have perm : ((index.arrangement.visit found).map rename).Perm others.keys := by
        rw [alike.renamed]
        exact (index.arrangement.perm found).map rename
      exact ⟨.visiting others perm, query_withArrangements isRenamed defines counterpart alike
        (Arrangement.visit_visiting others perm)⟩
    · rcases alike.renamed.exists_visited (other.arrangement.perm others) with
        ⟨order, perm, isVisited⟩
      rw [← Arrangement.visit_visiting found perm] at isVisited
      exact ⟨.visiting found perm, query_withArrangements isRenamed defines counterpart alike
        isVisited⟩

end Index

end CurveNeighbors
