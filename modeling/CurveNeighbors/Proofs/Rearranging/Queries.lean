import CurveNeighbors.Proofs.Index.Answers
import CurveNeighbors.Proofs.Rearranging.Orders

/-!
# Queries on points in another order

The rows of points decide between curve values that tie and between distances that tie,
and nothing else. Where the selected curves visit the keys in one order, their windows hold
the same keys, whatever the rows. The scores of these keys differ in the rows alone, and
if all distances are different, the nearest are told apart by them.
-/

namespace CurveNeighbors

/-! ## Points -/

namespace Dataset

variable {dataset other : Dataset} {key : Key} {point : Point}

/-- The point of a key is stored with an equal key. -/
theorem pointOf_eq_ok_iff :
    dataset.pointOf key = .ok point ↔
      ∃ holder, (holder, point) ∈ dataset.items ∧ (holder == key) = true := by
  rw [pointOf, Outcome.bind_eq_ok]
  constructor
  · rintro ⟨row, placed, located⟩
    rcases KeySequence.position_eq_ok_iff.mp placed with ⟨holder, isHolder, same⟩
    refine ⟨holder, List.mem_of_getElem? (i := row) ?_, same⟩
    unfold pointAt at located
    split at located
    · next isPoint =>
        cases located
        exact List.getElem?_zip_eq_some.mpr ⟨isHolder, isPoint⟩
    · cases located
  · rintro ⟨holder, isItem, same⟩
    rcases List.getElem?_of_mem isItem with ⟨row, found⟩
    rcases List.getElem?_zip_eq_some.mp found with ⟨isHolder, isPoint⟩
    exact ⟨row, KeySequence.position_eq_ok_iff.mpr ⟨holder, isHolder, same⟩, by
      rw [pointAt, isPoint]⟩

theorem RearrangedTo.pointOf_eq (rearranged : dataset.RearrangedTo other) (key : Key) :
    other.pointOf key = dataset.pointOf key := by
  cases present : dataset.contains key with
  | true =>
      rcases exists_pointOf present with ⟨point, _, located⟩
      rw [located]
      rcases pointOf_eq_ok_iff.mp located with ⟨holder, isItem, same⟩
      exact pointOf_eq_ok_iff.mpr ⟨holder, rearranged.mem_iff.mpr isItem, same⟩
  | false =>
      have otherMissing := (rearranged.contains_eq key).trans present
      rw [pointOf, pointOf, rowOf, rowOf, KeySequence.position_of_not_contains present,
        KeySequence.position_of_not_contains otherMissing]
      rfl

end Dataset

/-! ## Candidates -/

namespace Demand

variable {index other : Index} {mask : CurveMask} {curve : Nat}

/-- What is asked for, asked of the same points in another order. -/
def rearranged (demand : Demand index)
    (points : index.dataset.RearrangedTo other.dataset) : Demand other where
  key := demand.key
  halfWindow := demand.halfWindow
  count := demand.count
  scale := demand.scale
  indexed := (points.contains_eq demand.key).trans demand.indexed
  nonnegative := demand.nonnegative
  positive := demand.positive

theorem halfWidthOn_rearranged (demand : Demand index)
    (rearranged : Index.RearrangedOn mask index other) (curve : Nat) :
    (demand.rearranged rearranged.points).halfWidthOn curve = demand.halfWidthOn curve := by
  simp only [halfWidthOn, factorOn, Demand.rearranged, rearranged.factors]

/-- The windows hold the same keys, since neither their places nor their widths depend on rows. -/
theorem windowKeys_rearranged (demand : Demand index)
    (rearranged : Index.RearrangedOn mask index other) (selected : mask.selects curve = true)
    (exists_curve : curve < index.curves.size) :
    (demand.rearranged rearranged.points).windowKeys curve = demand.windowKeys curve := by
  have isCurve := List.getElem?_eq_getElem exists_curve
  rcases rearranged.orders curve _ selected isCurve with ⟨visited, isVisited, same⟩
  have size : other.dataset.size = index.dataset.size := rearranged.points.size_eq
  have key : (demand.rearranged rearranged.points).key = demand.key := rfl
  simp only [windowKeys, isCurve, isVisited, same, size, key,
    demand.halfWidthOn_rearranged rearranged, CurveOrder.keysBetween]

theorem curveCandidates_rearranged (demand : Demand index)
    (rearranged : Index.RearrangedOn mask index other) (exist : index.HasCurvesOf mask) :
    (demand.rearranged rearranged.points).curveCandidates mask = demand.curveCandidates mask := by
  have windows : mask.toList.flatMap (demand.rearranged rearranged.points).windowKeys =
      mask.toList.flatMap demand.windowKeys := by
    apply List.flatMap_congr
    intro curve isCurve
    have selected := CurveMask.mem_toList.mp isCurve
    exact demand.windowKeys_rearranged rearranged selected (exist curve selected)
  rw [curveCandidates, curveCandidates, windows]
  rfl

end Demand

/-! ## Scores -/

section

variable {distance : Distance} {dataset other : Dataset} {point : Point}

theorem Outcome.map_mapM_congr {α β γ : Type} {f g : α → Outcome β} {h : β → γ} {items : List α}
    (same : ∀ item ∈ items, (f item).map h = (g item).map h) :
    (items.mapM f).map (List.map h) = (items.mapM g).map (List.map h) := by
  rw [← mapM_eq_map fun _ _ => rfl]
  exact mapM_eq_map same

/-- What a candidate is scored by apart from its row. -/
theorem map_neighbor_scoreOf (candidate : Value) :
    (scoreOf distance dataset point candidate).map ScoredCandidate.neighbor = do
      let key ← candidate.toKey
      let located ← dataset.pointOf key
      let value ← (distance.evaluate point located).outcome
      return ⟨candidate, value⟩ := by
  rw [scoreOf_eq]
  cases candidate.toKey with
  | error fault => rfl
  | ok key =>
      rw [Outcome.ok_bind, Outcome.ok_bind, Dataset.pointOf]
      cases dataset.rowOf key with
      | error fault => rfl
      | ok row =>
          rw [Outcome.ok_bind, Outcome.ok_bind]
          cases dataset.pointAt row with
          | error fault => rfl
          | ok located =>
              rw [Outcome.ok_bind, Outcome.ok_bind]
              cases (distance.evaluate point located).outcome <;> rfl

theorem ScoresOf.rearranged {candidates : KeySequence} {scored : List ScoredCandidate}
    (scores : ScoresOf distance dataset point candidates scored)
    (rearranged : dataset.RearrangedTo other) :
    ∃ moved, ScoresOf distance other point candidates moved ∧
      moved.map ScoredCandidate.neighbor = scored.map ScoredCandidate.neighbor := by
  have alike : (candidates.values.mapM (scoreOf distance dataset point)).map
      (List.map ScoredCandidate.neighbor) =
        (candidates.values.mapM (scoreOf distance other point)).map
          (List.map ScoredCandidate.neighbor) := by
    apply Outcome.map_mapM_congr
    intro candidate _
    simp only [map_neighbor_scoreOf, rearranged.pointOf_eq]
  rw [scores.each] at alike
  rcases moving : candidates.values.mapM (scoreOf distance other point) with fault | moved
  · rw [moving] at alike
    cases alike
  · rw [moving] at alike
    have same : scored.map ScoredCandidate.neighbor = moved.map ScoredCandidate.neighbor :=
      Except.ok.inj alike
    refine ⟨moved, ⟨moving, ?_⟩, same.symm⟩
    intro candidate isMoved
    have isNeighbor := List.mem_map_of_mem (f := ScoredCandidate.neighbor) isMoved
    rw [← same] at isNeighbor
    rcases List.mem_map.mp isNeighbor with ⟨original, isScored, equal⟩
    have sameDistance : original.distance = candidate.distance := congrArg Neighbor.distance equal
    have defined := scores.defined original isScored
    rwa [ScoredCandidate.isUndefined, sameDistance] at defined

end

/-! ## The nearest by distance -/

/-- The place of the distance of a neighbour among all doubles. -/
def Neighbor.place (neighbor : Neighbor) : Int :=
  Binary64.place neighbor.distance

namespace Nearest

variable {capacity : Nat} {scored moved kept found : List ScoredCandidate}

/-- The distances that are kept are the lowest ones, whatever the rows. -/
theorem map_place (nearest : Nearest capacity scored kept) :
    (kept.map ScoredCandidate.neighbor).map Neighbor.place =
      (sortedRanks Neighbor.place (scored.map ScoredCandidate.neighbor)).take capacity := by
  let first : Int ×ₗ Int → Int := fun rank => (ofLex rank).1
  have places (candidates : List ScoredCandidate) :
      (candidates.map ScoredCandidate.neighbor).map Neighbor.place =
        (candidates.map ScoredCandidate.rank).map first := by
    rw [List.map_map, List.map_map]
    rfl
  have sorted : (sortedRanks ScoredCandidate.rank scored).map first =
      sortedRanks Neighbor.place (scored.map ScoredCandidate.neighbor) := by
    refine List.Perm.eq_of_pairwise (fun _ _ _ _ => le_antisymm) ?_ (pairwise_sortedRanks _ _) ?_
    · apply List.pairwise_map.mpr
      apply (pairwise_sortedRanks ScoredCandidate.rank scored).imp
      intro left right ordered
      exact Prod.Lex.monotone_fst_ofLex ordered
    · apply ((sortedRanks_perm ScoredCandidate.rank scored).map first).trans
      rw [← places]
      exact (sortedRanks_perm Neighbor.place _).symm
  rw [places, nearest.ranks, List.map_take, sorted]

/-- Where all distances are different, the nearest are the same whatever the rows. -/
theorem neighbors_eq (nearest : Nearest capacity scored kept)
    (alsoNearest : Nearest capacity moved found)
    (same : moved.map ScoredCandidate.neighbor = scored.map ScoredCandidate.neighbor)
    (different : ((scored.map ScoredCandidate.neighbor).map Neighbor.place).Nodup) :
    found.map ScoredCandidate.neighbor = kept.map ScoredCandidate.neighbor := by
  have places : (found.map ScoredCandidate.neighbor).map Neighbor.place =
      (kept.map ScoredCandidate.neighbor).map Neighbor.place := by
    rw [alsoNearest.map_place, nearest.map_place, same]
  rw [← List.forall₂_eq_eq_eq, List.forall₂_map_left_iff, List.forall₂_map_right_iff] at places
  rw [← List.forall₂_eq_eq_eq]
  refine List.forall₂_iff_zip.mpr ⟨places.length_eq, ?_⟩
  intro left right isPair
  rcases List.of_mem_zip isPair with ⟨isFound, isKept⟩
  apply List.inj_on_of_nodup_map different _ _ ((List.forall₂_iff_zip.mp places).2 isPair)
  · rw [← same]
    exact List.map_subset _ alsoNearest.within isFound
  · exact List.map_subset _ nearest.within isKept

end Nearest

/-- Certain keys are at defined distances from a point, and no two at the same. -/
def Dataset.Separates (dataset : Dataset) (distance : Distance) (point : Point)
    (keys : KeySequence) : Prop :=
  ∃ scored, ScoresOf distance dataset point keys scored ∧
    (scored.map fun candidate => Binary64.place candidate.distance).Nodup

/-- Indexes that are built alike from the same points in different orders have the same candidates
on the curves whose keys separate the points. Where the candidates are at different distances, both
indexes give the same answer. -/
theorem queries_ignore_insertion_order {dataset other : Dataset} {curveKeys : List CurveKey}
    {names otherNames scaleFactors sampleScale otherSampleScale workers otherWorkers : Value}
    {distance : Distance} {arrangement otherArrangement : Arrangement} {index otherIndex : Index}
    {demand : Demand index} {mask : CurveMask} {query : Query}
    (rearranged : dataset.RearrangedTo other)
    (built : Index.build dataset curveKeys names scaleFactors sampleScale workers distance
      arrangement = .ok index)
    (otherBuilt : Index.build other curveKeys otherNames scaleFactors otherSampleScale otherWorkers
      distance otherArrangement = .ok otherIndex)
    (reflexive : demand.key.equals demand.key = true) (nonempty : mask.isEmpty = false)
    (exist : index.HasCurvesOf mask) (asks : query.Asks demand mask)
    (otherRoom : otherIndex.hasRoomFor query demand.halfWindow demand.count = true)
    (separates : ∀ (curve : Nat) curveKey, mask.selects curve = true →
      curveKeys[curve]? = some curveKey → curveKey.Separates dataset.points) :
    ∃ found, (∀ source, index.candidates query source = (.ok found, source) ∧
        otherIndex.candidates query source = (.ok found, source)) ∧
      ∀ point, dataset.pointOf demand.key = .ok point → dataset.Separates distance point found →
        ∃ answer, ∀ state, (index.query query state).1 = .ok answer ∧
          (otherIndex.query query state).1 = .ok answer := by
  have isBuilt := Index.builtFrom_of_build built
  have alike := Index.rearrangedOn_of_builtFrom rearranged isBuilt
    (Index.builtFrom_of_build otherBuilt) separates
  have otherExist : otherIndex.HasCurvesOf mask := by
    intro curve selected
    rw [alike.size]
    exact exist curve selected
  have otherAsks : query.Asks (demand.rearranged alike.points) mask :=
    ⟨asks.key, asks.selection, asks.halfWindow, asks.count, asks.scale, otherRoom⟩
  have otherReflexive : (demand.rearranged alike.points).key.equals
      (demand.rearranged alike.points).key = true := reflexive
  have same := demand.curveCandidates_rearranged alike exist
  refine ⟨demand.curveCandidates mask, ?_, ?_⟩
  · intro source
    rw [Demand.candidates_eq reflexive nonempty exist asks,
      Demand.candidates_eq otherReflexive nonempty otherExist otherAsks, same]
    exact ⟨rfl, rfl⟩
  · rintro point located ⟨scored, scores, different⟩
    rw [← isBuilt.points, ← isBuilt.measure] at scores
    rw [← isBuilt.points] at located
    rcases scores.rearranged alike.points with ⟨moved, movedScores, sameNeighbors⟩
    rw [← same, ← alike.measure] at movedScores
    have otherLocated := (alike.points.pointOf_eq demand.key).trans located
    have distinct : ((scored.map ScoredCandidate.neighbor).map Neighbor.place).Nodup := by
      rwa [List.map_map]
    have answered (state : QueryState) := Index.exists_nearest_of_curves reflexive nonempty exist
      asks located scores state
    rcases answered ⟨.absent, 0⟩ with ⟨kept, _, nearest, _⟩
    refine ⟨kept.map ScoredCandidate.neighbor, ?_⟩
    intro state
    rcases answered state with ⟨again, left, alsoNearest, run⟩
    rcases Index.exists_nearest_of_curves otherReflexive nonempty otherExist otherAsks
      otherLocated movedScores state with ⟨found, otherLeft, otherNearest, otherRun⟩
    rw [run, otherRun]
    exact ⟨congrArg Except.ok (nearest.neighbors_eq alsoNearest rfl distinct),
      congrArg Except.ok (nearest.neighbors_eq otherNearest sameNeighbors distinct)⟩

/-! ## Three points in two orders -/

/-- The sum of the squared differences. -/
def squaredDistance : Distance := fun left right => do
  let pairs ← Distance.paired left right
  return .real (pairs.foldl (fun total pair => total + (pair.1 - pair.2) * (pair.1 - pair.2)) 0)

/-- The curve key that is the first coordinate. -/
def byFirst : CurveKey :=
  CurveKey.coordinate (.ofInt 0) (.ofInt 1)

def ascendingPoints : Dataset :=
  ⟨⟨[1, 2, 4].map Key.ofInt, by decide⟩, [[1], [2], [4]], 1, rfl, by simp⟩

def lastPointFirst : Dataset :=
  ⟨⟨[4, 1, 2].map Key.ofInt, by decide⟩, [[4], [1], [2]], 1, rfl, by simp⟩

theorem rearranged_lastPointFirst : ascendingPoints.RearrangedTo lastPointFirst :=
  (List.perm_append_singleton (Key.ofInt 4, [4])
    [(Key.ofInt 1, [1]), (Key.ofInt 2, [2])]).symm

theorem separates_byFirst : byFirst.Separates ascendingPoints.points := by
  refine ⟨fun _ _ => rfl, [1, 2, 4].map CurveKey.ofFloat, rfl, ?_, ?_, ?_⟩
  · decide
  · decide
  · unfold Value.Apart
    decide

theorem build_byFirst :
    (CurveOrder.build ascendingPoints byFirst .null).outcome =
      .ok ⟨.null, ascendingPoints.keys⟩ := by
  have values : (ascendingPoints.points.mapM (CurveOrder.callKey byFirst)).outcome =
      .ok ([1, 2, 4].map CurveKey.ofFloat) := rfl
  have sorted : sortAscending Value.less? Value.same Prod.snd
      (ascendingPoints.keys.keys.zip ([1, 2, 4].map CurveKey.ofFloat)) =
        .ok (ascendingPoints.keys.keys.zip ([1, 2, 4].map CurveKey.ofFloat)) := by
    rw [sortAscending, if_pos (by decide)]
    apply congrArg Except.ok
    unfold sortStably
    rw [if_pos (by decide)]
    exact List.mergeSort_of_pairwise (by decide)
  rw [CurveOrder.build_outcome, if_neg (by decide), values, Outcome.ok_bind, sorted]
  rfl

def indexByFirst : Index where
  dataset := ascendingPoints
  curves := ⟨[⟨.null, ascendingPoints.keys⟩], [.one], .one, by simp, by decide⟩
  distance := squaredDistance
  arrangement := .asAdded
  nonempty := by decide
  covered := rfl

theorem build_indexByFirst :
    Index.build ascendingPoints [byFirst] (.list [.null]) .null (.ofInt 1) .null squaredDistance
      .asAdded = .ok indexByFirst := by
  have curves : ([byFirst].zipIdx.mapM fun entry => do
      let name ← (Value.list [.null]).itemAt entry.2
      (CurveOrder.build ascendingPoints entry.1 name).outcome) =
        .ok [⟨.null, ascendingPoints.keys⟩] :=
    Outcome.mapM_of_forall₂ (.cons build_byFirst .nil)
  have names : Index.curveNames (.list [.null]) 1 = .ok (.list [.null]) := rfl
  have workers : Index.checkWorkers .null = .ok () := rfl
  rw [Index.build, List.length_singleton, names, Outcome.ok_bind, workers, Outcome.ok_bind, curves]
  rfl

theorem queries_ignore_insertion_order_three_points :
    ∃ (otherIndex : Index) (query : Query) (found : KeySequence) (answer : List Neighbor),
      Index.build lastPointFirst [byFirst] (.list [.null]) .null (.ofInt 1) .null squaredDistance
        .lastFirst = .ok otherIndex ∧
      (∀ source, indexByFirst.candidates query source = (.ok found, source) ∧
        otherIndex.candidates query source = (.ok found, source)) ∧
      ∀ state, (indexByFirst.query query state).1 = .ok answer ∧
        (otherIndex.query query state).1 = .ok answer := by
  have separates : ∀ curveKey ∈ [byFirst], curveKey.Separates ascendingPoints.points := by
    intro curveKey isKey
    cases List.mem_singleton.mp isKey
    exact separates_byFirst
  have rebuilt : ∃ otherIndex, Index.build lastPointFirst [byFirst] (.list [.null]) .null (.ofInt 1)
      .null squaredDistance .lastFirst = .ok otherIndex :=
    Index.exists_build_rearranged rearranged_lastPointFirst separates build_indexByFirst
  rcases rebuilt with ⟨otherIndex, otherBuilt⟩
  let demand : Demand indexByFirst := ⟨Key.ofInt 2, 1, 2, none, by decide, by decide, by decide⟩
  have exist : indexByFirst.HasCurvesOf ⟨1⟩ := CurveMask.highest_lt_iff.mp (by decide)
  have asks : Query.Asks ⟨.ofInt 2, .value (.ofInt 1), .ofInt 1, .ofInt 2, .null⟩ demand ⟨1⟩ :=
    ⟨rfl, rfl, rfl, rfl, rfl, rfl⟩
  have otherRoom : otherIndex.hasRoomFor ⟨.ofInt 2, .value (.ofInt 1), .ofInt 1, .ofInt 2, .null⟩
      demand.halfWindow demand.count = true := rfl
  rcases queries_ignore_insertion_order rearranged_lastPointFirst build_indexByFirst otherBuilt
    (by decide) (by decide) exist asks otherRoom (fun _ curveKey _ isKey =>
      separates curveKey (List.mem_of_getElem? isKey)) with ⟨found, candidates, answers⟩
  have isFound : .ok found = (indexByFirst.candidates _ .absent).1 :=
    (congrArg Prod.fst (candidates .absent).1).symm
  rw [Demand.candidates_eq (by decide) (by decide) exist asks] at isFound
  cases isFound
  have scores : ScoresOf squaredDistance ascendingPoints [2] (demand.curveCandidates ⟨1⟩)
      [⟨.ofInt 2, 1, 0⟩, ⟨.ofInt 1, 0, 1⟩, ⟨.ofInt 4, 2, 4⟩] := ⟨rfl, by decide⟩
  rcases answers [2] rfl ⟨_, scores, by decide⟩ with ⟨answer, same⟩
  exact ⟨otherIndex, _, _, answer, otherBuilt, candidates, same⟩

end CurveNeighbors
