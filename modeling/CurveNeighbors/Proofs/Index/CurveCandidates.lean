import CurveNeighbors.Proofs.Candidates.Positions
import Mathlib.Algebra.BigOperators.Group.List.Basic
import Mathlib.Algebra.Ring.Int.Defs

/-!
# Candidates from curves

The candidates that a query takes from curves are the keys that lie, on one of the
curves at least, in the window around its own key. Each window has as many keys as
positions, and its own key is one of them. So all windows together have at least the
keys of the widest one, and each of them adds at most all of its keys but one.
-/

namespace CurveNeighbors

namespace Demand

variable {index : Index} {curve : Nat}

/-- A key is in the window around the key of the demand on a curve. -/
def InWindow (demand : Demand index) (curve : Nat) (other : Key) : Prop :=
  ∃ order place otherPlace window, index.curves.curves[curve]? = some order ∧
    order.position demand.key = .ok place ∧ order.position other = .ok otherPlace ∧
    candidateWindow index.dataset.size place (demand.halfWidthOn curve) = .ok window ∧
    window.contains otherPlace = true

/-- The keys in the window around the key of the demand on a curve. -/
def windowKeys (demand : Demand index) (curve : Nat) : List Key :=
  match index.curves.curves[curve]? with
  | none => []
  | some order =>
      match order.order.position? demand.key with
      | none => []
      | some place =>
          let window := CandidateWindow.around index.dataset.size place (demand.halfWidthOn curve)
          order.keysBetween window.low window.high

/-! ## One window -/

/-- The window on a curve that exists lies on the curve around the key of the demand. -/
theorem exists_window (demand : Demand index) (exists_curve : curve < index.curves.size) :
    ∃ order place window, index.curves.curves[curve]? = some order ∧
      order.position demand.key = .ok place ∧
      candidateWindow index.dataset.size place (demand.halfWidthOn curve) = .ok window ∧
      demand.windowKeys curve = order.keysBetween window.low window.high ∧
      0 ≤ window.low ∧ window.low ≤ place ∧ place ≤ window.high ∧ window.high < order.length ∧
      window.high - window.low + 1 =
        min (index.dataset.size : Int) (2 * demand.halfWidthOn curve + 1) := by
  have isCurve := List.getElem?_eq_getElem exists_curve
  have isMember := List.mem_of_getElem? isCurve
  rcases Index.exists_position isMember demand.indexed with ⟨place, found, inside⟩
  have first : (0 : Int) ≤ place := by omega
  have last : (place : Int) < index.dataset.size := by omega
  have nonnegative := demand.halfWidthOn_nonneg curve
  refine ⟨_, place, _, isCurve, found,
    CandidateWindow.candidateWindow_eq_ok first last nonnegative, ?_, ?_⟩
  · unfold windowKeys
    simp only [isCurve, KeySequence.position_eq_ok.mp found]
  · rw [Index.length_of_curve isMember]
    exact CandidateWindow.around_bounds first last nonnegative

theorem any_windowKeys (demand : Demand index) (exists_curve : curve < index.curves.size)
    (other : Key) :
    (demand.windowKeys curve).any (· == other) = true ↔ demand.InWindow curve other := by
  rcases demand.exists_window exists_curve with
    ⟨order, place, window, isCurve, found, success, isKeys, first, before, behind, last, _⟩
  rw [isKeys, CurveOrder.any_keysBetween first (Int.le_trans before behind) last]
  constructor
  · rintro ⟨otherPlace, otherFound, above, below⟩
    refine ⟨order, place, otherPlace, window, isCurve, found, otherFound, success, ?_⟩
    simp [CandidateWindow.contains, above, below]
  · rintro ⟨_, _, otherPlace, _, isSame, isPlace, otherFound, isWindow, contained⟩
    cases isCurve.symm.trans isSame
    cases found.symm.trans isPlace
    cases success.symm.trans isWindow
    refine ⟨otherPlace, otherFound, ?_⟩
    simpa [CandidateWindow.contains] using contained

theorem any_windowKeys_self (demand : Demand index) (exists_curve : curve < index.curves.size) :
    (demand.windowKeys curve).any (· == demand.key) = true := by
  apply (demand.any_windowKeys exists_curve demand.key).mpr
  rcases demand.exists_window exists_curve with
    ⟨order, place, window, isCurve, found, success, _, _, before, behind, _⟩
  refine ⟨order, place, place, window, isCurve, found, found, success, ?_⟩
  simp [CandidateWindow.contains, before, behind]

theorem length_windowKeys (demand : Demand index) (exists_curve : curve < index.curves.size) :
    ((demand.windowKeys curve).length : Int) =
      min (index.dataset.size : Int) (2 * demand.halfWidthOn curve + 1) := by
  rcases demand.exists_window exists_curve with
    ⟨order, place, window, _, _, _, isKeys, first, before, behind, last, width⟩
  rw [isKeys, CurveOrder.length_keysBetween first (Int.le_trans before behind) last, width]

theorem pairwise_windowKeys (demand : Demand index) (curve : Nat) :
    (demand.windowKeys curve).Pairwise fun earlier later => (earlier == later) = false := by
  unfold windowKeys
  split
  · exact .nil
  · split
    · exact .nil
    · apply CurveOrder.pairwise_keysBetween

theorem contains_of_mem_windowKeys (demand : Demand index)
    (exists_curve : curve < index.curves.size) {key : Key}
    (isKey : key ∈ demand.windowKeys curve) : index.dataset.contains key = true := by
  rcases demand.exists_window exists_curve with ⟨order, _, window, isCurve, _, _, isKeys, _⟩
  apply KeySequence.contains_of_mem_of_covers
    (Index.covers_of_curve (List.mem_of_getElem? isCurve))
  rw [isKeys] at isKey
  exact List.mem_of_mem_take (List.mem_of_mem_drop isKey)

theorem exists_order_of_mem_windowKeys {demand : Demand index} {key : Key}
    (isKey : key ∈ demand.windowKeys curve) :
    ∃ order ∈ index.curves.curves, key ∈ order.order.keys := by
  unfold windowKeys at isKey
  split at isKey
  · simp at isKey
  · next order isCurve =>
      split at isKey
      · simp at isKey
      · exact ⟨order, List.mem_of_getElem? isCurve,
          List.mem_of_mem_take (List.mem_of_mem_drop isKey)⟩

/-! ## Adding a window -/

theorem addWindow_eq {demand : Demand index} {positions : List Nat}
    (reflexive : demand.key.equals demand.key = true)
    (placed : List.Forall₂ (fun order place => order.position demand.key = .ok place)
      index.curves.curves positions)
    (exists_curve : curve < index.curves.size) (candidates : KeySequence) :
    index.generator.addWindow demand.key (positionValues positions) (.ofInt demand.halfWindow)
        (ScaleFactor.toValue demand.scale) candidates curve =
      .ok (candidates.insertAll (demand.windowKeys curve)) := by
  rcases demand.exists_window exists_curve with
    ⟨order, place, window, isCurve, found, success, isKeys, first, before, behind, last, width⟩
  have given := positionAt_positionValues (getElem?_of_forall₂_position placed isCurve found)
  have passing : index.generator.Passes demand.key curve place :=
    ⟨reflexive, order, place, isCurve, found, rfl⟩
  have keys : order.keysAround index.generator.dataset.size place
      (.whole (demand.halfWidthOn curve)) = .ok (demand.windowKeys curve) := by
    rw [CurveOrder.keysAround, Index.generator, success, isKeys]
    rfl
  have halfWidth : index.generator.halfWidth curve (.ofInt demand.halfWindow)
      (ScaleFactor.toValue demand.scale) = .ok (.number (.whole (demand.halfWidthOn curve))) :=
    CandidateGenerator.halfWidth_eq exists_curve demand.halfWindow demand.scale
  have covered : index.generator.curves.checkCovers index.generator.dataset.keys = .ok () :=
    index.covered
  rcases CandidateGenerator.checkedPosition_cases covered isCurve given demand.key with
    ⟨_, passes⟩ | ⟨drifted, _⟩
  · simp only [CandidateGenerator.addWindow, passes, Outcome.ok_bind, halfWidth, Product.toNumber,
      keys]
    rfl
  · exact absurd passing drifted

/-! ## All windows together -/

/-- The key of a demand and the keys in its windows on the curves of a mask. -/
def curveCandidates (demand : Demand index) (mask : CurveMask) : KeySequence :=
  (KeySequence.empty.insert demand.key).insertAll (mask.toList.flatMap demand.windowKeys)

theorem foldlM_addWindow {demand : Demand index} {positions : List Nat}
    (reflexive : demand.key.equals demand.key = true)
    (placed : List.Forall₂ (fun order place => order.position demand.key = .ok place)
      index.curves.curves positions)
    {curves : List Nat} (exist : ∀ curve ∈ curves, curve < index.curves.size)
    (candidates : KeySequence) :
    curves.foldlM (index.generator.addWindow demand.key (positionValues positions)
        (.ofInt demand.halfWindow) (ScaleFactor.toValue demand.scale)) candidates =
      .ok (candidates.insertAll (curves.flatMap demand.windowKeys)) := by
  induction curves generalizing candidates with
  | nil => rfl
  | cons curve curves ih =>
      rcases List.forall_mem_cons.mp exist with ⟨exists_curve, exist⟩
      rw [List.foldlM_cons, addWindow_eq reflexive placed exists_curve, Outcome.ok_bind, ih exist,
        List.flatMap_cons, KeySequence.insertAll_append]

theorem candidates_eq {demand : Demand index} {mask : CurveMask} {query : Query}
    (reflexive : demand.key.equals demand.key = true) (nonempty : mask.isEmpty = false)
    (exist : index.HasCurvesOf mask) (asks : query.Asks demand mask) (source : RandomSource) :
    index.candidates query source = (.ok (demand.curveCandidates mask), source) := by
  rcases Index.check_of_asks exist asks with ⟨positions, checked, placed⟩
  have exist : ∀ curve ∈ mask.toList, curve < index.curves.size := by
    intro curve selected
    exact exist curve (CurveMask.mem_toList.mp selected)
  rw [Index.candidates, checked, Drawing.pure_ok_bind, Index.candidatesOf]
  simp only [nonempty, asks.scale]
  rw [if_neg (by simp)]
  exact congrArg (·, source) (foldlM_addWindow reflexive placed exist _)

/-- A key that does not equal itself has no candidates from curves. -/
theorem exists_fault_of_irreflexive {demand : Demand index} {mask : CurveMask} {query : Query}
    (irreflexive : demand.key.equals demand.key = false) (nonempty : mask.isEmpty = false)
    (exist : index.HasCurvesOf mask) (asks : query.Asks demand mask) (source : RandomSource) :
    ∃ fault, fault.kind = .consistency ∧
      index.candidates query source = (.error fault, source) := by
  rcases Index.check_of_asks exist asks with ⟨positions, checked, placed⟩
  let request : CandidateRequest := ⟨query.key, positionValues positions, .mask mask,
    .ofInt demand.halfWindow, .ofInt demand.count, query.scale.toValue⟩
  have asksWindows : index.generator.AsksWindows request demand.key mask
      fun curve => (positions[curve]?.getD 0 : Nat) := by
    refine ⟨asks.key, rfl, nonempty, exist, ⟨_, rfl, demand.nonnegative⟩, ⟨_, asks.scale⟩, ?_⟩
    intro curve selected
    rcases demand.exists_window (exist curve selected) with ⟨order, place, _, isCurve, found, _⟩
    have given := getElem?_of_forall₂_position placed isCurve found
    rw [positionAt_positionValues given, given]
    rfl
  rcases CandidateGenerator.generate_of_irreflexive index.covered asksWindows irreflexive
    source with ⟨_, fault, _, _, _, consistency, failure⟩
  refine ⟨fault, consistency, ?_⟩
  rw [CandidateGenerator.generate_eq asksWindows] at failure
  rw [Index.candidates, checked, Drawing.pure_ok_bind, Index.candidatesOf]
  simp only [nonempty]
  rw [if_neg (by simp)]
  exact failure

theorem equals_self_of_candidates {demand : Demand index} {mask : CurveMask} {query : Query}
    (nonempty : mask.isEmpty = false) (exist : index.HasCurvesOf mask)
    (asks : query.Asks demand mask) {source left : RandomSource} {found : KeySequence}
    (success : index.candidates query source = (.ok found, left)) :
    demand.key.equals demand.key = true := by
  by_contra irreflexive
  rcases exists_fault_of_irreflexive (Bool.eq_false_iff.mpr irreflexive) nonempty exist asks
    source with ⟨fault, _, failure⟩
  rw [success] at failure
  cases failure

theorem contains_curveCandidates {demand : Demand index} {mask : CurveMask}
    (nonempty : mask.isEmpty = false) (exist : index.HasCurvesOf mask) (other : Key) :
    (demand.curveCandidates mask).contains other = true ↔
      ∃ curve, mask.selects curve = true ∧ demand.InWindow curve other := by
  rw [curveCandidates, KeySequence.contains_insertAll, KeySequence.contains_insert,
    List.any_flatMap]
  have inWindow : mask.toList.any (fun curve => (demand.windowKeys curve).any (· == other)) = true ↔
      ∃ curve, mask.selects curve = true ∧ demand.InWindow curve other := by
    rw [List.any_eq_true]
    apply exists_congr
    intro curve
    rw [CurveMask.mem_toList]
    apply and_congr_right
    intro selected
    exact demand.any_windowKeys (exist curve selected) other
  rw [Bool.or_eq_true, inWindow]
  constructor
  · rintro (isKey | inSome)
    · rcases CurveMask.exists_selects nonempty with ⟨curve, selected, _⟩
      have exists_curve := exist curve selected
      refine ⟨curve, selected, (demand.any_windowKeys exists_curve other).mp ?_⟩
      have same : (demand.key == other) = true := isKey
      rcases List.any_eq_true.mp (demand.any_windowKeys_self exists_curve) with
        ⟨member, isMember, isSame⟩
      exact List.any_eq_true.mpr ⟨member, isMember, BEq.trans isSame same⟩
    · exact inSome
  · intro inSome
    exact Or.inr inSome

theorem contains_of_mem_curveCandidates {demand : Demand index} {mask : CurveMask}
    (exist : index.HasCurvesOf mask) :
    ∀ key ∈ (demand.curveCandidates mask).keys, index.dataset.contains key = true := by
  intro key isKey
  rcases KeySequence.mem_of_mem_insertAll isKey with isFirst | isWindow
  · rcases KeySequence.mem_of_mem_insert isFirst with impossible | rfl
    · simp [KeySequence.empty] at impossible
    · exact demand.indexed
  · rcases List.mem_flatMap.mp isWindow with ⟨curve, selected, isWindow⟩
    exact demand.contains_of_mem_windowKeys (exist curve (CurveMask.mem_toList.mp selected))
      isWindow

/-- Each window adds at most all of its keys but the key of the demand. -/
theorem size_insertAll_le (demand : Demand index) {curves : List Nat}
    (exist : ∀ curve ∈ curves, curve < index.curves.size) {candidates : KeySequence}
    (present : candidates.contains demand.key = true) :
    ((candidates.insertAll (curves.flatMap demand.windowKeys)).size : Int) ≤
      candidates.size + (curves.map fun curve =>
        min (2 * demand.halfWidthOn curve + 1) (index.dataset.size : Int) - 1).sum := by
  induction curves generalizing candidates with
  | nil => simp [KeySequence.insertAll]
  | cons curve curves ih =>
      rcases List.forall_mem_cons.mp exist with ⟨exists_curve, exist⟩
      have length := demand.length_windowKeys exists_curve
      have grown := candidates.size_insertAll (demand.pairwise_windowKeys curve)
      -- The key of the demand is in this window as in all others, and is there already.
      have notAll : (demand.windowKeys curve).countP (fun key => !candidates.contains key) <
          (demand.windowKeys curve).length := by
        apply Nat.lt_of_le_of_ne List.countP_le_length
        intro all
        rcases List.any_eq_true.mp (demand.any_windowKeys_self exists_curve) with
          ⟨member, isMember, same⟩
        have absent := List.countP_eq_length.mp all member isMember
        simp [KeySequence.contains_congr candidates same, present] at absent
      have stillPresent : (candidates.insertAll (demand.windowKeys curve)).contains demand.key =
          true := by
        rw [KeySequence.contains_insertAll, present, Bool.true_or]
      have rest := ih exist stillPresent
      rw [List.flatMap_cons, KeySequence.insertAll_append, List.map_cons, List.sum_cons]
      omega

/-- There are at least as many candidates as any of the windows has keys. -/
theorem le_size_curveCandidates (demand : Demand index) {mask : CurveMask}
    (exist : index.HasCurvesOf mask) {curve : Nat} (selected : mask.selects curve = true) :
    min (index.dataset.size : Int) (2 * demand.halfWidthOn curve + 1) ≤
      (demand.curveCandidates mask).size := by
  have exists_curve := exist curve selected
  have within : (⟨demand.windowKeys curve, demand.pairwise_windowKeys curve⟩ : KeySequence).size ≤
      (demand.curveCandidates mask).size := by
    apply KeySequence.size_le_of_within
    intro key isKey
    have indexed := demand.contains_of_mem_windowKeys exists_curve isKey
    rw [curveCandidates, KeySequence.contains_insertAll, Bool.or_eq_true]
    right
    apply List.any_eq_true.mpr
    exact ⟨key, List.mem_flatMap.mpr ⟨curve, CurveMask.mem_toList.mpr selected, isKey⟩,
      KeySequence.beq_self_of_contains indexed⟩
  rw [← demand.length_windowKeys exists_curve]
  exact Int.ofNat_le.mpr within

/-- The half width of the widest window. -/
def widestHalfWidth (demand : Demand index) (mask : CurveMask) : Int :=
  (mask.toList.map demand.halfWidthOn).foldr max 0

theorem exists_widest (demand : Demand index) {mask : CurveMask}
    (nonempty : mask.isEmpty = false) :
    ∃ curve, mask.selects curve = true ∧
      demand.widestHalfWidth mask = demand.halfWidthOn curve := by
  have among : ∀ curves : List Nat, curves ≠ [] → ∃ curve ∈ curves,
      (curves.map demand.halfWidthOn).foldr max 0 = demand.halfWidthOn curve := by
    intro curves some
    induction curves with
    | nil => exact absurd rfl some
    | cons curve curves ih =>
        have nonnegative := demand.halfWidthOn_nonneg curve
        rw [List.map_cons, List.foldr_cons]
        by_cases last : curves = []
        · refine ⟨curve, List.mem_cons_self, ?_⟩
          simpa [last] using Int.max_eq_left nonnegative
        · rcases ih last with ⟨other, isOther, widest⟩
          rw [widest]
          rcases Int.le_total (demand.halfWidthOn other) (demand.halfWidthOn curve) with
            narrower | wider
          · exact ⟨curve, List.mem_cons_self, Int.max_eq_left narrower⟩
          · exact ⟨other, List.mem_cons_of_mem _ isOther, Int.max_eq_right wider⟩
  rcases CurveMask.exists_selects nonempty with ⟨first, selected, _⟩
  have isSelected := CurveMask.mem_toList.mpr selected
  rcases among mask.toList (List.ne_nil_of_mem isSelected) with ⟨curve, isCurve, widest⟩
  exact ⟨curve, CurveMask.mem_toList.mp isCurve, widest⟩

theorem contains_curveCandidates_union {demand : Demand index} {first second : CurveMask}
    (firstNonempty : first.isEmpty = false) (secondNonempty : second.isEmpty = false)
    (nonempty : (first.union second).isEmpty = false)
    (exist : index.HasCurvesOf (first.union second)) (other : Key) :
    (demand.curveCandidates (first.union second)).contains other =
      ((demand.curveCandidates first).contains other ||
        (demand.curveCandidates second).contains other) := by
  rw [Bool.eq_iff_iff, Bool.or_eq_true, contains_curveCandidates nonempty exist,
    contains_curveCandidates firstNonempty exist.left_of_union,
    contains_curveCandidates secondNonempty exist.right_of_union, ← exists_or]
  apply exists_congr
  intro curve
  rw [CurveMask.selects_union, Bool.or_eq_true, or_and_right]

theorem contains_self_curveCandidates (demand : Demand index) (mask : CurveMask) :
    (demand.curveCandidates mask).contains demand.key = true := by
  rw [curveCandidates, KeySequence.contains_insertAll, KeySequence.contains_insert,
    KeySequence.beq_self_of_contains demand.indexed]
  simp

theorem size_curveCandidates_le (demand : Demand index) {mask : CurveMask}
    (exist : index.HasCurvesOf mask) :
    ((demand.curveCandidates mask).size : Int) ≤ min (index.dataset.size : Int)
      (1 + (mask.toList.map fun curve =>
        min (2 * demand.halfWidthOn curve + 1) (index.dataset.size : Int) - 1).sum) := by
  apply Int.le_min.mpr
  constructor
  · apply Int.ofNat_le.mpr
    exact KeySequence.size_le_of_within (contains_of_mem_curveCandidates exist)
  · have present : (KeySequence.empty.insert demand.key).contains demand.key = true := by
      rw [KeySequence.contains_insert, KeySequence.beq_self_of_contains demand.indexed,
        Bool.or_true]
    have selected : ∀ curve ∈ mask.toList, curve < index.curves.size := by
      intro curve isSelected
      exact exist curve (CurveMask.mem_toList.mp isSelected)
    have grown := demand.size_insertAll_le selected present
    have first : (KeySequence.empty.insert demand.key).size = 1 := rfl
    rw [first] at grown
    exact grown

/-- The candidates from curves are the keys in the windows around the key of the query. -/
theorem candidates_of_curves (demand : Demand index) {mask : CurveMask} {query : Query}
    (reflexive : demand.key.equals demand.key = true) (nonempty : mask.isEmpty = false)
    (exist : index.HasCurvesOf mask) (asks : query.Asks demand mask) (source : RandomSource) :
    ∃ found : KeySequence, index.candidates query source = (.ok found, source) ∧
      (∀ other, found.contains other = true ↔ index.dataset.contains other = true ∧
        ∃ curve, mask.selects curve = true ∧ demand.InWindow curve other) ∧
      (∀ first second : CurveMask, first.isEmpty = false → second.isEmpty = false →
        mask = first.union second → ∃ left right : KeySequence,
          index.candidates { query with selection := .mask first } source = (.ok left, source) ∧
          index.candidates { query with selection := .mask second } source = (.ok right, source) ∧
          ∀ other, found.contains other = (left.contains other || right.contains other)) ∧
      found.contains demand.key = true ∧
      min (index.dataset.size : Int) (2 * demand.widestHalfWidth mask + 1) ≤ found.size ∧
      (found.size : Int) ≤ min (index.dataset.size : Int) (1 + (mask.toList.map fun curve =>
        min (2 * demand.halfWidthOn curve + 1) (index.dataset.size : Int) - 1).sum) := by
  refine ⟨demand.curveCandidates mask, candidates_eq reflexive nonempty exist asks source,
    ?_, ?_, ?_, ?_, ?_⟩
  · intro other
    rw [contains_curveCandidates nonempty exist]
    constructor
    · rintro ⟨curve, selected, inWindow⟩
      refine ⟨?_, curve, selected, inWindow⟩
      rcases inWindow with ⟨order, _, otherPlace, _, isCurve, _, otherFound, _⟩
      rw [← Index.contains_of_curve (List.mem_of_getElem? isCurve)]
      exact KeySequence.exists_position_iff.mp ⟨otherPlace, otherFound⟩
    · rintro ⟨_, inSome⟩
      exact inSome
  · rintro first second firstNonempty secondNonempty rfl
    exact ⟨_, _,
      candidates_eq reflexive firstNonempty exist.left_of_union (asks.withMask first) source,
      candidates_eq reflexive secondNonempty exist.right_of_union (asks.withMask second) source,
      contains_curveCandidates_union firstNonempty secondNonempty nonempty exist⟩
  · exact demand.contains_self_curveCandidates mask
  · rcases demand.exists_widest nonempty with ⟨curve, selected, widest⟩
    rw [widest]
    exact demand.le_size_curveCandidates exist selected
  · exact demand.size_curveCandidates_le exist

/-- Five keys on two curves, of which the second goes backwards in steps of two. -/
def twoCurves : Index where
  dataset := ⟨⟨[1, 2, 3, 4, 5].map Key.ofInt, by decide⟩, [[1], [2], [3], [4], [5]], 1, rfl,
    by simp⟩
  curves := ⟨[⟨.text "up", [1, 2, 3, 4, 5].map Key.ofInt, by decide⟩,
    ⟨.null, [5, 3, 1, 4, 2].map Key.ofInt, by decide⟩], [.one, ⟨2, by decide⟩], .one, rfl,
    by decide⟩
  distance := .hamming
  arrangement := .asAdded
  nonempty := by decide
  covered := rfl

theorem candidates_of_curves_pair :
    ∃ (demand : Demand twoCurves) (query : Query) (mask : CurveMask) (found : KeySequence),
      mask.isEmpty = false ∧ twoCurves.HasCurvesOf mask ∧ query.Asks demand mask ∧
      twoCurves.candidates query .absent = (.ok found, .absent) ∧
      ∀ other, found.contains other = true ↔ twoCurves.dataset.contains other = true ∧
        ∃ curve, mask.selects curve = true ∧ demand.InWindow curve other := by
  have exist : twoCurves.HasCurvesOf ⟨3⟩ := CurveMask.highest_lt_iff.mp (by decide)
  let demand : Demand twoCurves :=
    ⟨Key.ofInt 5, 1, 3, none, by decide, by decide, by decide⟩
  have asks : Query.Asks ⟨.ofInt 5, .value (.ofInt 3), .ofInt 1, .ofInt 3, .null⟩ demand ⟨3⟩ :=
    ⟨rfl, rfl, rfl, rfl, rfl, rfl⟩
  rcases candidates_of_curves demand (by decide) (by decide) exist asks .absent with
    ⟨found, run, among, _⟩
  exact ⟨demand, _, ⟨3⟩, found, by decide, exist, asks, run, among⟩

end Demand

end CurveNeighbors
