import CurveNeighbors.Index.Basic
import CurveNeighbors.Proofs.Computation
import CurveNeighbors.Proofs.CurveMasks
import CurveNeighbors.Proofs.Windows

/-!
# Demands on an index

An index has the keys of its dataset on every curve, so each of them has a position
there. A demand is what a valid query comes down to: an indexed key, a window size, a
number of neighbours and perhaps a scale, together with a mask of curves that exist. A
query that asks for one passes all checks.
-/

namespace CurveNeighbors

namespace Drawing

variable {α β : Type}

theorem pure_ok_bind (result : α) (next : α → Drawing β) (source : RandomSource) :
    (Drawing.pure (.ok result) >>= next) source = next result source :=
  rfl

end Drawing

/-! ## The keys on the curves -/

namespace CurveSet

variable {set : CurveSet} {keys : KeySequence} {order : CurveOrder} {key : Key}

theorem covers_of_checkCovers (covered : set.checkCovers keys = .ok ())
    (isCurve : order ∈ set.curves) : order.order.covers keys = true := by
  rw [checkCovers] at covered
  split at covered
  · cases covered
  · next noneMisses =>
      have covers := List.find?_eq_none.mp noneMisses order isCurve
      simpa using covers

theorem length_of_checkCovers (covered : set.checkCovers keys = .ok ())
    (isCurve : order ∈ set.curves) : order.length = keys.size :=
  (KeySequence.covers_iff.mp (covers_of_checkCovers covered isCurve)).1

theorem contains_of_checkCovers (covered : set.checkCovers keys = .ok ())
    (isCurve : order ∈ set.curves) (key : Key) : order.order.contains key = keys.contains key :=
  KeySequence.contains_eq_of_covers (covers_of_checkCovers covered isCurve) key

/-- A key that is on the curves has a position on each of them. -/
theorem exists_positionsOf (covered : set.checkCovers keys = .ok ()) (some : set.curves ≠ [])
    (present : keys.contains key = true) :
    ∃ positions, set.positionsOf key = .ok positions ∧
      List.Forall₂ (fun order place => order.position key = .ok place) set.curves positions := by
  have each : ∀ order ∈ set.curves, ∃ place, order.position key = .ok place := by
    intro order isCurve
    apply KeySequence.exists_position_iff.mpr
    rw [contains_of_checkCovers covered isCurve, present]
  rcases Outcome.exists_mapM each with ⟨positions, success⟩
  refine ⟨positions, ?_, Outcome.forall₂_of_mapM success⟩
  rw [positionsOf, if_neg (by simpa using some)]
  exact success

end CurveSet

namespace Index

variable {index : Index} {order : CurveOrder} {curve : Nat} {key : Key}

theorem covers_of_curve (isCurve : order ∈ index.curves.curves) :
    order.order.covers index.dataset.keys = true :=
  CurveSet.covers_of_checkCovers index.covered isCurve

theorem length_of_curve (isCurve : order ∈ index.curves.curves) :
    order.length = index.dataset.size :=
  CurveSet.length_of_checkCovers index.covered isCurve

theorem contains_of_curve (isCurve : order ∈ index.curves.curves) (key : Key) :
    order.order.contains key = index.dataset.contains key :=
  CurveSet.contains_of_checkCovers index.covered isCurve key

/-- An indexed key has a position on every curve. -/
theorem exists_position (isCurve : order ∈ index.curves.curves)
    (indexed : index.dataset.contains key = true) :
    ∃ place, order.position key = .ok place ∧ place < index.dataset.size := by
  rw [← contains_of_curve isCurve] at indexed
  rcases KeySequence.exists_position_iff.mpr indexed with ⟨place, found⟩
  refine ⟨place, found, ?_⟩
  rw [← length_of_curve isCurve]
  exact KeySequence.lt_size_of_position found

theorem exists_positionsOf (indexed : index.dataset.contains key = true) :
    ∃ positions, index.positionsOf key = .ok positions ∧
      List.Forall₂ (fun order place => order.position key = .ok place) index.curves.curves
        positions := by
  rw [positionsOf, if_pos indexed]
  by_cases none : index.curves.curves = []
  · rw [none]
    exact ⟨[], by simp [CurveSet.size, none], .nil⟩
  · rcases CurveSet.exists_positionsOf index.covered none indexed with ⟨positions, found, each⟩
    refine ⟨positions, ?_, each⟩
    rw [if_neg (by simpa [CurveSet.size] using none)]
    exact found

end Index

/-! ## Demands -/

namespace ScaleFactor

/-- The scale of a query as a value, which is null where there is none. -/
def toValue : Option ScaleFactor → Value
  | some factor => .ofInt factor.val
  | none => .null

end ScaleFactor

/-- What a valid query asks for, apart from the curves. -/
structure Demand (index : Index) where
  key : Key
  halfWindow : Int
  count : Int
  scale : Option ScaleFactor
  indexed : index.dataset.contains key = true
  nonnegative : 0 ≤ halfWindow
  positive : 0 < count

namespace Demand

variable {index : Index}

/-- The number of positions that a window unit means on a curve. -/
def factorOn (demand : Demand index) (curve : Nat) : ScaleFactor :=
  demand.scale.getD (index.curves.scaleFactors[curve]?.getD .one)

/-- The half width of the window on a curve. -/
def halfWidthOn (demand : Demand index) (curve : Nat) : Int :=
  demand.halfWindow * (demand.factorOn curve).val

theorem toNat_count (demand : Demand index) : (demand.count.toNat : Int) = demand.count :=
  Int.toNat_of_nonneg (Int.le_of_lt demand.positive)

theorem toNat_count_pos (demand : Demand index) : 0 < demand.count.toNat :=
  Int.pos_iff_toNat_pos.mp demand.positive

theorem halfWidthOn_nonneg (demand : Demand index) (curve : Nat) : 0 ≤ demand.halfWidthOn curve :=
  Int.mul_nonneg demand.nonnegative (Int.le_of_lt (demand.factorOn curve).property)

end Demand

/-- A query asks for what is demanded, from the curves of a mask. Its integers may be of machine
types that have room for what is computed from them. -/
structure Query.Asks {index : Index} (query : Query) (demand : Demand index) (mask : CurveMask) :
    Prop where
  key : query.key.toKey = .ok demand.key
  selection : CurveMask.ofSelection query.selection = .ok mask
  halfWindow : query.halfWindow.toValue = .ofInt demand.halfWindow
  count : query.count.toValue = .ofInt demand.count
  scale : query.scale.toValue = ScaleFactor.toValue demand.scale
  room : index.hasRoomFor query demand.halfWindow demand.count = true

theorem Query.Asks.withMask {index : Index} {query : Query} {demand : Demand index}
    {mask : CurveMask} (asks : query.Asks demand mask) (other : CurveMask) :
    ({ query with selection := .mask other } : Query).Asks demand other :=
  ⟨asks.key, rfl, asks.halfWindow, asks.count, asks.scale, asks.room⟩

theorem Query.Asks.withCount {index : Index} {query : Query} {demand : Demand index}
    {mask : CurveMask} (asks : query.Asks demand mask) {count : Int} (positive : 0 < count) :
    ({ query with count := .ofInt count } : Query).Asks
      { demand with count := count, positive := positive } mask := by
  refine ⟨asks.key, asks.selection, asks.halfWindow, rfl, asks.scale, ?_⟩
  have room := asks.room
  rw [Index.hasRoomFor, Bool.and_eq_true] at room ⊢
  exact ⟨room.1, rfl⟩

/-- All curves that a mask selects are in an index. -/
def Index.HasCurvesOf (index : Index) (mask : CurveMask) : Prop :=
  ∀ curve, mask.selects curve = true → curve < index.curves.size

namespace Index.HasCurvesOf

variable {index : Index} {first second : CurveMask}

theorem left_of_union (exist : index.HasCurvesOf (first.union second)) :
    index.HasCurvesOf first := by
  intro curve selected
  apply exist curve
  simp [selected]

theorem right_of_union (exist : index.HasCurvesOf (first.union second)) :
    index.HasCurvesOf second := by
  intro curve selected
  apply exist curve
  simp [selected]

end Index.HasCurvesOf

/-! ## Checks that pass -/

namespace Index

variable {index : Index}

theorem readCount_eq_ok {value : Value} {count : Int} :
    readCount value = .ok count ↔ value = .ofInt count ∧ 0 < count := by
  constructor
  · intro success
    unfold readCount at success
    split at success
    · split at success
      · cases success
        exact ⟨rfl, by assumption⟩
      · cases success
    · cases success
  · rintro ⟨rfl, positive⟩
    exact if_pos positive

theorem readHalfWindow_eq_ok {value : Value} {halfWindow : Int} :
    readHalfWindow value = .ok halfWindow ↔ value = .ofInt halfWindow ∧ 0 ≤ halfWindow := by
  constructor
  · intro success
    unfold readHalfWindow at success
    split at success
    · split at success
      · cases success
        exact ⟨rfl, by assumption⟩
      · cases success
    · cases success
  · rintro ⟨rfl, nonnegative⟩
    exact if_pos nonnegative

theorem checkScale_eq_ok {value : Value} :
    checkScale value = .ok () ↔ ∃ scale, value = ScaleFactor.toValue scale := by
  constructor
  · intro success
    unfold checkScale at success
    split at success
    · exact ⟨none, rfl⟩
    · split at success
      · next factor positive => exact ⟨some ⟨factor, positive⟩, rfl⟩
      · cases success
    · cases success
  · rintro ⟨scale, rfl⟩
    cases scale with
    | none => rfl
    | some factor => exact if_pos factor.property

theorem readMask_eq (index : Index) (selection : CurveSelection) :
    index.readMask selection =
      CurveMask.ofSelection selection >>= fun mask =>
        if mask.isEmpty = false ∧ index.curves.size = 0 then .error (.maskWithoutCurves mask)
        else if mask.highest < index.curves.size then .ok mask
        else .error (.curveOutOfRange mask (.ofInt index.curves.size)) := by
  unfold readMask
  cases CurveMask.ofSelection selection with
  | error fault => rfl
  | ok mask =>
      rw [Outcome.ok_bind, Outcome.ok_bind, CurveMask.validate_ofInt]
      by_cases without : mask.isEmpty = false ∧ index.curves.size = 0
      · simp [without]
        rfl
      · have passes : (!mask.isEmpty && index.curves.size == 0) = false := by
          simpa using without
        rw [passes, if_neg without]
        split <;> rfl

/-- A mask is read from a selection of curves that all exist. -/
theorem readMask_eq_ok {selection : CurveSelection} {mask : CurveMask} :
    index.readMask selection = .ok mask ↔
      CurveMask.ofSelection selection = .ok mask ∧ index.HasCurvesOf mask := by
  rw [readMask_eq]
  constructor
  · intro success
    rcases Outcome.bind_eq_ok.mp success with ⟨selected, isMask, success⟩
    split at success
    · cases success
    · split at success
      · next low =>
          cases success
          exact ⟨isMask, CurveMask.highest_lt_iff.mp low⟩
      · cases success
  · rintro ⟨isMask, exist⟩
    have some : ¬ (mask.isEmpty = false ∧ index.curves.size = 0) := by
      rintro ⟨nonempty, without⟩
      rcases CurveMask.exists_selects nonempty with ⟨curve, selected, _⟩
      have inside := exist curve selected
      omega
    rw [isMask, Outcome.ok_bind, if_neg some, if_pos (CurveMask.highest_lt_iff.mpr exist)]

/-- A query for a demand passes all checks. -/
theorem check_of_asks {query : Query} {demand : Demand index} {mask : CurveMask}
    (exist : index.HasCurvesOf mask) (asks : query.Asks demand mask) :
    ∃ positions, index.check query =
        .ok ⟨demand.key, positions, mask, demand.halfWindow, demand.count, query.scale.toValue⟩ ∧
      List.Forall₂ (fun order place => order.position demand.key = .ok place)
        index.curves.curves positions := by
  rcases exists_positionsOf demand.indexed with ⟨positions, found, each⟩
  refine ⟨positions, ?_, each⟩
  rw [check, readCount_eq_ok.mpr ⟨asks.count, demand.positive⟩, Outcome.ok_bind,
    readHalfWindow_eq_ok.mpr ⟨asks.halfWindow, demand.nonnegative⟩, Outcome.ok_bind,
    readMask_eq_ok.mpr ⟨asks.selection, exist⟩, Outcome.ok_bind,
    checkScale_eq_ok.mpr ⟨demand.scale, asks.scale⟩, Outcome.ok_bind, asks.key, Outcome.ok_bind,
    found, Outcome.ok_bind, asks.room]
  rfl

/-- What has passed all checks is a query for a demand. -/
theorem exists_asks_of_check {query : Query} {checked : CheckedQuery}
    (success : index.check query = .ok checked) :
    ∃ demand : Demand index, index.HasCurvesOf checked.mask ∧ query.Asks demand checked.mask ∧
      checked.key = demand.key ∧ checked.count = demand.count := by
  rw [check] at success
  rcases Outcome.bind_eq_ok.mp success with ⟨count, counted, success⟩
  rcases Outcome.bind_eq_ok.mp success with ⟨halfWindow, sized, success⟩
  rcases Outcome.bind_eq_ok.mp success with ⟨mask, masked, success⟩
  rcases Outcome.bind_eq_ok.mp success with ⟨⟨⟩, scaled, success⟩
  rcases Outcome.bind_eq_ok.mp success with ⟨key, keyed, success⟩
  rcases Outcome.bind_eq_ok.mp success with ⟨positions, placed, success⟩
  have room : index.hasRoomFor query halfWindow count = true := by
    by_contra overflows
    rw [Bool.eq_false_iff.mpr overflows] at success
    cases success
  rw [room] at success
  cases success
  rcases readCount_eq_ok.mp counted with ⟨isCount, positive⟩
  rcases readHalfWindow_eq_ok.mp sized with ⟨isHalfWindow, nonnegative⟩
  rcases readMask_eq_ok.mp masked with ⟨isMask, exist⟩
  rcases checkScale_eq_ok.mp scaled with ⟨scale, isScale⟩
  have indexed : index.dataset.contains key = true := by
    unfold positionsOf at placed
    split at placed
    · assumption
    · cases placed
  exact ⟨⟨key, halfWindow, count, scale, indexed, nonnegative, positive⟩, exist,
    ⟨keyed, isMask, isHalfWindow, isCount, isScale, room⟩, rfl, rfl⟩

end Index

end CurveNeighbors
