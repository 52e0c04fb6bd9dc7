import CurveNeighbors.Proofs.Index.Demands
import Mathlib.Data.Nat.Find

/-!
# Positions that are given

The windows of a request lie around positions that the caller gives, and nothing says
that these are up to date. What is given for a curve is the position of the key there, or
it has drifted: it is not on the curve at all, or another key is there. A curve has no
key twice, so the position of the key is the only one that passes, and a negative
position is never counted from the end. For a key that does not equal itself no position
passes, not even its own.

The curves are taken in ascending order. A request succeeds if the positions on all
selected curves are right, and fails at the first that is not. Of the positions on other
curves nothing is read.
-/

namespace CurveNeighbors

/-- Positions as they are handed on. -/
abbrev positionValues (positions : List Nat) : Value :=
  .list (positions.map fun position : Nat => Value.ofInt position)

/-- The integer at a place of a collection of positions. -/
def Value.positionAt (positions : Value) (place : Nat) : Outcome Int :=
  positions.itemAt place >>= Value.toInt

/-- The position of a key on a curve is at the place of the curve among its positions. -/
theorem getElem?_of_forall₂_position {key : Key} {curves : List CurveOrder} {positions : List Nat}
    (each : List.Forall₂ (fun order place => order.position key = .ok place) curves positions)
    {curve place : Nat} {order : CurveOrder} (isCurve : curves[curve]? = some order)
    (found : order.position key = .ok place) : positions[curve]? = some place := by
  rcases exists_getElem?_of_forall₂ each isCurve with ⟨other, isOther, alsoFound⟩
  cases found.symm.trans alsoFound
  exact isOther

theorem positionAt_positionValues {positions : List Nat} {curve place : Nat}
    (given : positions[curve]? = some place) :
    (positionValues positions).positionAt curve = .ok place := by
  have isItem : (positionValues positions).itemAt curve = .ok (.ofInt place) := by
    simp [Value.itemAt, Value.toItems, Value.items?, given]
    rfl
  rw [Value.positionAt, isItem]
  rfl

namespace CurveMask

/-- The selected curves up to one of them, which are all those below it, and the others. -/
theorem exists_toList_eq {mask : CurveMask} {curve : Nat} (selected : mask.selects curve = true) :
    ∃ before after, mask.toList = before ++ curve :: after ∧ ∀ earlier ∈ before,
      earlier < curve ∧ mask.selects earlier = true := by
  rcases List.append_of_mem (mem_toList.mpr selected) with ⟨before, after, split⟩
  refine ⟨before, after, split, ?_⟩
  intro earlier isEarlier
  have ascending : mask.toList.Pairwise (· < ·) := List.pairwise_lt_range.filter _
  rw [split] at ascending
  refine ⟨(List.pairwise_append.mp ascending).2.2 earlier isEarlier curve List.mem_cons_self, ?_⟩
  apply mem_toList.mp
  rw [split]
  exact List.mem_append_left _ isEarlier

/-- If something is not so of all selected curves, there is a lowest of which it is not. -/
theorem exists_lowest {mask : CurveMask} {property : Nat → Prop}
    (notAll : ¬ ∀ curve, mask.selects curve = true → property curve) :
    ∃ curve, mask.selects curve = true ∧ ¬ property curve ∧
      ∀ earlier < curve, mask.selects earlier = true → property earlier := by
  classical
  have exists_curve : ∃ curve, mask.selects curve = true ∧ ¬ property curve := by
    simpa using notAll
  refine ⟨Nat.find exists_curve, (Nat.find_spec exists_curve).1, (Nat.find_spec exists_curve).2, ?_⟩
  intro earlier isEarlier selected
  have passes := Nat.find_min exists_curve isEarlier
  by_contra fails
  exact passes ⟨selected, fails⟩

end CurveMask

namespace CandidateGenerator

variable {generator : CandidateGenerator} {key : Key} {curve : Nat} {position : Int}
  {order : CurveOrder}

/-- A position is that of a key on a curve. -/
def IsPlaced (generator : CandidateGenerator) (key : Key) (curve : Nat) (position : Int) : Prop :=
  ∃ order place, generator.curves.curves[curve]? = some order ∧
    order.position key = .ok place ∧ position = (place : Nat)

/-- A position passes for a key that equals itself if it is that of the key. -/
def Passes (generator : CandidateGenerator) (key : Key) (curve : Nat) (position : Int) : Prop :=
  key.equals key = true ∧ generator.IsPlaced key curve position

/-- What is wrong with a position that does not pass for a key on a curve. -/
inductive Drift (generator : CandidateGenerator) (key : Key) (curve : Nat) (position : Int) :
    Fault → Prop
  | outside (off : position < 0 ∨ (generator.dataset.size : Int) ≤ position) :
      Drift generator key curve position
        (.positionOutsideCurve position key curve generator.dataset.size)
  | otherKey {order : CurveOrder} {place : Nat} {holder : Key} (isPosition : position = place)
      (isCurve : generator.curves.curves[curve]? = some order)
      (isHolder : order.order.keys[place]? = some holder) (differs : holder.equals key = false) :
      Drift generator key curve position (.positionOfOtherKey position key curve holder)

theorem Drift.kind_eq {fault : Fault} (drift : generator.Drift key curve position fault) :
    fault.kind = .consistency := by
  cases drift <;> rfl

/-! ## One position -/

theorem checkedPosition_eq_bind (generator : CandidateGenerator) (key : Key) (positions : Value)
    (curve : Nat) :
    generator.checkedPosition key positions curve =
      generator.curves.curveAt curve >>= fun order =>
        positions.positionAt curve >>= fun position =>
          if position < 0 ∨ (generator.dataset.size : Int) ≤ position then
            .error (.positionOutsideCurve position key curve generator.dataset.size)
          else order.keyAt position >>= fun holder =>
            if holder.equals key then .ok (order, position)
            else .error (.positionOfOtherKey position key curve holder) := by
  rw [checkedPosition, Value.positionAt]
  apply bind_congr
  intro order
  rw [bind_assoc]
  apply bind_congr
  intro given
  apply bind_congr
  intro position
  split
  · rfl
  · apply bind_congr
    intro holder
    split <;> rfl

/-- What is found at a position is the key that has this position, and a comparison says so unless
the key does not equal itself. -/
theorem passes_iff_of_holder {place : Nat} {holder : Key}
    (isCurve : generator.curves.curves[curve]? = some order)
    (isHolder : order.order.keys[place]? = some holder) :
    generator.Passes key curve (place : Nat) ↔ holder.equals key = true := by
  constructor
  · rintro ⟨reflexive, other, placeOfKey, isOther, found, isSame⟩
    cases isCurve.symm.trans isOther
    cases Int.ofNat.inj isSame
    rcases KeySequence.position_eq_ok_iff.mp found with ⟨member, isMember, isKey⟩
    cases isHolder.symm.trans isMember
    rwa [Key.equals_eq_beq reflexive]
  · intro equal
    refine ⟨?_, order, place, isCurve, ?_, rfl⟩
    · by_contra irreflexive
      rw [Key.equals_eq_false (Bool.eq_false_iff.mpr irreflexive)] at equal
      cases equal
    · exact KeySequence.position_eq_ok_iff.mpr ⟨holder, isHolder, Key.beq_of_equals equal⟩

/-- A position that is given passes or has drifted. -/
theorem checkedPosition_cases
    (covered : generator.curves.checkCovers generator.dataset.keys = .ok ()) {positions : Value}
    (isCurve : generator.curves.curves[curve]? = some order)
    (given : positions.positionAt curve = .ok position) (key : Key) :
    generator.Passes key curve position ∧
        generator.checkedPosition key positions curve = .ok (order, position) ∨
      ¬ generator.Passes key curve position ∧ ∃ fault,
        generator.Drift key curve position fault ∧
        generator.checkedPosition key positions curve = .error fault := by
  have isOrder : generator.curves.curveAt curve = .ok order := Sequence.itemAt_of_getElem? isCurve
  have size : order.order.keys.length = generator.dataset.size :=
    CurveSet.length_of_checkCovers covered (List.mem_of_getElem? isCurve)
  rw [checkedPosition_eq_bind, isOrder, Outcome.ok_bind, given, Outcome.ok_bind]
  split
  · next off =>
      refine Or.inr ⟨?_, _, .outside off, rfl⟩
      rintro ⟨_, other, place, isOther, found, rfl⟩
      cases isCurve.symm.trans isOther
      have inside : place < order.order.keys.length := KeySequence.lt_size_of_position found
      omega
  · next inside =>
      have nonnegative : 0 ≤ position := by omega
      rcases Int.eq_ofNat_of_zero_le nonnegative with ⟨place, rfl⟩
      have isHolder : order.order.keys[place]? = some order.order.keys[place] :=
        List.getElem?_eq_getElem (by omega)
      have isKey : order.keyAt place = .ok order.order.keys[place] :=
        Sequence.itemAt_of_getElem? isHolder
      rw [isKey, Outcome.ok_bind, passes_iff_of_holder isCurve isHolder]
      cases equal : order.order.keys[place].equals key with
      | true => exact Or.inl ⟨rfl, rfl⟩
      | false => exact Or.inr ⟨by simp, _, .otherKey rfl isCurve isHolder equal, rfl⟩

/-! ## One window -/

theorem halfWidth_eq (exists_curve : curve < generator.curves.size) (halfWindow : Int)
    (scale : Option ScaleFactor) :
    generator.halfWidth curve (.ofInt halfWindow) (ScaleFactor.toValue scale) =
      .ok (.number (.whole (halfWindow *
        (scale.getD (generator.curves.scaleFactors[curve]?.getD .one)).val))) := by
  have inside : curve < generator.curves.scaleFactors.length := by
    rw [generator.curves.scaled]
    exact exists_curve
  cases scale with
  | some factor => rfl
  | none =>
      have isFactor : Sequence.itemAt generator.curves.scaleFactors (curve : Int) =
          .ok generator.curves.scaleFactors[curve] :=
        Sequence.itemAt_of_getElem? (List.getElem?_eq_getElem inside)
      simp only [ScaleFactor.toValue, CandidateGenerator.halfWidth, CurveSet.halfWidth, isFactor,
        Outcome.ok_bind, Value.product_ofInt, List.getElem?_eq_getElem inside, Option.getD_none,
        Option.getD_some]

theorem exists_addWindow
    (covered : generator.curves.checkCovers generator.dataset.keys = .ok ())
    (exists_curve : curve < generator.curves.size) {positions : Value}
    (given : positions.positionAt curve = .ok position)
    (passing : generator.Passes key curve position) {halfWindow : Int}
    (nonnegative : 0 ≤ halfWindow) (scale : Option ScaleFactor) (candidates : KeySequence) :
    ∃ next, generator.addWindow key positions (.ofInt halfWindow) (ScaleFactor.toValue scale)
      candidates curve = .ok next := by
  have isCurve := List.getElem?_eq_getElem exists_curve
  have size : generator.curves.curves[curve].order.keys.length = generator.dataset.size :=
    CurveSet.length_of_checkCovers covered (List.mem_of_getElem? isCurve)
  rcases checkedPosition_cases covered isCurve given key with ⟨_, passes⟩ | ⟨drifted, _⟩
  · rcases passing with ⟨_, order, place, isOrder, found, rfl⟩
    cases isCurve.symm.trans isOrder
    have inside : place < generator.dataset.size := by
      rw [← size]
      exact KeySequence.lt_size_of_position found
    have wide := Int.mul_nonneg nonnegative
      (Int.le_of_lt (scale.getD (generator.curves.scaleFactors[curve]?.getD .one)).property)
    have window := CandidateWindow.candidateWindow_eq_ok (Int.natCast_nonneg place)
      (Int.ofNat_lt.mpr inside) wide
    simp only [addWindow, passes, Outcome.ok_bind, halfWidth_eq exists_curve, Product.toNumber,
      CurveOrder.keysAround, window, pure, Except.pure]
    exact ⟨_, rfl⟩
  · exact absurd passing drifted

theorem addWindow_of_error {positions halfWindow scale : Value} {fault : Fault}
    (failure : generator.checkedPosition key positions curve = .error fault)
    (candidates : KeySequence) :
    generator.addWindow key positions halfWindow scale candidates curve = .error fault := by
  rw [addWindow, failure, Outcome.error_bind]

theorem addWindow_congr {positions others : Value}
    (alike : positions.positionAt curve = others.positionAt curve) (halfWindow scale : Value)
    (candidates : KeySequence) :
    generator.addWindow key positions halfWindow scale candidates curve =
      generator.addWindow key others halfWindow scale candidates curve := by
  rw [addWindow, addWindow, checkedPosition_eq_bind, checkedPosition_eq_bind, alike]

/-! ## All windows -/

/-- A request asks for the windows around a key on curves that exist, and gives the positions of
the key on them. -/
structure AsksWindows (generator : CandidateGenerator) (request : CandidateRequest) (key : Key)
    (mask : CurveMask) (given : Nat → Int) : Prop where
  key : request.key.toKey = .ok key
  selection : CurveMask.ofSelection request.selection = .ok mask
  nonempty : mask.isEmpty = false
  exist : ∀ curve, mask.selects curve = true → curve < generator.curves.size
  halfWindow : ∃ units, request.halfWindow = .ofInt units ∧ 0 ≤ units
  scale : ∃ factor, request.scale = ScaleFactor.toValue factor
  positions : ∀ curve, mask.selects curve = true →
    request.positions.positionAt curve = .ok (given curve)

variable {request : CandidateRequest} {mask : CurveMask} {given : Nat → Int}

theorem AsksWindows.withPositions (asks : generator.AsksWindows request key mask given)
    {positions : Value}
    (alike : ∀ curve, mask.selects curve = true → positions.positionAt curve = .ok (given curve)) :
    generator.AsksWindows { request with positions := positions } key mask given :=
  { asks with positions := alike }

theorem generate_eq (asks : generator.AsksWindows request key mask given)
    (source : RandomSource) :
    generator.generate request source =
      (generator.fromWindows key request.positions mask request.halfWindow request.scale,
        source) := by
  have isKey := asks.key
  have isMask := asks.selection
  rw [generate, isMask, Drawing.pure_ok_bind, isKey, Drawing.pure_ok_bind, asks.nonempty]
  rfl

theorem generate_congr (asks : generator.AsksWindows request key mask given) {positions : Value}
    (alike : ∀ curve, mask.selects curve = true → positions.positionAt curve = .ok (given curve))
    (source : RandomSource) :
    generator.generate { request with positions := positions } source =
      generator.generate request source := by
  rw [generate_eq asks, generate_eq (asks.withPositions alike), fromWindows, fromWindows]
  refine congrArg (·, source) (Outcome.foldlM_congr ?_ _)
  intro curve isCurve candidates
  have selected := CurveMask.mem_toList.mp isCurve
  apply addWindow_congr
  rw [alike curve selected, asks.positions curve selected]

theorem exists_generate (covered : generator.curves.checkCovers generator.dataset.keys = .ok ())
    (asks : generator.AsksWindows request key mask given)
    (passing : ∀ curve, mask.selects curve = true → generator.Passes key curve (given curve))
    (source : RandomSource) :
    ∃ found, generator.generate request source = (.ok found, source) := by
  rcases asks.halfWindow with ⟨units, isHalfWindow, nonnegative⟩
  rcases asks.scale with ⟨factor, isScale⟩
  rw [generate_eq asks, isHalfWindow, isScale, fromWindows]
  have each : ∀ curve ∈ mask.toList, ∀ candidates, ∃ next, generator.addWindow key
      request.positions (.ofInt units) (ScaleFactor.toValue factor) candidates curve =
        .ok next := by
    intro curve isCurve
    have selected := CurveMask.mem_toList.mp isCurve
    exact exists_addWindow covered (asks.exist curve selected) (asks.positions curve selected)
      (passing curve selected) nonnegative factor
  rcases Outcome.exists_foldlM each (KeySequence.empty.insert key) with ⟨found, run⟩
  exact ⟨found, congrArg (·, source) run⟩

/-- A request is refused for the lowest curve on which the position does not pass. -/
theorem generate_of_not_passes
    (covered : generator.curves.checkCovers generator.dataset.keys = .ok ())
    (asks : generator.AsksWindows request key mask given) (selected : mask.selects curve = true)
    (drifted : ¬ generator.Passes key curve (given curve))
    (passing : ∀ earlier < curve, mask.selects earlier = true →
      generator.Passes key earlier (given earlier)) (source : RandomSource) :
    ∃ fault, generator.Drift key curve (given curve) fault ∧
      generator.generate request source = (.error fault, source) := by
  rcases asks.halfWindow with ⟨units, isHalfWindow, nonnegative⟩
  rcases asks.scale with ⟨factor, isScale⟩
  have isCurve := List.getElem?_eq_getElem (asks.exist curve selected)
  rcases checkedPosition_cases covered isCurve (asks.positions curve selected) key with
    ⟨passes, _⟩ | ⟨_, fault, drift, failure⟩
  · exact absurd passes drifted
  · refine ⟨fault, drift, ?_⟩
    rcases CurveMask.exists_toList_eq selected with ⟨before, after, split, below⟩
    rw [generate_eq asks, fromWindows, split, isHalfWindow, isScale]
    apply congrArg (·, source)
    apply Outcome.foldlM_of_first_error
    · intro earlier isEarlier
      rcases below earlier isEarlier with ⟨isBelow, isSelected⟩
      exact exists_addWindow covered (asks.exist earlier isSelected)
        (asks.positions earlier isSelected) (passing earlier isBelow isSelected) nonnegative factor
    · exact addWindow_of_error failure

/-- For a key that does not equal itself every request is refused, whatever positions are given. -/
theorem generate_of_irreflexive
    (covered : generator.curves.checkCovers generator.dataset.keys = .ok ())
    (asks : generator.AsksWindows request key mask given) (irreflexive : key.equals key = false)
    (source : RandomSource) :
    ∃ curve fault, mask.selects curve = true ∧
      (∀ earlier < curve, mask.selects earlier = false) ∧
      generator.Drift key curve (given curve) fault ∧ fault.kind = .consistency ∧
      generator.generate request source = (.error fault, source) := by
  have notPassing (curve : Nat) : ¬ generator.Passes key curve (given curve) := by
    rintro ⟨reflexive, _⟩
    rw [irreflexive] at reflexive
    cases reflexive
  have notNone : ¬ ∀ curve, mask.selects curve = true → False := by
    rcases CurveMask.exists_selects asks.nonempty with ⟨curve, selected, _⟩
    exact fun none => none curve selected
  rcases CurveMask.exists_lowest notNone with ⟨curve, selected, _, lowest⟩
  rcases generate_of_not_passes covered asks selected (notPassing curve)
    (fun earlier below isSelected => (lowest earlier below isSelected).elim) source with
    ⟨fault, drift, failure⟩
  refine ⟨curve, fault, selected, ?_, drift, drift.kind_eq, failure⟩
  intro earlier below
  exact Bool.eq_false_iff.mpr (lowest earlier below)

/-- The cached positions of a key are those at which it is placed. -/
theorem exists_cached (covered : generator.curves.checkCovers generator.dataset.keys = .ok ())
    (asks : generator.AsksWindows request key mask given)
    (placed : ∀ curve, mask.selects curve = true → generator.IsPlaced key curve (given curve)) :
    ∃ cached, generator.curves.positionsOf key = .ok cached ∧
      ∀ curve, mask.selects curve = true →
        (positionValues cached).positionAt curve = .ok (given curve) := by
  rcases CurveMask.exists_selects asks.nonempty with ⟨first, selected, _⟩
  rcases placed first selected with ⟨order, place, isCurve, found, _⟩
  have isMember := List.mem_of_getElem? isCurve
  have present : generator.dataset.keys.contains key = true := by
    rw [← CurveSet.contains_of_checkCovers covered isMember]
    exact KeySequence.exists_position_iff.mp ⟨place, found⟩
  rcases CurveSet.exists_positionsOf covered (List.ne_nil_of_mem isMember) present with
    ⟨cached, isCached, each⟩
  refine ⟨cached, isCached, ?_⟩
  intro curve selected
  rcases placed curve selected with ⟨order, place, isCurve, found, isPlace⟩
  rw [isPlace]
  apply positionAt_positionValues
  exact getElem?_of_forall₂_position each isCurve found

/-- A request for a key that equals itself is met if the position of the key is given for all
selected curves, and then like one with the cached positions. Otherwise it is refused for the lowest
curve on which the position has drifted. What is given for other curves does not matter. -/
theorem generate_of_positions
    (covered : generator.curves.checkCovers generator.dataset.keys = .ok ())
    (asks : generator.AsksWindows request key mask given) (reflexive : key.equals key = true)
    (source : RandomSource) :
    ((∃ found left, generator.generate request source = (.ok found, left)) ↔
      ∀ curve, mask.selects curve = true → generator.IsPlaced key curve (given curve)) ∧
    ((∀ curve, mask.selects curve = true → generator.IsPlaced key curve (given curve)) →
      ∃ cached, generator.curves.positionsOf key = .ok cached ∧
        generator.generate request source =
          generator.generate { request with positions := positionValues cached } source) ∧
    (∀ curve, mask.selects curve = true → ¬ generator.IsPlaced key curve (given curve) →
      (∀ earlier < curve, mask.selects earlier = true →
        generator.IsPlaced key earlier (given earlier)) →
      ∃ fault, generator.generate request source = (.error fault, source) ∧
        generator.Drift key curve (given curve) fault ∧ fault.kind = .consistency) ∧
    (∀ positions : Value, (∀ curve, mask.selects curve = true →
        positions.positionAt curve = request.positions.positionAt curve) →
      generator.generate { request with positions := positions } source =
        generator.generate request source) := by
  have passes_iff (curve : Nat) :
      generator.Passes key curve (given curve) ↔ generator.IsPlaced key curve (given curve) :=
    and_iff_right reflexive
  simp only [← passes_iff]
  refine ⟨⟨?_, ?_⟩, ?_, ?_, ?_⟩
  · rintro ⟨found, left, success⟩
    by_contra notAll
    rcases CurveMask.exists_lowest notAll with ⟨curve, selected, drifted, passing⟩
    rcases generate_of_not_passes covered asks selected drifted passing source with
      ⟨fault, _, failure⟩
    rw [success] at failure
    cases failure
  · intro passing
    rcases exists_generate covered asks passing source with ⟨found, success⟩
    exact ⟨found, source, success⟩
  · intro passing
    rcases exists_cached covered asks fun curve selected => (passing curve selected).2 with
      ⟨cached, isCached, alike⟩
    exact ⟨cached, isCached, (generate_congr asks alike source).symm⟩
  · intro curve selected drifted passing
    rcases generate_of_not_passes covered asks selected drifted passing source with
      ⟨fault, drift, failure⟩
    exact ⟨fault, failure, drift, drift.kind_eq⟩
  · intro positions alike
    apply generate_congr asks
    intro curve selected
    rw [alike curve selected, asks.positions curve selected]

/-- Three keys on two curves. -/
def threeKeys : CandidateGenerator where
  dataset := ⟨⟨[1, 2, 3].map Key.ofInt, by decide⟩, [[1], [2], [3]], 1, rfl, by simp⟩
  curves := ⟨[⟨.text "up", [1, 2, 3].map Key.ofInt, by decide⟩,
    ⟨.null, [2, 3, 1].map Key.ofInt, by decide⟩], [.one, ⟨4, by decide⟩], .one, rfl, by decide⟩

/-- The third key is at the position one of the second curve, which the position -2 means as well
if it is counted from the end. -/
theorem generate_of_positions_from_end :
    ∃ (request : CandidateRequest) (mask : CurveMask) (given : Nat → Int) (fault : Fault),
      threeKeys.AsksWindows request (Key.ofInt 3) mask given ∧ mask.selects 1 = true ∧
      given 1 = -2 ∧ ¬ threeKeys.IsPlaced (Key.ofInt 3) 1 (given 1) ∧
      threeKeys.generate request .absent = (.error fault, .absent) ∧
      fault.kind = .consistency := by
  let request : CandidateRequest := ⟨.ofInt 3, .list [.ofInt 2, .ofInt (-2)], .value (.ofInt 3),
    .ofInt 1, .ofInt 1, .null⟩
  let given : Nat → Int := fun curve => if curve = 0 then 2 else -2
  have exist : ∀ curve, (⟨3⟩ : CurveMask).selects curve = true → curve < 2 :=
    CurveMask.highest_lt_iff.mp (by decide)
  have asks : threeKeys.AsksWindows request (Key.ofInt 3) ⟨3⟩ given := by
    refine ⟨rfl, rfl, by decide, exist, ⟨1, rfl, by decide⟩, ⟨none, rfl⟩, ?_⟩
    intro curve selected
    match curve, exist curve selected with
    | 0, _ => rfl
    | 1, _ => rfl
  have drifted : ¬ threeKeys.IsPlaced (Key.ofInt 3) 1 (given 1) := by
    rintro ⟨order, place, _, _, isPlace⟩
    have negative : given 1 = -2 := rfl
    omega
  have placed : ∀ earlier < 1, (⟨3⟩ : CurveMask).selects earlier = true →
      threeKeys.IsPlaced (Key.ofInt 3) earlier (given earlier) := by
    intro earlier isEarlier _
    cases Nat.lt_one_iff.mp isEarlier
    exact ⟨_, 2, rfl, KeySequence.position_eq_ok.mpr (by decide), rfl⟩
  rcases (generate_of_positions rfl asks (by decide) .absent).2.2.1 1 (by decide) drifted
    placed with ⟨fault, failure, _, kind⟩
  exact ⟨request, ⟨3⟩, given, fault, asks, by decide, rfl, drifted, failure, kind⟩

end CandidateGenerator

end CurveNeighbors
