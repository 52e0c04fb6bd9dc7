import CurveNeighbors.Proofs.Index.Demands

/-!
# The checks of a query

The arguments of a query are checked in functions of their own, and each of them has
its faults. A query passes all checks if its arguments are what they should be, and is
refused with the fault of the first check that it fails.
-/

namespace CurveNeighbors

namespace RandomSource

/-- A generator, or a seed that is an integer of 32 bits. -/
def IsValid : RandomSource → Prop
  | .absent => False
  | .seed value => ∃ word, value.number? = some (.whole word) ∧ 0 ≤ word ∧ word < 0x100000000
  | .generator _ => True

theorem exists_ofCall_iff {value : Value} :
    (∃ generator, Seed.ofCall value = .ok generator) ↔
      ∃ word, value.number? = some (.whole word) ∧ 0 ≤ word ∧ word < 0x100000000 := by
  rw [Seed.ofCall]
  constructor
  · rintro ⟨generator, success⟩
    split at success
    · next word isWord =>
        refine ⟨word, isWord, ?_⟩
        by_cases inside : 0 ≤ word ∧ word < 0x100000000
        · exact inside
        · rw [Seed.toWord, if_neg inside] at success
          cases success
    · cases success
  · rintro ⟨word, isWord, inside⟩
    rw [isWord]
    dsimp only
    rw [Seed.toWord, if_pos inside]
    exact ⟨_, rfl⟩

theorem exists_start_iff {source : RandomSource} :
    (∃ generator, source.start = .ok generator) ↔ source.IsValid := by
  cases source with
  | absent => simp [start, IsValid]
  | generator state => simp [start, IsValid]
  | seed value =>
      cases value with
      | null => simp [start, IsValid, Value.number?]
      | _ =>
          rw [IsValid, ← exists_ofCall_iff]
          rfl

end RandomSource

namespace Outcome

variable {α : Type} {outcome : Outcome α} {fault : Fault}

/-- The fault of an outcome, if it is one. -/
def fault? : Outcome α → Option Fault
  | .ok _ => none
  | .error fault => some fault

theorem fault?_eq_none : outcome.fault? = none ↔ ∃ result, outcome = .ok result := by
  cases outcome <;> simp [fault?]

theorem fault?_eq_some : outcome.fault? = some fault ↔ outcome = .error fault := by
  cases outcome <;> simp [fault?]

end Outcome

/-- The checks of a query. -/
inductive Check where
  | count
  | halfWindow
  | selection
  | curves
  | range
  | scale
  | key
  | source

namespace Check

/-- The order in which a query is checked. -/
def order : List Check :=
  [.count, .halfWindow, .selection, .curves, .range, .scale, .key, .source]

/-- What a check asks of a query. The numbers are integers of any type, but no truth values. The
checks of the mask ask nothing if there is none. -/
def Passes (index : Index) (query : Query) (source : RandomSource) : Check → Prop
  | .count => ∃ count, query.count.toValue = .ofInt count ∧ 0 < count
  | .halfWindow => ∃ halfWindow, query.halfWindow.toValue = .ofInt halfWindow ∧ 0 ≤ halfWindow
  | .selection => ∃ mask, CurveMask.ofSelection query.selection = .ok mask
  | .curves => ∀ mask, CurveMask.ofSelection query.selection = .ok mask → mask.isEmpty = false →
      index.curves.size ≠ 0
  | .range => ∀ mask, CurveMask.ofSelection query.selection = .ok mask → index.HasCurvesOf mask
  | .scale => query.scale.toValue = .null ∨ ∃ scale, query.scale.toValue = .ofInt scale ∧ 0 < scale
  | .key => ∃ key, query.key.toKey = .ok key ∧ index.dataset.contains key = true
  | .source => ∀ mask, CurveMask.ofSelection query.selection = .ok mask → mask.isEmpty = true →
      source.IsValid

/-- A check fails and all checks before it pass. -/
def IsFirstToFail (index : Index) (query : Query) (source : RandomSource) (check : Check) : Prop :=
  ¬ check.Passes index query source ∧ ∃ earlier later, order = earlier ++ check :: later ∧
    ∀ other ∈ earlier, other.Passes index query source

/-- The faults with which a check refuses a query. -/
inductive Refuses (index : Index) (query : Query) : Check → Fault → Prop
  | count : Refuses index query .count (.badNeighborCount query.count.toValue)
  | halfWindow : Refuses index query .halfWindow (.badHalfWindow query.halfWindow.toValue)
  | selection {fault : Fault} (unread : CurveMask.ofSelection query.selection = .error fault) :
      Refuses index query .selection fault
  | curves {mask : CurveMask} (isMask : CurveMask.ofSelection query.selection = .ok mask) :
      Refuses index query .curves (.maskWithoutCurves mask)
  | range {mask : CurveMask} (isMask : CurveMask.ofSelection query.selection = .ok mask) :
      Refuses index query .range (.curveOutOfRange mask (.ofInt index.curves.size))
  | scale : Refuses index query .scale (.badScale query.scale.toValue)
  | unhashable : Refuses index query .key .unhashable
  | unknown {key : Key} (isKey : query.key.toKey = .ok key) :
      Refuses index query .key (.unknownKey key)
  | missing : Refuses index query .source .missingRandomSource
  | invalid : Refuses index query .source .invalidSeed

/-- The kinds of the faults with which a check refuses a query. -/
def kinds : Check → List Fault.Kind
  | .count => [.parameter]
  | .halfWindow => [.parameter]
  | .selection => [.parameter, .type]
  | .curves => [.configuration]
  | .range => [.parameter]
  | .scale => [.parameter]
  | .key => [.type, .lookup]
  | .source => [.parameter, .value]

/-- The fault that a check finds in a query. -/
def fault? (index : Index) (query : Query) (source : RandomSource) : Check → Option Fault
  | .count => (Index.readCount query.count.toValue).fault?
  | .halfWindow => (Index.readHalfWindow query.halfWindow.toValue).fault?
  | .selection => (CurveMask.ofSelection query.selection).fault?
  | .curves =>
      match CurveMask.ofSelection query.selection with
      | .error _ => none
      | .ok mask =>
          if mask.isEmpty = false ∧ index.curves.size = 0 then some (.maskWithoutCurves mask)
          else none
  | .range =>
      match CurveMask.ofSelection query.selection with
      | .error _ => none
      | .ok mask =>
          if mask.highest < index.curves.size then none
          else some (.curveOutOfRange mask (.ofInt index.curves.size))
  | .scale => (Index.checkScale query.scale.toValue).fault?
  | .key =>
      match query.key.toKey with
      | .error fault => some fault
      | .ok given => if index.dataset.contains given then none else some (.unknownKey given)
  | .source =>
      match CurveMask.ofSelection query.selection with
      | .error _ => none
      | .ok mask => if mask.isEmpty then source.start.fault? else none

end Check

namespace Fault

/-- Whether a fault is one that the window around a position has. -/
def isOfWindow : Fault → Bool
  | .nonPositiveLength _ => true
  | .negativeHalfWidth _ => true
  | .positionOffCurve _ _ => true
  | _ => false

/-- The kinds of faults that a query is refused with. -/
def refusalKinds : List Kind :=
  [.parameter, .configuration, .lookup, .type, .value]

/-- What is reported of a refusal is a refusal. -/
theorem reported_kind_mem {fault : Fault} (refusal : fault.kind ∈ refusalKinds) :
    fault.reported.kind ∈ refusalKinds := by
  rw [reported]
  split
  · exact refusal
  · decide

end Fault

/-! ## The faults of a selection -/

theorem Value.fault_of_toNumber {value : Value} {fault : Fault}
    (failure : value.toNumber = .error fault) : fault = .notNumeric := by
  rw [Value.toNumber] at failure
  split at failure
  · cases failure
  · cases failure
    rfl

namespace CurveMask

/-- The faults of a selection that stands for no mask. It may also ask for more bits than there can
be. -/
inductive SelectionFault : Fault → Prop
  | refused {fault : Fault} (isKind : fault.kind ∈ Check.selection.kinds)
      (offWindow : fault.isOfWindow = false) : SelectionFault fault
  | tooLarge : SelectionFault .tooLarge
  | outOfMemory : SelectionFault .outOfMemory

theorem fault_of_bitPosition {position : Nat} {fault : Fault}
    (failure : bitPosition position = .error fault) :
    fault = .tooLarge ∨ fault = .outOfMemory := by
  rw [bitPosition] at failure
  split at failure
  · cases failure
    exact Or.inl rfl
  · split at failure
    · cases failure
      exact Or.inr rfl
    · cases failure

theorem fault_of_readCurve {value : Value} {fault : Fault}
    (failure : readCurve value = .error fault) : SelectionFault fault := by
  rw [readCurve] at failure
  rcases read : value.toNumber with other | number
  · rw [read] at failure
    cases failure
    rw [Value.fault_of_toNumber read]
    exact .refused (by decide) rfl
  · rw [read, Outcome.ok_bind] at failure
    cases negative : number.less (.whole 0) with
    | true =>
        rw [negative] at failure
        cases failure
        exact .refused List.mem_cons_self rfl
    | false =>
        rw [negative] at failure
        cases number with
        | whole curve =>
            rcases fault_of_bitPosition failure with rfl | rfl
            · exact .tooLarge
            · exact .outOfMemory
        | real _ | undefined _ =>
            cases failure
            exact .refused (by decide) rfl

theorem fault_of_ofBits {value : Value} {fault : Fault}
    (failure : ofBits value = .error fault) : SelectionFault fault := by
  rw [ofBits.eq_def] at failure
  split at failure
  · split at failure
    · cases failure
      exact .refused List.mem_cons_self rfl
    · cases failure
  · cases failure
    exact .refused List.mem_cons_self rfl

theorem fault_of_ofValues {curves : List Value} {fault : Fault}
    (failure : ofValues curves = .error fault) : SelectionFault fault := by
  rw [ofValues] at failure
  rcases read : curves.mapM readCurve with other | numbers
  · rw [read] at failure
    cases failure
    rcases Outcome.exists_of_mapM_error read with ⟨_, _, unread⟩
    exact fault_of_readCurve unread
  · rw [read] at failure
    cases failure

theorem fault_of_items {value : Value} {fault : Fault}
    (failure : (value.toItems >>= ofValues) = .error fault) : SelectionFault fault := by
  rw [Value.toItems] at failure
  split at failure
  · exact fault_of_ofValues failure
  · cases failure
    exact .refused (by decide) rfl

theorem fault_of_ofSelection {selection : CurveSelection} {fault : Fault}
    (failure : ofSelection selection = .error fault) : SelectionFault fault := by
  rw [ofSelection.eq_def] at failure
  split at failure
  · cases failure
  · split at failure
    · exact fault_of_ofBits failure
    · exact fault_of_ofBits failure
    · exact fault_of_items failure
  · exact fault_of_ofValues failure

end CurveMask

namespace Index

variable {index : Index} {query : Query}

/-! ## The faults of the checks -/

theorem exists_scale_iff {value : Value} :
    (∃ scale, value = ScaleFactor.toValue scale) ↔
      value = .null ∨ ∃ scale, value = .ofInt scale ∧ 0 < scale := by
  constructor
  · rintro ⟨scale, rfl⟩
    cases scale with
    | none => exact Or.inl rfl
    | some factor => exact Or.inr ⟨factor.val, rfl, factor.property⟩
  · rintro (rfl | ⟨scale, rfl, positive⟩)
    · exact ⟨none, rfl⟩
    · exact ⟨some ⟨scale, positive⟩, rfl⟩

theorem fault_of_readCount {value : Value} {fault : Fault}
    (failure : readCount value = .error fault) : fault = .badNeighborCount value := by
  rw [readCount.eq_def] at failure
  split at failure
  · split at failure
    · cases failure
    · cases failure
      rfl
  · cases failure
    rfl

theorem fault_of_readHalfWindow {value : Value} {fault : Fault}
    (failure : readHalfWindow value = .error fault) : fault = .badHalfWindow value := by
  rw [readHalfWindow.eq_def] at failure
  split at failure
  · split at failure
    · cases failure
    · cases failure
      rfl
  · cases failure
    rfl

theorem fault_of_checkScale {value : Value} {fault : Fault}
    (failure : checkScale value = .error fault) : fault = .badScale value := by
  rw [checkScale.eq_def] at failure
  split at failure
  · cases failure
  · split at failure
    · cases failure
    · cases failure
      rfl
  · cases failure
    rfl

theorem fault_of_start {source : RandomSource} {fault : Fault}
    (failure : source.start = .error fault) :
    fault = .missingRandomSource ∨ fault = .invalidSeed := by
  rw [RandomSource.start.eq_def] at failure
  split at failure
  · cases failure
    exact Or.inl rfl
  · split at failure
    · cases failure
      exact Or.inl rfl
    · rw [Seed.ofCall] at failure
      split at failure
      · next word _ =>
          rw [Seed.toWord] at failure
          split at failure
          · cases failure
          · cases failure
            exact Or.inr rfl
      · cases failure
        exact Or.inr rfl
  · cases failure

/-- A check that passes finds no fault. -/
theorem fault?_eq_none_iff {source : RandomSource} {check : Check} :
    check.fault? index query source = none ↔ check.Passes index query source := by
  cases check with
  | count =>
      simp only [Check.fault?, Check.Passes, Outcome.fault?_eq_none, readCount_eq_ok]
  | halfWindow =>
      simp only [Check.fault?, Check.Passes, Outcome.fault?_eq_none, readHalfWindow_eq_ok]
  | selection => exact Outcome.fault?_eq_none
  | curves =>
      rw [Check.fault?, Check.Passes]
      rcases CurveMask.ofSelection query.selection with fault | mask <;> simp
  | range =>
      rw [Check.fault?, Check.Passes]
      rcases CurveMask.ofSelection query.selection with fault | mask
      · simp
      · simp [HasCurvesOf, CurveMask.highest_lt_iff]
  | scale =>
      rw [Check.fault?, Check.Passes, Outcome.fault?_eq_none, ← exists_scale_iff,
        ← checkScale_eq_ok]
      exact ⟨fun ⟨⟨⟩, success⟩ => success, fun success => ⟨(), success⟩⟩
  | key =>
      rw [Check.fault?, Check.Passes]
      rcases query.key.toKey with fault | key <;> simp
  | source =>
      rw [Check.fault?, Check.Passes]
      rcases CurveMask.ofSelection query.selection with fault | mask
      · simp
      · simp [Outcome.fault?_eq_none, RandomSource.exists_start_iff]

theorem refuses_of_fault? {source : RandomSource} {check : Check} {fault : Fault}
    (found : check.fault? index query source = some fault) : check.Refuses index query fault := by
  cases check with
  | count =>
      rw [fault_of_readCount (Outcome.fault?_eq_some.mp found)]
      exact .count
  | halfWindow =>
      rw [fault_of_readHalfWindow (Outcome.fault?_eq_some.mp found)]
      exact .halfWindow
  | selection => exact .selection (Outcome.fault?_eq_some.mp found)
  | curves =>
      rw [Check.fault?] at found
      split at found
      · cases found
      · next isMask =>
          split at found
          · cases found
            exact .curves isMask
          · cases found
  | range =>
      rw [Check.fault?] at found
      split at found
      · cases found
      · next isMask =>
          split at found
          · cases found
          · cases found
            exact .range isMask
  | scale =>
      rw [fault_of_checkScale (Outcome.fault?_eq_some.mp found)]
      exact .scale
  | key =>
      rw [Check.fault?] at found
      split at found
      · next failed =>
          cases found
          rw [Value.toKey] at failed
          split at failed
          · cases failed
          · cases failed
            exact .unhashable
      · next isKey =>
          split at found
          · cases found
          · cases found
            exact .unknown isKey
  | source =>
      rw [Check.fault?] at found
      split at found
      · cases found
      · split at found
        · rcases fault_of_start (Outcome.fault?_eq_some.mp found) with rfl | rfl
          · exact .missing
          · exact .invalid
        · cases found

/-- A refusal is of a kind of its check, unless a mask was asked for that there cannot be. -/
theorem kind_of_refuses {check : Check} {fault : Fault}
    (refuses : check.Refuses index query fault) :
    fault.kind ≠ .consistency ∧ fault.kind ≠ .index ∧ fault.isOfWindow = false ∧
      (fault ≠ .tooLarge → fault ≠ .outOfMemory →
        fault.kind ∈ check.kinds ∧ fault.reported.kind ∈ Fault.refusalKinds) := by
  have ofKind (isKind : fault.kind ∈ check.kinds) (offWindow : fault.isOfWindow = false) :
      fault.kind ≠ .consistency ∧ fault.kind ≠ .index ∧ fault.isOfWindow = false ∧
        (fault ≠ .tooLarge → fault ≠ .outOfMemory →
          fault.kind ∈ check.kinds ∧ fault.reported.kind ∈ Fault.refusalKinds) := by
    have within : check.kinds ⊆ Fault.refusalKinds := by
      cases check <;> decide
    have refusal := within isKind
    refine ⟨?_, ?_, offWindow, fun _ _ => ⟨isKind, Fault.reported_kind_mem refusal⟩⟩
    · exact ne_of_mem_of_not_mem refusal (by decide)
    · exact ne_of_mem_of_not_mem refusal (by decide)
  cases refuses with
  | selection unread =>
      cases CurveMask.fault_of_ofSelection unread with
      | refused isKind offWindow => exact ofKind isKind offWindow
      | tooLarge => exact ⟨by decide, by decide, rfl, fun fits _ => absurd rfl fits⟩
      | outOfMemory => exact ⟨by decide, by decide, rfl, fun _ fits => absurd rfl fits⟩
  | unknown => exact ofKind (List.mem_cons_of_mem _ List.mem_cons_self) rfl
  | invalid => exact ofKind (List.mem_cons_of_mem _ List.mem_cons_self) rfl
  | _ => exact ofKind List.mem_cons_self rfl

/-! ## The first fault -/

/-- The fault of the first check that a query fails. -/
def firstFault? (index : Index) (query : Query) (source : RandomSource) : Option Fault :=
  Check.order.findSome? (Check.fault? index query source)

/-- The arguments of a query are what they should be. -/
def Accepts (index : Index) (query : Query) (source : RandomSource) : Prop :=
  ∀ check : Check, check.Passes index query source

theorem firstFault?_eq_none_iff {source : RandomSource} :
    index.firstFault? query source = none ↔ index.Accepts query source := by
  rw [firstFault?, List.findSome?_eq_none_iff]
  simp only [fault?_eq_none_iff]
  constructor
  · intro passes check
    apply passes
    cases check <;> simp [Check.order]
  · intro accepts check _
    exact accepts check

/-- The first fault is that of the first check to fail. -/
theorem exists_check_of_firstFault? {source : RandomSource} {fault : Fault}
    (found : index.firstFault? query source = some fault) :
    ∃ check : Check, check.IsFirstToFail index query source ∧ check.Refuses index query fault := by
  rcases List.findSome?_eq_some_iff.mp found with ⟨earlier, check, later, split, failed, passing⟩
  refine ⟨check, ⟨?_, earlier, later, split, ?_⟩, refuses_of_fault? failed⟩
  · intro passes
    rw [fault?_eq_none_iff.mpr passes] at failed
    cases failed
  · intro other isEarlier
    exact fault?_eq_none_iff.mp (passing other isEarlier)

/-! ## Machine types -/

/-- The types of the arguments of a query hold what is computed from them. -/
def HasRoom (index : Index) (query : Query) : Prop :=
  ∀ halfWindow count, query.halfWindow.toValue = .ofInt halfWindow →
    query.count.toValue = .ofInt count → index.hasRoomFor query halfWindow count = true

/-- For arguments of no machine type there is always room. -/
theorem hasRoom_of_values {halfWindow count scale : Value}
    (isHalfWindow : query.halfWindow = .value halfWindow) (isCount : query.count = .value count)
    (isScale : query.scale = .value scale) : index.HasRoom query := by
  intro _ _ _ _
  rw [hasRoomFor, isHalfWindow, isCount, isScale]
  rfl

/-- All checks but that of the source are made before anything else is done. -/
theorem firstFault?_eq (room : index.HasRoom query) (source : RandomSource) :
    index.firstFault? query source =
      match index.check query with
      | .error fault => some fault
      | .ok checked => if checked.mask.isEmpty then source.start.fault? else none := by
  rw [check, firstFault?, Check.order, readMask_eq]
  simp only [List.findSome?_cons, Check.fault?]
  rcases counted : readCount query.count.toValue with fault | count
  · rfl
  rcases sized : readHalfWindow query.halfWindow.toValue with fault | halfWindow
  · rfl
  rcases CurveMask.ofSelection query.selection with fault | mask
  · rfl
  simp only [Outcome.ok_bind]
  by_cases without : mask.isEmpty = false ∧ index.curves.size = 0
  · rw [if_pos without, if_pos without]
    rfl
  rw [if_neg without, if_neg without]
  by_cases exist : mask.highest < index.curves.size
  rotate_left
  · rw [if_neg exist, if_neg exist]
    rfl
  rw [if_pos exist, if_pos exist]
  rcases checkScale query.scale.toValue with fault | ⟨⟩
  · rfl
  rcases query.key.toKey with fault | key
  · rfl
  simp only [Outcome.ok_bind]
  by_cases indexed : index.dataset.contains key = true
  rotate_left
  · rw [if_neg indexed, positionsOf, if_neg indexed]
    rfl
  rcases exists_positionsOf indexed with ⟨positions, placed, _⟩
  have fits : index.hasRoomFor query halfWindow count = true :=
    room halfWindow count (readHalfWindow_eq_ok.mp sized).1 (readCount_eq_ok.mp counted).1
  rw [if_pos indexed, placed]
  simp only [Outcome.ok_bind, fits, Bool.not_true, Bool.false_eq_true, if_false, pure, Except.pure]
  cases mask.isEmpty with
  | false => rfl
  | true => cases source.start <;> rfl

end Index

end CurveNeighbors
