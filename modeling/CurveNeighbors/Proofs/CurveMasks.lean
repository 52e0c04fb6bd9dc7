import CurveNeighbors.CurveMask.Selection
import CurveNeighbors.Proofs.Computation
import Mathlib.Data.List.Sort
import Mathlib.Data.Nat.Bitwise
import Mathlib.Data.Nat.Size

/-!
# Curve masks as sets

A mask is an integer that is read in many ways: its bits are shifted out one by one, tested
one at a time, counted and measured. What all of these say is said by the list of the
selected curves, and a mask is nothing but that list: it can be made of it again, whatever
the order and the repetitions in which the curves are given.
-/

namespace CurveNeighbors

namespace CurveMask

variable {mask other : CurveMask} {curve : Nat}

/-! ## The list of a mask -/

theorem pairwise_toList (mask : CurveMask) : mask.toList.Pairwise (· < ·) :=
  List.pairwise_lt_range.filter _

/-- There is only one ascending list of the selected curves. -/
theorem toList_eq {curves : List Nat} (ascending : curves.Pairwise (· < ·))
    (members : ∀ curve, curve ∈ curves ↔ mask.selects curve = true) : mask.toList = curves := by
  have perm : mask.toList.Perm curves := by
    apply (List.perm_ext_iff_of_nodup _ _).mpr
    · simpa using fun curve => (members curve).symm
    · exact (pairwise_toList mask).imp Nat.ne_of_lt
    · exact ascending.imp Nat.ne_of_lt
  apply perm.eq_of_pairwise _ (pairwise_toList mask) ascending
  intro first second _ _ before after
  omega

theorem eq_of_selects (alike : ∀ curve, mask.selects curve = other.selects curve) :
    mask = other := by
  cases mask with
  | mk bits =>
    cases other with
    | mk otherBits =>
      congr 1
      exact Nat.eq_of_testBit_eq alike

theorem isEmpty_iff : mask.isEmpty = true ↔ mask.bits = 0 := by
  simp [isEmpty]

theorem highest_of_isEmpty (isEmpty : mask.isEmpty = true) : mask.highest = -1 := by
  simp [highest, width, isEmpty_iff.mp isEmpty]

theorem exists_selects (nonempty : mask.isEmpty = false) :
    ∃ curve, mask.selects curve = true ∧ (curve : Int) = mask.highest := by
  have bits : mask.bits ≠ 0 := by simpa [isEmpty] using nonempty
  exact ⟨mask.bits.log2, Nat.testBit_log2 bits, by simp [highest, width, bits]⟩

theorem isEmpty_eq_false_iff : mask.isEmpty = false ↔ mask.toList ≠ [] := by
  constructor
  · intro nonempty
    rcases exists_selects nonempty with ⟨curve, selected, _⟩
    exact List.ne_nil_of_mem (mem_toList.mpr selected)
  · intro some
    apply Bool.eq_false_iff.mpr
    intro isEmpty
    apply some
    simp [toList, width, isEmpty_iff.mp isEmpty]

theorem highest_lt_iff {count : Nat} :
    mask.highest < count ↔ ∀ curve, mask.selects curve = true → curve < count := by
  constructor
  · intro low curve selected
    apply Nat.lt_of_not_le
    intro high
    have beyond : mask.width ≤ curve := by
      unfold highest at low
      omega
    simp [selects_eq_false_of_width_le beyond] at selected
  · intro exist
    cases nonempty : mask.isEmpty with
    | true =>
        rw [highest_of_isEmpty nonempty]
        omega
    | false =>
        rcases exists_selects nonempty with ⟨curve, selected, isHighest⟩
        have inside := exist curve selected
        omega

/-- The highest curve is the last of the list. -/
theorem highest_eq_last {earlier : List Nat} {last : Nat}
    (isLast : mask.toList = earlier ++ [last]) : mask.highest = last := by
  have ascending := pairwise_toList mask
  simp only [isLast, List.pairwise_append, List.mem_singleton, forall_eq] at ascending
  have below (count : Nat) : mask.highest < count ↔ last < count := by
    simp only [highest_lt_iff, ← mem_toList, isLast, List.mem_append, List.mem_singleton]
    constructor
    · intro exist
      exact exist last (.inr rfl)
    · rintro lastBelow curve (isEarlier | rfl)
      · exact (ascending.2.2 curve isEarlier).trans lastBelow
      · exact lastBelow
  have atMost := (below (last + 1)).mpr (Nat.lt_succ_self last)
  have notBelow := mt (below last).mp (Nat.lt_irrefl last)
  omega

theorem highest_eq (mask : CurveMask) :
    mask.highest = (mask.toList.getLast?.map Int.ofNat).getD (-1) := by
  rcases List.eq_nil_or_concat' mask.toList with none | ⟨earlier, last, isLast⟩
  · have isEmpty : mask.isEmpty = true := by
      simpa using mt isEmpty_eq_false_iff.mp (not_not.mpr none)
    simp [highest_of_isEmpty isEmpty, none]
  · simp [isLast, highest_eq_last isLast]

theorem validate_ofInt (mask : CurveMask) (count : Nat) :
    mask.validate (.ofInt count) =
      if mask.highest < count then .ok () else .error (.curveOutOfRange mask (.ofInt count)) := by
  have known : (Value.ofInt count).toNumber = .ok (.whole count) := rfl
  rw [validate, known, Outcome.ok_bind, Number.atMost_whole]
  by_cases low : mask.highest < count
  · rw [if_pos low, if_neg (by simpa using low)]
    rfl
  · rw [if_neg low, if_pos (by simpa using low)]
    rfl

/-! ## Making a mask -/

theorem selects_ofCurves (curves : List Nat) (curve : Nat) :
    (ofCurves curves).selects curve = decide (curve ∈ curves) := by
  have grown (start : Nat) : (curves.foldl (fun bits curve => bits ||| 1 <<< curve) start).testBit
      curve = (start.testBit curve || decide (curve ∈ curves)) := by
    induction curves generalizing start with
    | nil => simp
    | cons first curves ih =>
        have single : (1 <<< first).testBit curve = decide (curve = first) := by
          rw [Nat.one_shiftLeft, Nat.testBit_two_pow]
          simp [eq_comm]
        simp [ih, single, Bool.or_assoc]
  simpa [selects, ofCurves] using grown 0

theorem selects_firstCurves (count curve : Nat) :
    (firstCurves count).selects curve = decide (curve < count) := by
  simp [selects, firstCurves, Nat.one_shiftLeft]

theorem toList_firstCurves (count : Nat) : (firstCurves count).toList = List.range count :=
  toList_eq List.pairwise_lt_range (by simp [selects_firstCurves])

theorem ofCurves_toList (mask : CurveMask) : ofCurves mask.toList = mask := by
  apply eq_of_selects
  simp [selects_ofCurves]

/-! ## The bits of a mask -/

/-- The places of the ones among some bits, the lowest of which is at the given place. The bits are
shifted out until no one is left. -/
def shiftedOut (bits place : Nat) : List Nat :=
  if bits = 0 then []
  else if bits % 2 = 1 then place :: shiftedOut (bits / 2) (place + 1)
  else shiftedOut (bits / 2) (place + 1)
termination_by bits

theorem mem_shiftedOut {bits place : Nat} :
    curve ∈ shiftedOut bits place ↔
      ∃ distance, bits.testBit distance = true ∧ curve = place + distance := by
  -- The lowest bit is at the place itself, and the others are those of the half.
  have lowest (bits place : Nat) :
      (∃ distance, bits.testBit distance = true ∧ curve = place + distance) ↔
        bits % 2 = 1 ∧ curve = place ∨
          ∃ distance, (bits / 2).testBit distance = true ∧ curve = place + 1 + distance := by
    rw [← Nat.or_exists_add_one]
    simp [Nat.testBit_add_one, ← Nat.add_assoc, Nat.add_right_comm place 1]
  fun_induction shiftedOut bits place with
  | case1 => simp
  | case2 bits place _ odd ih =>
      rw [lowest bits place]
      simp [ih, odd]
  | case3 bits place _ even ih =>
      rw [lowest bits place]
      simp [ih, even]

theorem pairwise_shiftedOut (bits place : Nat) : (shiftedOut bits place).Pairwise (· < ·) := by
  fun_induction shiftedOut bits place with
  | case1 => exact .nil
  | case2 bits place _ _ ih =>
      refine .cons ?_ ih
      intro later isLater
      rcases mem_shiftedOut.mp isLater with ⟨distance, _, rfl⟩
      omega
  | case3 _ _ _ _ ih => exact ih

theorem shiftedOut_eq_toList (mask : CurveMask) : shiftedOut mask.bits 0 = mask.toList := by
  symm
  apply toList_eq (pairwise_shiftedOut mask.bits 0)
  simp [mem_shiftedOut, selects]

theorem count_toDigits {bits : Nat} (some : bits ≠ 0) :
    (Nat.toDigits 2 bits).count '1' = (Nat.toDigits 2 (bits / 2)).count '1' + bits % 2 := by
  by_cases single : bits < 2
  · have one : bits = 1 := by omega
    subst one
    rfl
  · have digit : [(bits % 2).digitChar].count '1' = bits % 2 := by
      rcases Nat.mod_two_eq_zero_or_one bits with even | odd
      · simp [even]
      · simp [odd]
    rw [Nat.toDigits_of_base_le (by omega) (by omega), List.count_append, digit]

/-- As many bits are shifted out as there are ones in the binary numeral. -/
theorem length_shiftedOut (bits place : Nat) :
    (shiftedOut bits place).length = (Nat.toDigits 2 bits).count '1' := by
  fun_induction shiftedOut bits place with
  | case1 => rfl
  | case2 _ _ some odd ih => simp [count_toDigits some, ih, odd]
  | case3 _ _ some even ih => simp [count_toDigits some, ih, Nat.mod_two_ne_one.mp even]

theorem width_eq_size (mask : CurveMask) : mask.width = mask.bits.size := by
  by_cases none : mask.bits = 0
  · simp [width, none]
  · rw [width, if_neg none]
    apply Nat.le_antisymm
    · exact Nat.lt_size.mpr (Nat.log2_self_le none)
    · exact Nat.size_le.mpr Nat.lt_log2_self

/-! ## Masks from values -/

theorem bitPosition_eq_ok_iff {position place : Nat} :
    bitPosition position = .ok place ↔ place = position ∧ position < memoryLimit := by
  unfold bitPosition wordLimit
  split
  · simp [memoryLimit]
    omega
  · split
    · simp
      omega
    · simp [eq_comm]
      omega

theorem bitPosition_eq_error {position : Nat} {fault : Fault}
    (failure : bitPosition position = .error fault) : fault ∈ [.outOfMemory, .tooLarge] := by
  unfold bitPosition at failure
  split at failure
  · simp_all
  · split at failure <;> simp_all

theorem readCurve_ofInt (curve : Nat) : readCurve (.ofInt curve) = bitPosition curve := by
  have known : (Value.ofInt curve).toNumber = .ok (.whole curve) := rfl
  simp [readCurve, known]

/-- Curve numbers as a caller gives them. -/
def numbered (curves : List Nat) : List Value :=
  curves.map fun (curve : Nat) => .ofInt curve

theorem ofValues_numbered (curves : List Nat) :
    ofValues (numbered curves) = ofCurves <$> curves.mapM bitPosition := by
  simp [ofValues, numbered, List.mapM_map, Function.comp_def, readCurve_ofInt]

theorem mapM_bitPosition_eq_ok_iff {curves places : List Nat} :
    curves.mapM bitPosition = .ok places ↔
      places = curves ∧ ∀ curve ∈ curves, curve < memoryLimit := by
  induction curves generalizing places with
  | nil => simp [pure, Except.pure, eq_comm]
  | cons first curves ih =>
      simp only [Outcome.mapM_cons, Outcome.bind_eq_ok, bitPosition_eq_ok_iff, ih,
        List.forall_mem_cons]
      constructor
      · rintro ⟨_, ⟨rfl, firstFits⟩, _, ⟨rfl, fit⟩, ⟨⟩⟩
        exact ⟨rfl, firstFits, fit⟩
      · rintro ⟨rfl, firstFits, fit⟩
        exact ⟨first, ⟨rfl, firstFits⟩, curves, ⟨rfl, fit⟩, rfl⟩

/-- Curve numbers make a mask unless one of them is beyond the memory of the machine. -/
theorem ofValues_numbered_eq_ok_iff {curves : List Nat} :
    ofValues (numbered curves) = .ok mask ↔
      mask = ofCurves curves ∧ ∀ curve ∈ curves, curve < memoryLimit := by
  rw [ofValues_numbered]
  cases outcome : curves.mapM bitPosition with
  | ok places =>
      rcases mapM_bitPosition_eq_ok_iff.mp outcome with ⟨rfl, fit⟩
      simpa [eq_comm] using fun _ => fit
  | error fault =>
      have beyond : ¬ ∀ curve ∈ curves, curve < memoryLimit := by
        intro fit
        simp [mapM_bitPosition_eq_ok_iff.mpr ⟨rfl, fit⟩] at outcome
      simpa using fun _ => beyond

theorem ofValues_numbered_eq_error {curves : List Nat} {fault : Fault}
    (failure : ofValues (numbered curves) = .error fault) :
    fault ∈ [.outOfMemory, .tooLarge] := by
  rw [ofValues_numbered] at failure
  cases outcome : curves.mapM bitPosition with
  | ok places => simp [outcome] at failure
  | error other =>
      have same : other = fault := by simpa [outcome] using failure
      rcases Outcome.exists_of_mapM_error outcome with ⟨curve, _, failed⟩
      exact same ▸ bitPosition_eq_error failed

theorem ofCount_ofInt_eq_ok_iff {count : Nat} :
    ofCount (.ofInt count) = .ok mask ↔ mask = firstCurves count ∧ count < memoryLimit := by
  have known : (Value.ofInt count).number? = some (.whole count) := rfl
  have counted : ofCount (.ofInt count) = bitPosition count >>= fun place =>
      .ok (firstCurves place) := by simp [ofCount, known]; rfl
  simp only [counted, Outcome.bind_eq_ok, bitPosition_eq_ok_iff, Except.ok.injEq]
  constructor
  · rintro ⟨_, ⟨rfl, fits⟩, rfl⟩
    exact ⟨rfl, fits⟩
  · rintro ⟨rfl, fits⟩
    exact ⟨count, ⟨rfl, fits⟩, rfl⟩

theorem selectsValue_iff {value : Value} :
    mask.selectsValue value = true ↔ value ∈ numbered mask.toList := by
  have bounded {curve : Nat} (selected : mask.selects curve = true) :
      (curve : Int) ≤ mask.highest := by
    apply Int.not_lt.mp
    intro below
    exact Nat.lt_irrefl curve (highest_lt_iff.mp below curve selected)
  constructor
  · intro selected
    unfold selectsValue at selected
    split at selected
    · next curve =>
        simp only [Bool.and_eq_true, decide_eq_true_eq] at selected
        refine List.mem_map.mpr ⟨curve.toNat, mem_toList.mpr selected.2, ?_⟩
        rw [Int.toNat_of_nonneg selected.1.1, Value.ofInt]
    · cases selected
  · intro isCurve
    rcases List.mem_map.mp isCurve with ⟨curve, listed, rfl⟩
    have selected := mem_toList.mp listed
    simp [selectsValue, Value.ofInt, selected, bounded selected]

/-! ## One set behind all readings -/

/-- All that can be asked of a mask is answered by a list of curves in ascending order. -/
structure ReadsAs (mask : CurveMask) (curves : List Nat) : Prop where
  ascending : curves.Pairwise (· < ·)
  listed : mask.toList = curves
  shifted : shiftedOut mask.bits 0 = curves
  selects : ∀ curve, mask.selects curve = true ↔ curve ∈ curves
  selectsValue : ∀ value, mask.selectsValue value = true ↔ value ∈ numbered curves
  size : mask.size = curves.length
  ones : (Nat.toDigits 2 mask.bits).count '1' = curves.length
  highest : mask.highest = (curves.getLast?.map Int.ofNat).getD (-1)
  bitLength : mask.highest = mask.bits.size - 1
  nonempty : mask.isEmpty = false ↔ curves ≠ []
  accepted : ∀ count : Nat, mask.validate (.ofInt count) = .ok () ↔ ∀ curve ∈ curves, curve < count
  refused : ∀ count : Nat, (∃ fault, mask.validate (.ofInt count) = .error fault ∧
    fault.kind = .parameter) ↔ ∃ curve ∈ curves, count ≤ curve

theorem validate_eq_ok_iff {count : Nat} :
    mask.validate (.ofInt count) = .ok () ↔ ∀ curve ∈ mask.toList, curve < count := by
  simp [validate_ofInt, highest_lt_iff]

theorem exists_validate_error_iff {count : Nat} :
    (∃ fault, mask.validate (.ofInt count) = .error fault ∧ fault.kind = .parameter) ↔
      ∃ curve ∈ mask.toList, count ≤ curve := by
  rw [validate_ofInt]
  split
  · next low => simpa using highest_lt_iff.mp low
  · next high => simpa [Fault.kind] using mt highest_lt_iff.mpr high

theorem readsAs_toList (mask : CurveMask) : mask.ReadsAs mask.toList where
  ascending := pairwise_toList mask
  listed := rfl
  shifted := shiftedOut_eq_toList mask
  selects _ := mem_toList.symm
  selectsValue _ := selectsValue_iff
  size := rfl
  ones := by rw [← length_shiftedOut mask.bits 0, shiftedOut_eq_toList]
  highest := highest_eq mask
  bitLength := by rw [highest, width_eq_size]
  nonempty := isEmpty_eq_false_iff
  accepted _ := validate_eq_ok_iff
  refused _ := exists_validate_error_iff

/-- A mask is nothing but the set of its curves. Only the memory of the machine keeps one from being
made of the numbers of its curves. -/
theorem represents_set (mask other : CurveMask) (curves : List Nat) (count : Nat) :
    mask.ReadsAs mask.toList ∧
    (mask = other ↔ mask.toList = other.toList) ∧
    (∀ curve, curve ∈ (ofCurves curves).toList ↔ curve ∈ curves) ∧
    ofCurves mask.toList = mask ∧
    (∀ curve, curve ∈ (mask.union other).toList ↔ curve ∈ mask.toList ∨ curve ∈ other.toList) ∧
    (∀ curve, curve ∈ (mask.inter other).toList ↔ curve ∈ mask.toList ∧ curve ∈ other.toList) ∧
    (firstCurves count).toList = List.range count ∧
    (ofSelection (.mask mask) = .ok mask ∧
      ofSelection (.value (.ofInt mask.bits)) = .ok mask ∧
      (ofSelection (.value (.list (numbered mask.toList))) = .ok mask ↔
        ∀ curve ∈ mask.toList, curve < memoryLimit)) ∧
    (∀ made, ofValues (numbered curves) = .ok made ↔
      made = ofCurves curves ∧ ∀ curve ∈ curves, curve < memoryLimit) ∧
    (∀ fault, ofValues (numbered curves) = .error fault → fault ∈ [.outOfMemory, .tooLarge]) ∧
    (∀ made, ofCount (.ofInt count) = .ok made ↔
      made = firstCurves count ∧ count < memoryLimit) := by
  have listed : mask = other ↔ mask.toList = other.toList := by
    constructor
    · rintro rfl
      rfl
    · intro same
      rw [← ofCurves_toList mask, same, ofCurves_toList]
  have ofList : ofSelection (.value (.list (numbered mask.toList))) =
      ofValues (numbered mask.toList) := rfl
  have ofInteger : ofSelection (.value (.ofInt mask.bits)) = .ok mask := by
    simp [ofSelection, ofBits, Value.ofInt]
  refine ⟨readsAs_toList mask, listed, ?_, ofCurves_toList mask, ?_, ?_, toList_firstCurves count,
    ⟨rfl, ofInteger, ?_⟩, fun _ => ofValues_numbered_eq_ok_iff,
    fun _ => ofValues_numbered_eq_error, fun _ => ofCount_ofInt_eq_ok_iff⟩
  · simp [selects_ofCurves]
  · simp
  · simp
  · simp [ofList, ofValues_numbered_eq_ok_iff, ofCurves_toList]

end CurveMask

end CurveNeighbors
