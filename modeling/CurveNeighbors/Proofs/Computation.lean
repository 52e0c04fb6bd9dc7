import CurveNeighbors.Fault
import Mathlib.Data.List.Forall2

/-!
# Running computations

A computation that may fail and keeps a state is a function of the state it starts in.
What it does is read off step by step: a step that succeeds hands its result and the
state it leaves to the rest, and one that fails ends the computation in that state.
-/

namespace CurveNeighbors

namespace Computation

variable {σ α β : Type} {computation : ExceptT Fault (StateM σ) α}
  {next : α → ExceptT Fault (StateM σ) β} {start left : σ}

theorem bind_apply (computation : ExceptT Fault (StateM σ) α)
    (next : α → ExceptT Fault (StateM σ) β) (start : σ) :
    (computation >>= next) start =
      match computation start with
      | (.ok result, left) => next result left
      | (.error fault, left) => (.error fault, left) := by
  simp only [bind, ExceptT.bind, ExceptT.mk, StateT.bind]
  rcases computation start with ⟨outcome, left⟩
  cases outcome <;> rfl

theorem bind_of_ok {result : α} (success : computation start = (.ok result, left)) :
    (computation >>= next) start = next result left := by
  rw [bind_apply, success]

theorem bind_of_error {fault : Fault} (failure : computation start = (.error fault, left)) :
    (computation >>= next) start = (.error fault, left) := by
  rw [bind_apply, failure]

theorem pure_apply (result : α) (start : σ) :
    (pure result : ExceptT Fault (StateM σ) α) start = (.ok result, start) :=
  rfl

theorem map_apply (f : α → β) (computation : ExceptT Fault (StateM σ) α) (start : σ) :
    (f <$> computation) start = ((computation start).1.map f, (computation start).2) := by
  change (computation >>= fun result => pure (f result)) start = _
  rw [bind_apply]
  rcases computation start with ⟨fault | result, left⟩ <;> rfl

theorem bind_eq_ok {final : σ} {result : β} :
    (computation >>= next) start = (.ok result, final) ↔
      ∃ value left, computation start = (.ok value, left) ∧
        next value left = (.ok result, final) := by
  rw [bind_apply]
  rcases computation start with ⟨fault | value, left⟩
  · exact ⟨nofun, fun ⟨_, _, impossible, _⟩ => nomatch impossible⟩
  · constructor
    · intro run
      exact ⟨value, left, rfl, run⟩
    · rintro ⟨_, _, ⟨⟩, run⟩
      exact run

end Computation

section

variable {α β : Type} {R : α → β → Prop} {items : List α} {results : List β}

theorem exists_right_of_forall₂ (each : List.Forall₂ R items results) {item : α}
    (isItem : item ∈ items) : ∃ result ∈ results, R item result := by
  induction each with
  | nil => simp at isItem
  | cons found _ ih =>
      rcases List.mem_cons.mp isItem with rfl | later
      · exact ⟨_, List.mem_cons_self, found⟩
      · rcases ih later with ⟨result, isResult, found⟩
        exact ⟨result, List.mem_cons_of_mem _ isResult, found⟩

theorem exists_left_of_forall₂ (each : List.Forall₂ R items results) {result : β}
    (isResult : result ∈ results) : ∃ item ∈ items, R item result := by
  have flipped : List.Forall₂ (flip R) results items := List.Forall₂.flip each
  exact exists_right_of_forall₂ flipped isResult

theorem exists_getElem?_of_forall₂ (each : List.Forall₂ R items results) {place : Nat} {item : α}
    (isItem : items[place]? = some item) :
    ∃ result, results[place]? = some result ∧ R item result := by
  rcases List.forall₂_iff_get.mp each with ⟨lengths, each⟩
  rcases List.getElem?_eq_some_iff.mp isItem with ⟨inside, rfl⟩
  have alsoInside : place < results.length := lengths ▸ inside
  exact ⟨results[place], List.getElem?_eq_getElem alsoInside, each place inside alsoInside⟩

theorem exists_forall₂ (each : ∀ item ∈ items, ∃ result, R item result) :
    ∃ results, List.Forall₂ R items results := by
  induction items with
  | nil => exact ⟨[], .nil⟩
  | cons item items ih =>
      rcases List.forall_mem_cons.mp each with ⟨⟨result, isResult⟩, each⟩
      rcases ih each with ⟨results, areResults⟩
      exact ⟨result :: results, .cons isResult areResults⟩

theorem countP_eq_of_forall₂ {p : α → Bool} {q : β → Bool}
    (each : List.Forall₂ (fun item result => p item = q result) items results) :
    items.countP p = results.countP q := by
  induction each with
  | nil => rfl
  | cons alike _ ih => rw [List.countP_cons, List.countP_cons, ih, alike]

end

namespace Outcome

variable {α β : Type}

@[simp]
theorem ok_bind (result : α) (next : α → Outcome β) : (Except.ok result >>= next) = next result :=
  rfl

@[simp]
theorem error_bind (fault : Fault) (next : α → Outcome β) :
    (Except.error fault >>= next) = .error fault :=
  rfl

theorem bind_eq_ok {outcome : Outcome α} {next : α → Outcome β} {result : β} :
    (outcome >>= next) = .ok result ↔ ∃ value, outcome = .ok value ∧ next value = .ok result := by
  cases outcome <;> simp

/-! ## One outcome for each item -/

theorem mapM_cons (f : α → Outcome β) (item : α) (items : List α) :
    (item :: items).mapM f = f item >>= fun result => items.mapM f >>= fun results =>
      .ok (result :: results) :=
  List.mapM_cons

theorem mapM_eq_map {γ : Type} {f : α → Outcome β} {g : α → Outcome γ} {h : β → γ} {items : List α}
    (each : ∀ item ∈ items, g item = (f item).map h) :
    items.mapM g = (items.mapM f).map (List.map h) := by
  induction items with
  | nil => rfl
  | cons item items ih =>
      rcases List.forall_mem_cons.mp each with ⟨first, each⟩
      rw [mapM_cons, mapM_cons, first, ih each]
      cases f item with
      | error fault => rfl
      | ok result => cases items.mapM f <;> rfl

theorem mapM_eq_filterMap {f : α → Outcome β} {g : α → Option β} {items : List α}
    (each : ∀ item ∈ items, ∃ result, f item = .ok result ∧ g item = some result) :
    items.mapM f = .ok (items.filterMap g) := by
  induction items with
  | nil => rfl
  | cons item items ih =>
      rcases List.forall_mem_cons.mp each with ⟨⟨result, found, same⟩, each⟩
      rw [mapM_cons, found, ok_bind, ih each, ok_bind, List.filterMap_cons_some same]

theorem forall₂_of_mapM {f : α → Outcome β} {items : List α} {results : List β}
    (success : items.mapM f = .ok results) :
    List.Forall₂ (fun item result => f item = .ok result) items results := by
  induction items generalizing results with
  | nil =>
      cases success
      exact .nil
  | cons item items ih =>
      rw [mapM_cons] at success
      rcases bind_eq_ok.mp success with ⟨first, found, success⟩
      rcases bind_eq_ok.mp success with ⟨rest, others, success⟩
      cases success
      exact .cons found (ih others)

theorem mapM_of_forall₂ {f : α → Outcome β} {items : List α} {results : List β}
    (each : List.Forall₂ (fun item result => f item = .ok result) items results) :
    items.mapM f = .ok results := by
  induction each with
  | nil => rfl
  | cons found _ ih => rw [mapM_cons, found, ok_bind, ih, ok_bind]

theorem exists_of_mem_mapM {f : α → Outcome β} {items : List α} {results : List β} {result : β}
    (success : items.mapM f = .ok results) (isResult : result ∈ results) :
    ∃ item ∈ items, f item = .ok result :=
  exists_left_of_forall₂ (forall₂_of_mapM success) isResult

theorem exists_of_mem_items {f : α → Outcome β} {items : List α} {results : List β} {item : α}
    (success : items.mapM f = .ok results) (isItem : item ∈ items) :
    ∃ result ∈ results, f item = .ok result :=
  exists_right_of_forall₂ (forall₂_of_mapM success) isItem

theorem exists_mapM {f : α → Outcome β} {items : List α}
    (each : ∀ item ∈ items, ∃ result, f item = .ok result) :
    ∃ results, items.mapM f = .ok results := by
  induction items with
  | nil => exact ⟨[], rfl⟩
  | cons item items ih =>
      rcases each item List.mem_cons_self with ⟨first, found⟩
      rcases ih fun other isOther => each other (List.mem_cons_of_mem _ isOther) with ⟨rest, others⟩
      exact ⟨first :: rest, by rw [mapM_cons, found, ok_bind, others, ok_bind]⟩

theorem exists_mapM_of_perm {f : α → Outcome β} {items others : List α} (perm : others.Perm items)
    {results : List β} (success : items.mapM f = .ok results) :
    ∃ moved, others.mapM f = .ok moved ∧ moved.Perm results := by
  induction perm generalizing results with
  | nil => exact ⟨results, success, .refl _⟩
  | cons item _ ih =>
      rw [mapM_cons] at success
      rcases bind_eq_ok.mp success with ⟨first, found, success⟩
      rcases bind_eq_ok.mp success with ⟨rest, later, success⟩
      cases success
      rcases ih later with ⟨moved, run, movedPerm⟩
      exact ⟨first :: moved, by rw [mapM_cons, found, ok_bind, run, ok_bind], movedPerm.cons first⟩
  | swap item other items =>
      rw [mapM_cons, mapM_cons] at success
      rcases bind_eq_ok.mp success with ⟨first, found, success⟩
      rcases bind_eq_ok.mp success with ⟨rest, later, success⟩
      rcases bind_eq_ok.mp later with ⟨second, alsoFound, later⟩
      rcases bind_eq_ok.mp later with ⟨rest, run, later⟩
      cases later
      cases success
      refine ⟨second :: first :: rest, ?_, .swap first second rest⟩
      rw [mapM_cons, alsoFound, ok_bind, mapM_cons, found, ok_bind, run, ok_bind, ok_bind]
  | trans _ _ firstIh secondIh =>
      rcases secondIh success with ⟨middle, run, middlePerm⟩
      rcases firstIh run with ⟨moved, movedRun, movedPerm⟩
      exact ⟨moved, movedRun, movedPerm.trans middlePerm⟩

/-- The fault is that of the first item that has one. -/
theorem mapM_of_first_error {f : α → Outcome β} {before after : List α} {item : α} {fault : Fault}
    (each : ∀ earlier ∈ before, ∃ result, f earlier = .ok result)
    (failure : f item = .error fault) :
    (before ++ item :: after).mapM f = .error fault := by
  induction before with
  | nil => rw [List.nil_append, mapM_cons, failure, error_bind]
  | cons earlier before ih =>
      rcases each earlier List.mem_cons_self with ⟨result, found⟩
      rw [List.cons_append, mapM_cons, found, ok_bind,
        ih fun other isOther => each other (List.mem_cons_of_mem _ isOther), error_bind]

theorem mapM_eq_ok_iff {f : α → Outcome β} {items : List α} {results : List β} :
    items.mapM f = .ok results ↔ results.length = items.length ∧
      ∀ (place : Nat) item, items[place]? = some item →
        ∃ result, results[place]? = some result ∧ f item = .ok result := by
  constructor
  · intro success
    have each := forall₂_of_mapM success
    refine ⟨each.length_eq.symm, ?_⟩
    intro place item isItem
    rcases List.getElem?_eq_some_iff.mp isItem with ⟨inside, rfl⟩
    exact ⟨_, List.getElem?_eq_getElem (each.length_eq ▸ inside),
      (List.forall₂_iff_get.mp each).2 place inside (each.length_eq ▸ inside)⟩
  · rintro ⟨length, each⟩
    apply mapM_of_forall₂
    apply List.forall₂_iff_get.mpr ⟨length.symm, ?_⟩
    intro place inside resultInside
    rcases each place _ (List.getElem?_eq_getElem inside) with ⟨result, isResult, found⟩
    rw [List.getElem?_eq_getElem resultInside] at isResult
    cases isResult
    exact found

/-- A run fails with the fault of the first item that has one. -/
theorem mapM_eq_error_iff {f : α → Outcome β} {items : List α} {fault : Fault} :
    items.mapM f = .error fault ↔ ∃ (place : Nat) (item : α), items[place]? = some item ∧
      f item = .error fault ∧
      ∀ earlier < place, ∀ other, items[earlier]? = some other →
        ∃ result, f other = .ok result := by
  constructor
  · intro failure
    induction items with
    | nil => cases failure
    | cons item items ih =>
        rw [mapM_cons] at failure
        rcases found : f item with other | first
        · rw [found] at failure
          cases failure
          exact ⟨0, item, rfl, found, fun earlier below => absurd below (Nat.not_lt_zero _)⟩
        · rcases others : items.mapM f with other | rest
          · rw [found, others] at failure
            cases failure
            rcases ih others with ⟨place, later, isLater, failed, before⟩
            refine ⟨place + 1, later, isLater, failed, ?_⟩
            rintro (_ | earlier) below other isOther
            · cases isOther
              exact ⟨first, found⟩
            · exact before earlier (Nat.lt_of_succ_lt_succ below) other isOther
          · rw [found, others] at failure
            cases failure
  · rintro ⟨place, item, isItem, failed, before⟩
    rcases List.getElem?_eq_some_iff.mp isItem with ⟨inside, rfl⟩
    rw [← List.take_append_drop place items, List.drop_eq_getElem_cons inside]
    apply mapM_of_first_error _ failed
    intro other isOther
    rcases List.getElem?_of_mem isOther with ⟨earlier, found⟩
    rw [List.getElem?_take] at found
    split at found
    · next below => exact before earlier below other found
    · cases found

theorem exists_of_mapM_error {f : α → Outcome β} {items : List α} {fault : Fault}
    (failure : items.mapM f = .error fault) : ∃ item ∈ items, f item = .error fault := by
  rcases mapM_eq_error_iff.mp failure with ⟨place, item, isItem, failed, _⟩
  exact ⟨item, List.mem_of_getElem? isItem, failed⟩

/-! ## One outcome after the other -/

section Fold

variable {σ : Type} {step : σ → α → Outcome σ}

theorem exists_foldlM {items : List α}
    (each : ∀ item ∈ items, ∀ state, ∃ next, step state item = .ok next) (start : σ) :
    ∃ result, items.foldlM step start = .ok result := by
  induction items generalizing start with
  | nil => exact ⟨start, rfl⟩
  | cons item items ih =>
      rcases each item List.mem_cons_self start with ⟨next, found⟩
      rw [List.foldlM_cons, found, ok_bind]
      apply ih
      intro other isOther
      exact each other (List.mem_cons_of_mem _ isOther)

theorem foldlM_of_first_error {before after : List α} {item : α} {fault : Fault}
    (each : ∀ earlier ∈ before, ∀ state, ∃ next, step state earlier = .ok next)
    (failure : ∀ state, step state item = .error fault) (start : σ) :
    (before ++ item :: after).foldlM step start = .error fault := by
  rcases exists_foldlM each start with ⟨reached, run⟩
  rw [List.foldlM_append, run, ok_bind, List.foldlM_cons, failure, error_bind]

theorem foldlM_congr {other : σ → α → Outcome σ} {items : List α}
    (alike : ∀ item ∈ items, ∀ state, step state item = other state item) (start : σ) :
    items.foldlM step start = items.foldlM other start := by
  induction items generalizing start with
  | nil => rfl
  | cons item items ih =>
      rw [List.foldlM_cons, List.foldlM_cons, alike item List.mem_cons_self]
      apply bind_congr
      intro next
      apply ih
      intro later isLater
      exact alike later (List.mem_cons_of_mem _ isLater)

end Fold

end Outcome

end CurveNeighbors
