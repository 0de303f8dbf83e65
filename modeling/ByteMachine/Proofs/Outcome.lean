import Mathlib.Data.List.Forall2

/-!
# Outcomes

A computation that may fail succeeds when each of its parts does, and fails as the first part that
does not; a list is read when each of its members is, and fails as the first member that is not.
-/

namespace ByteMachine

variable {ε α β : Type}

theorem bind_eq_ok_iff {first : Except ε α} {next : α → Except ε β} {result : β} :
    first >>= next = .ok result ↔ ∃ value, first = .ok value ∧ next value = .ok result := by
  cases first with
  | error failure => simp [bind, Except.bind]
  | ok value => simp [bind, Except.bind]

theorem map_eq_ok_iff {first : Except ε α} {f : α → β} {result : β} :
    f <$> first = .ok result ↔ ∃ value, first = .ok value ∧ f value = result := by
  cases first with
  | error failure => simp [Functor.map, Except.map]
  | ok value => simp [Functor.map, Except.map]

theorem mapError_eq_ok_iff {ε' : Type} {f : ε → ε'} {first : Except ε α} {value : α} :
    first.mapError f = .ok value ↔ first = .ok value := by
  cases first with
  | error failure => simp [Except.mapError]
  | ok value => simp [Except.mapError]

theorem mapM_eq_ok_iff {f : α → Except ε β} {items : List α} {results : List β} :
    items.mapM f = .ok results ↔
      List.Forall₂ (fun item result => f item = .ok result) items results := by
  induction items generalizing results with
  | nil => simp [pure, Except.pure, eq_comm]
  | cons item rest induction =>
      rw [List.mapM_cons, List.forall₂_cons_left_iff, bind_eq_ok_iff]
      constructor
      · rintro ⟨result, first, more⟩
        obtain ⟨others, readRest, same⟩ := bind_eq_ok_iff.mp more
        exact ⟨result, others, first, induction.mp readRest, (Except.ok.inj same).symm⟩
      · rintro ⟨result, others, first, readRest, rfl⟩
        exact ⟨result, first, bind_eq_ok_iff.mpr ⟨others, induction.mpr readRest, rfl⟩⟩

theorem exists_of_mem_mapM {f : α → Except ε β} {items : List α} {results : List β}
    (done : items.mapM f = .ok results) {result : β} (member : result ∈ results) :
    ∃ item ∈ items, f item = .ok result := by
  have each := List.forall₂_iff_get.mp (mapM_eq_ok_iff.mp done)
  obtain ⟨index, inside, rfl⟩ := List.getElem_of_mem member
  have inItems : index < items.length := each.1 ▸ inside
  exact ⟨items[index], List.getElem_mem inItems, each.2 index inItems inside⟩

theorem forM_eq_ok {check : α → Except ε Unit} {items : List α}
    (passes : ∀ item ∈ items, check item = .ok ()) : items.forM check = .ok () := by
  induction items with
  | nil => rfl
  | cons item rest induction =>
      rw [List.forall_mem_cons] at passes
      exact bind_eq_ok_iff.mpr ⟨(), passes.1, induction passes.2⟩

theorem bind_eq_error_iff {first : Except ε α} {next : α → Except ε β} {failure : ε} :
    first >>= next = .error failure ↔
      first = .error failure ∨ ∃ value, first = .ok value ∧ next value = .error failure := by
  cases first with
  | error other => simp [bind, Except.bind]
  | ok value => simp [bind, Except.bind]

theorem map_eq_error_iff {first : Except ε α} {f : α → β} {failure : ε} :
    f <$> first = .error failure ↔ first = .error failure := by
  cases first with
  | error other => simp [Functor.map, Except.map]
  | ok value => simp [Functor.map, Except.map]

theorem mapError_eq_error_iff {ε' : Type} {f : ε → ε'} {first : Except ε α} {failure : ε'} :
    first.mapError f = .error failure ↔ ∃ other, first = .error other ∧ f other = failure := by
  cases first with
  | error other => simp [Except.mapError]
  | ok value => simp [Except.mapError]

theorem mapM_eq_error_iff {f : α → Except ε β} {items : List α} {failure : ε} :
    items.mapM f = .error failure ↔
      ∃ before item after, items = before ++ item :: after ∧
        (∀ other ∈ before, ∃ result, f other = .ok result) ∧ f item = .error failure := by
  induction items with
  | nil => simp [pure, Except.pure]
  | cons item rest induction =>
      rw [List.mapM_cons, bind_eq_error_iff]
      constructor
      · rintro (failed | ⟨result, first, failed⟩)
        · exact ⟨[], item, rest, rfl, by simp, failed⟩
        · obtain failed | ⟨results, -, impossible⟩ := bind_eq_error_iff.mp failed
          · obtain ⟨before, other, after, rfl, each, failed⟩ := induction.mp failed
            have all : ∀ one ∈ item :: before, ∃ result, f one = .ok result :=
              List.forall_mem_cons.mpr ⟨⟨result, first⟩, each⟩
            exact ⟨item :: before, other, after, rfl, all, failed⟩
          · cases impossible
      · rintro ⟨before, other, after, split, each, failed⟩
        obtain ⟨rfl, same⟩ | ⟨more, rfl, same⟩ := List.cons_eq_append_iff.mp split
        · cases same
          exact .inl failed
        · obtain ⟨result, first⟩ := each item (by simp)
          refine .inr ⟨result, first, bind_eq_error_iff.mpr (.inl (induction.mpr ?_))⟩
          exact ⟨more, other, after, same, fun one member => each one (by simp [member]), failed⟩

theorem mapM_range_eq_error_iff {f : Nat → Except ε β} {size : Nat} {failure : ε} :
    (List.range size).mapM f = .error failure ↔
      ∃ index < size, f index = .error failure ∧
        ∀ earlier < index, ∃ result, f earlier = .ok result := by
  rw [mapM_eq_error_iff]
  constructor
  · rintro ⟨before, index, after, split, each, failed⟩
    have ascending := List.pairwise_lt_range (n := size)
    rw [split, List.pairwise_append, List.pairwise_cons] at ascending
    have small : index < size := List.mem_range.mp (by simp [split])
    refine ⟨index, small, failed, fun earlier less => each earlier ?_⟩
    have member : earlier ∈ before ++ index :: after :=
      split ▸ List.mem_range.mpr (Nat.lt_trans less small)
    rcases List.mem_append.mp member with inside | later
    · exact inside
    · rcases List.mem_cons.mp later with rfl | after
      · exact absurd less (Nat.lt_irrefl _)
      · exact absurd (ascending.2.1.1 earlier after) (Nat.lt_asymm less)
  · rintro ⟨index, small, failed, each⟩
    obtain ⟨before, after, split⟩ := List.append_of_mem (List.mem_range.mpr small)
    refine ⟨before, index, after, split, fun earlier member => each earlier ?_, failed⟩
    have ascending := List.pairwise_lt_range (n := size)
    rw [split, List.pairwise_append] at ascending
    exact ascending.2.2 earlier member index List.mem_cons_self

theorem mapM_append_eq_ok_iff {f : α → Except ε β} {items more : List α} {results : List β} :
    (items ++ more).mapM f = .ok results ↔
      ∃ first second, items.mapM f = .ok first ∧ more.mapM f = .ok second ∧
        results = first ++ second := by
  rw [List.mapM_append, bind_eq_ok_iff]
  constructor
  · rintro ⟨first, readItems, rest⟩
    obtain ⟨second, readMore, same⟩ := bind_eq_ok_iff.mp rest
    exact ⟨first, second, readItems, readMore, (Except.ok.inj same).symm⟩
  · rintro ⟨first, second, readItems, readMore, rfl⟩
    exact ⟨first, readItems, bind_eq_ok_iff.mpr ⟨second, readMore, rfl⟩⟩

/-- A list is read when each of its members is. -/
theorem exists_forall₂_iff {R : α → β → Prop} {items : List α} :
    (∃ results, List.Forall₂ R items results) ↔ ∀ item ∈ items, ∃ result, R item result := by
  induction items with
  | nil => simp
  | cons item rest induction =>
      rw [List.forall_mem_cons, ← induction]
      constructor
      · rintro ⟨_, _ | ⟨first, each⟩⟩
        exact ⟨⟨_, first⟩, _, each⟩
      · rintro ⟨⟨result, first⟩, results, each⟩
        exact ⟨result :: results, .cons first each⟩

theorem mapM_eq_some_of_forall₂ {f : α → Option β} {items : List α} {results : List β}
    (each : List.Forall₂ (fun item result => f item = some result) items results) :
    items.mapM f = some results := by
  induction each with
  | nil => rfl
  | cons first _ induction =>
      rw [List.mapM_cons, first, induction]
      rfl

end ByteMachine
