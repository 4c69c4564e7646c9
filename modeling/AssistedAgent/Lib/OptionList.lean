/-
**Lists of computations that may fail.**

`List.mapM` in `Option` returns when every element does, with the values in the same places
(**`mapM_eq_some`**), and fails when some element does (`mapM_eq_none_iff`). With `id` it takes a list of
options to the list of their values, if none is missing.
-/

import Mathlib.Data.List.Forall2

namespace OptionList

variable {α β : Type} {f : α → Option β}

/-- All succeed, each with its own result. -/
theorem mapM_eq_some {l : List α} {r : List β} :
    l.mapM f = some r ↔ List.Forall₂ (fun a b => f a = some b) l r := by
  induction l generalizing r with
  | nil =>
    rw [List.mapM_nil, List.forall₂_nil_left_iff]
    exact ⟨fun same => (Option.some.inj same).symm, fun same => same ▸ rfl⟩
  | cons a l ih =>
    rw [List.mapM_cons]
    constructor
    · intro mapped
      obtain ⟨b, first, rest⟩ := Option.bind_eq_some_iff.mp mapped
      obtain ⟨bs, others, eq⟩ := Option.bind_eq_some_iff.mp rest
      cases eq
      exact .cons first (ih.mp others)
    · intro related
      cases related with
      | cons first others =>
        rw [first, ih.mpr others]
        rfl

/-- One that fails makes the whole fail. -/
theorem mapM_eq_none_iff {l : List α} : l.mapM f = none ↔ ∃ a ∈ l, f a = none := by
  induction l with
  | nil => simp
  | cons a l ih =>
    rw [List.mapM_cons, List.exists_mem_cons_iff, ← ih]
    cases f a <;> cases l.mapM f <;> simp

theorem mapM_returns {l : List α} (each : ∀ a ∈ l, ∃ b, f a = some b) : ∃ r, l.mapM f = some r := by
  rw [← Option.ne_none_iff_exists', Ne, mapM_eq_none_iff]
  rintro ⟨a, member, failed⟩
  obtain ⟨b, returned⟩ := each a member
  cases failed.symm.trans returned

/-- A member of the right list comes from one of the left. -/
theorem exists_left_of_forall₂ {R : α → β → Prop} {l : List α} {r : List β}
    (related : List.Forall₂ R l r) {b : β} (member : b ∈ r) : ∃ a ∈ l, R a b := by
  induction related with
  | nil => exact absurd member List.not_mem_nil
  | @cons a c l r first _ ih =>
    rcases List.mem_cons.mp member with rfl | member
    · exact ⟨a, List.mem_cons_self, first⟩
    · obtain ⟨a', listed, other⟩ := ih member
      exact ⟨a', List.mem_cons_of_mem _ listed, other⟩

/-- A relation that comes down to a property of the left side, where another one holds already. -/
theorem forall₂_iff_forall {R D : α → β → Prop} {P : α → Prop} {l : List α} {r : List β}
    (related : List.Forall₂ R l r) (same : ∀ a ∈ l, ∀ b, R a b → (D a b ↔ P a)) :
    List.Forall₂ D l r ↔ ∀ a ∈ l, P a := by
  induction related with
  | nil => simp
  | @cons a b l r first _ ih =>
    rw [List.forall₂_cons, List.forall_mem_cons, same a List.mem_cons_self b first,
      ih fun a' member => same a' (List.mem_cons_of_mem _ member)]

/-! ### Lists of options -/

theorem mapM_id_eq_none_iff {l : List (Option α)} : l.mapM id = none ↔ none ∈ l := by
  rw [mapM_eq_none_iff]
  exact ⟨fun ⟨_, member, is⟩ => is ▸ member, fun member => ⟨none, member, rfl⟩⟩

/-- A list without a missing value. -/
theorem mapM_id_returns {l : List (Option α)} (filled : none ∉ l) :
    ∃ r, l.mapM id = some r ∧ ∀ a ∈ r, some a ∈ l := by
  obtain ⟨r, mapped⟩ := Option.ne_none_iff_exists'.mp (mapM_id_eq_none_iff.not.mpr filled)
  refine ⟨r, mapped, fun a member => ?_⟩
  obtain ⟨entry, listed, same⟩ := exists_left_of_forall₂ (mapM_eq_some.mp mapped) member
  exact same ▸ listed

end OptionList
