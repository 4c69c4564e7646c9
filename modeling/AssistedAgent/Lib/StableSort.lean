/-
**Sorting by a key.**

`sortBy key` is `sort.SliceStable` with the order of the keys as its `less`. A `Sorter key` is
`sort.Slice`, which may leave elements of one key in any order.

* **`sortBy_eq_of_perm`** — where elements of one key are equal, the result does not depend on the
  order of the input.
* **`filter_sortBy`** — the elements of one key keep their order, so that two inputs that list them
  in different orders have different results.
* **`Sorter.le_of_split`** — the first element with a property in what a sorter returns has the least
  key among those with the property.
-/

import Mathlib.Data.List.Pairwise
import Mathlib.Data.List.Sort
import Mathlib.Data.String.Basic

namespace StableSort

variable {α κ : Type} [LinearOrder κ]

def sortBy (key : α → κ) (l : List α) : List α := l.insertionSort fun a b => key a ≤ key b

section

variable (key : α → κ)

instance isTrans_key : IsTrans α fun a b => key a ≤ key b := ⟨fun _ _ _ => le_trans⟩

instance total_key : Std.Total fun a b => key a ≤ key b := ⟨fun a b => le_total (key a) (key b)⟩

theorem sortBy_perm (l : List α) : (sortBy key l).Perm l := List.perm_insertionSort _ l

theorem sortBy_pairwise (l : List α) : (sortBy key l).Pairwise fun a b => key a ≤ key b :=
  List.pairwise_insertionSort _ l

/-- **Without ties the order of the input leaves no trace.** -/
theorem sortBy_eq_of_perm {l l' : List α} (same : l.Perm l')
    (ties : ∀ a ∈ l, ∀ b ∈ l, key a = key b → a = b) : sortBy key l = sortBy key l' := by
  have perm : (sortBy key l).Perm (sortBy key l') :=
    ((sortBy_perm key l).trans same).trans (sortBy_perm key l').symm
  refine List.Perm.eq_of_pairwise ?_ (sortBy_pairwise key l) (sortBy_pairwise key l') perm
  intro a b ha hb le le'
  refine ties a ((sortBy_perm key l).mem_iff.mp ha) b ?_ (le_antisymm le le')
  exact same.mem_iff.mpr ((sortBy_perm key l').mem_iff.mp hb)

/-- **Stability.** -/
theorem filter_sortBy (k : κ) (l : List α) :
    (sortBy key l).filter (fun a => key a = k) = l.filter fun a => key a = k := by
  have equalKeys : (l.filter fun a => key a = k).Pairwise fun a b => key a ≤ key b := by
    have : Std.Refl fun a b => key a ≤ key b := ⟨fun a => le_refl (key a)⟩
    refine List.pairwise_of_reflexive_of_forall_ne ?_
    intro a ha b hb _
    rw [List.mem_filter, decide_eq_true_iff] at ha hb
    rw [ha.2, hb.2]
  have sub : (l.filter fun a => key a = k).Sublist (sortBy key l) :=
    List.sublist_insertionSort equalKeys List.filter_sublist
  have sub' := sub.filter fun a => key a = k
  rw [List.filter_filter] at sub'
  simp only [Bool.and_self] at sub'
  refine (sub'.eq_of_length ?_).symm
  exact ((sortBy_perm key l).filter _).length_eq.symm

/-- Where the keys differ pairwise, one element has the key of a given one. -/
theorem filter_key_of_nodup {l : List α} (distinct : (l.map key).Nodup) {a : α} (member : a ∈ l) :
    l.filter (fun b => key b = key a) = [a] := by
  induction l with
  | nil => cases member
  | cons b l ih =>
    rw [List.map_cons, List.nodup_cons] at distinct
    rcases List.mem_cons.mp member with rfl | inside
    · have others : l.filter (fun b => key b = key a) = [] := by
        rw [List.filter_eq_nil_iff]
        intro c inside same
        rw [decide_eq_true_iff] at same
        exact distinct.1 (List.mem_map.mpr ⟨c, inside, same⟩)
      rw [List.filter_cons_of_pos (by simp), others]
    · have other : key b ≠ key a := fun same =>
        distinct.1 (List.mem_map.mpr ⟨a, inside, same.symm⟩)
      rw [List.filter_cons_of_neg (by simpa using other), ih distinct.2 inside]

/-- **`sort.Slice`**: the result is sorted, and nothing is said of the order among equal keys. -/
structure Sorter where
  sort : List α → List α
  perm : ∀ l, (sort l).Perm l
  sorted : ∀ l, (sort l).Pairwise fun a b => key a ≤ key b

/-- The stable sort is one. -/
def Sorter.stable : Sorter key := ⟨sortBy key, sortBy_perm key, sortBy_pairwise key⟩

end

variable {key : α → κ}

theorem Sorter.mem_sort (s : Sorter key) {l : List α} {a : α} : a ∈ s.sort l ↔ a ∈ l :=
  (s.perm l).mem_iff

/-- **What a scan of the sorted list meets first is least.** -/
theorem Sorter.le_of_split (s : Sorter key) {p : α → Prop} {l before after : List α} {a : α}
    (split : s.sort l = before ++ a :: after) (none_ : ∀ b ∈ before, ¬ p b) :
    ∀ b ∈ l, p b → key a ≤ key b := by
  intro b member holds
  have sorted := s.sorted l
  rw [split, List.pairwise_append, List.pairwise_cons] at sorted
  have inside : b ∈ before ++ a :: after := split ▸ s.mem_sort.mpr member
  rcases List.mem_append.mp inside with earlier | rest
  · exact absurd holds (none_ b earlier)
  · rcases List.mem_cons.mp rest with rfl | later
    · exact le_refl _
    · exact sorted.2.1.1 b later

theorem Sorter.head_le (s : Sorter key) {l rest : List α} {a : α} (sorted : s.sort l = a :: rest)
    {b : α} (member : b ∈ l) : key a ≤ key b := by
  have split : s.sort l = [] ++ a :: rest := sorted
  refine s.le_of_split split (p := fun _ => True) ?_ b member trivial
  simp

end StableSort
