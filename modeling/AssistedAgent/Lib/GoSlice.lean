/-
**Slices that share an array.**

A slice is a window on an array of the heap, and `append` writes into the array if the window can grow
in it. Otherwise it copies to a new array.

* **`append_full`** — an append to a slice without spare capacity changes no array that exists, and
  gives the elements of the slice with the new ones after them.
* **`copy_make`**, **`write_last`** — a slice that is made and copied into has an array of its own, and
  what is written to it reaches no other.
-/

import Mathlib.Data.List.Basic
import Mathlib.Data.List.GetD

namespace GoSlice

/-- The arrays that have been allocated. -/
abbrev Heap (α : Type) := List (List α)

structure Slice where
  array : Nat
  offset : Nat
  len : Nat
  cap : Nat
deriving DecidableEq, Repr

variable {α : Type}

/-- The elements of a slice. -/
def Slice.read (h : Heap α) (s : Slice) : List α := ((h.getD s.array []).drop s.offset).take s.len

/-- `a[:]`, for an array with this number of elements. -/
def whole (array len : Nat) : Slice := ⟨array, 0, len, len⟩

/-- Elements written over those from a position on. -/
def overwrite (xs : List α) (i : Nat) (ys : List α) :
    List α := xs.take i ++ ys ++ xs.drop (i + ys.length)

/-- `append`; `spare` is the capacity that a new array of a length has beyond it. -/
def append [Inhabited α] (spare : Nat → Nat) (h : Heap α) (s : Slice) (ys : List α) : Heap α × Slice :=
  if s.len + ys.length ≤ s.cap then
    (h.set s.array (overwrite (h.getD s.array []) (s.offset + s.len) ys),
      { s with len := s.len + ys.length })
  else
    let elements := s.read h ++ ys
    (h ++ [elements ++ List.replicate (spare elements.length) default],
      ⟨h.length, 0, elements.length, elements.length + spare elements.length⟩)

theorem read_whole {h : Heap α} {array : Nat} {elements : List α} (here : h[array]? = some elements) :
    (whole array elements.length).read h = elements := by
  rw [Slice.read, List.getD_eq_getElem?_getD]
  simp [whole, here]

/-- **An append to a full slice** leaves the arrays as they were. -/
theorem append_full [Inhabited α] (spare : Nat → Nat) (h : Heap α) {s : Slice} {ys : List α}
    (full : s.cap < s.len + ys.length) :
    h <+: (append spare h s ys).1 ∧
      (append spare h s ys).2.read (append spare h s ys).1 = s.read h ++ ys := by
  rw [append, if_neg (Nat.not_le.mpr full)]
  refine ⟨List.prefix_append h _, ?_⟩
  dsimp only
  generalize s.read h ++ ys = elements
  rw [Slice.read, List.getD_eq_getElem?_getD, List.getElem?_concat_length, Option.getD_some,
    List.drop_zero, List.take_left]

/-! ### Slices that are made -/

/-- `make([]T, n)`. -/
def make (h : Heap α) (zero : α) (n : Nat) : Heap α × Slice :=
  (h ++ [List.replicate n zero], whole h.length n)

/-- Elements stored in a slice from its start on. -/
def write (h : Heap α) (s : Slice) (xs : List α) : Heap α :=
  h.set s.array (overwrite (h.getD s.array []) s.offset xs)

/-- `copy(dst, src)`. -/
def copy (h : Heap α) (dst src : Slice) : Heap α := write h dst ((src.read h).take dst.len)

/-- A slice that lies in its array, or has no elements, as `nil`. -/
def Slice.Valid (h : Heap α) (s : Slice) : Prop :=
  s.len = 0 ∨ s.offset + s.len ≤ (h.getD s.array []).length

variable {h : Heap α} {s : Slice}

theorem Slice.Valid.length_read (valid : s.Valid h) : (s.read h).length = s.len := by
  rw [Slice.read, List.length_take, List.length_drop]
  rcases valid with empty | fits <;> omega

/-- **New arrays** do not change what a slice reads. -/
theorem Slice.Valid.read_append (valid : s.Valid h) (later : Heap α) :
    s.read (h ++ later) = s.read h := by
  rcases valid with empty | fits
  · rw [Slice.read, Slice.read, empty, List.take_zero, List.take_zero]
  · rcases Nat.lt_or_ge s.array h.length with old | beyond
    · rw [Slice.read, Slice.read, List.getD_append _ _ _ _ old]
    · rw [List.getD_eq_default _ _ beyond] at fits
      have empty : s.len = 0 := by
        rw [List.length_nil] at fits
        omega
      rw [Slice.read, Slice.read, empty, List.take_zero, List.take_zero]

/-- **A write that fills the last array.** -/
theorem write_last (h : Heap α) {xs ys : List α} (same : ys.length = xs.length) :
    write (h ++ [xs]) (whole h.length xs.length) ys = h ++ [ys] := by
  rw [write, whole, List.set_append_right _ _ (Nat.le_refl _), Nat.sub_self, List.set_cons_zero,
    List.getD_append_right _ _ _ _ (Nat.le_refl _), Nat.sub_self, List.getD_cons_zero, overwrite,
    List.take_zero, List.nil_append, Nat.zero_add, same, List.drop_length, List.append_nil]

/-- **`make` and `copy`** put the elements of a slice in an array of their own. -/
theorem copy_make (valid : s.Valid h) (zero : α) :
    copy (make h zero s.len).1 (make h zero s.len).2 s = h ++ [s.read h] := by
  have len := valid.length_read
  have filled : (List.replicate s.len zero).length = s.len := List.length_replicate
  have written := write_last h (len.trans filled.symm)
  rw [filled] at written
  rw [copy, make, valid.read_append, show (whole h.length s.len).len = s.len from rfl, ← len,
    List.take_length, len, written]

end GoSlice
