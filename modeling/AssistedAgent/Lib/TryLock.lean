/-
**Threads around one lock that is never waited for.**

A thread takes the lock if it is free and goes on without it otherwise. Which threads hold it is read
off their own states (`holds`), so no thread need be named by the lock.

* `Balanced holds s` — as many threads hold the lock as it is held: one or none.
* **`Balanced.move`** — a step of one thread keeps the balance if the lock and the thread change
  alike: both take, both release, or neither changes.
* **`Balanced.unique`** — two threads that hold the lock are one thread.
* `Balanced.held`, `Balanced.free` — a lock that a thread holds is held, one that no thread holds is
  free.
-/

import Mathlib.Data.List.Basic

namespace TryLock

variable {Thread : Type}

structure System (Thread : Type) where
  threads : List Thread
  held : Bool
deriving DecidableEq

/-- As many threads hold the lock as it is held. -/
def Balanced (holds : Thread → Bool) (s : System Thread) : Prop :=
  s.threads.countP holds = s.held.toNat

/-- A thread starts. -/
def System.spawn (s : System Thread) (t : Thread) : System Thread :=
  { s with threads := s.threads ++ [t] }

/-- A thread moves on, and leaves the lock as `held`. -/
def System.move (s : System Thread) (i : Nat) (t : Thread) (held : Bool) : System Thread :=
  { threads := s.threads.set i t, held }

variable {holds : Thread → Bool} {s : System Thread} {t next : Thread} {i j : Nat}

theorem System.mem_move {held : Bool} {u : Thread} (mem : u ∈ (s.move i next held).threads) :
    u = next ∨ u ∈ s.threads :=
  (List.mem_or_eq_of_mem_set mem).symm

/-- Replacing one member changes a count by that member alone. -/
theorem countP_set_add {l : List Thread} (here : l[i]? = some t) :
    (l.set i next).countP holds + (holds t).toNat = l.countP holds + (holds next).toNat := by
  induction l generalizing i with
  | nil => cases here
  | cons u rest ih =>
    cases i with
    | zero =>
      obtain rfl : u = t := Option.some.inj here
      simp only [List.set_cons_zero, List.countP_cons]
      cases holds u <;> cases holds next <;> simp
    | succ i =>
      simp only [List.set_cons_succ, List.countP_cons]
      have changed := ih here
      omega

theorem Balanced.spawn (balanced : Balanced holds s) (free : holds t = false) :
    Balanced holds (s.spawn t) := by
  unfold Balanced System.spawn
  rw [List.countP_append, List.countP_singleton, free]
  exact balanced

theorem Balanced.move {held : Bool} (balanced : Balanced holds s) (here : s.threads[i]? = some t)
    (alike : s.held.toNat + (holds next).toNat = held.toNat + (holds t).toNat) :
    Balanced holds (s.move i next held) := by
  have counted : (s.threads.set i next).countP holds + (holds t).toNat =
      s.threads.countP holds + (holds next).toNat := countP_set_add here
  unfold Balanced at balanced
  change (s.threads.set i next).countP holds = held.toNat
  omega

/-- At most one of at most one counted members. -/
theorem eq_of_countP_le_one {l : List Thread} {u : Thread} (few : l.countP holds ≤ 1)
    (first : l[i]? = some t) (firstHolds : holds t = true) (second : l[j]? = some u)
    (secondHolds : holds u = true) : i = j := by
  induction l generalizing i j with
  | nil => cases first
  | cons head rest ih =>
    have none_of_head : holds head = true → ∀ v ∈ rest, holds v ≠ true := by
      intro headHolds
      rw [List.countP_cons_of_pos headHolds] at few
      exact List.countP_eq_zero.mp (by omega)
    cases i with
    | zero =>
      obtain rfl : head = t := Option.some.inj first
      cases j with
      | zero => rfl
      | succ j =>
        exact absurd secondHolds (none_of_head firstHolds u (List.mem_of_getElem? second))
    | succ i =>
      cases j with
      | zero =>
        obtain rfl : head = u := Option.some.inj second
        exact absurd firstHolds (none_of_head secondHolds t (List.mem_of_getElem? first))
      | succ j =>
        have fewer : rest.countP holds ≤ 1 :=
          Nat.le_trans (List.sublist_cons_self head rest).countP_le few
        exact congrArg (· + 1) (ih fewer first second)

theorem Balanced.unique {u : Thread} (balanced : Balanced holds s) (first : s.threads[i]? = some t)
    (firstHolds : holds t = true) (second : s.threads[j]? = some u) (secondHolds : holds u = true) :
    i = j :=
  eq_of_countP_le_one (Nat.le_trans (Nat.le_of_eq balanced) (Bool.toNat_le s.held)) first firstHolds
    second secondHolds

theorem Balanced.held (balanced : Balanced holds s) (mem : t ∈ s.threads) (tHolds : holds t = true) :
    s.held = true := by
  have counted : 0 < s.threads.countP holds := List.countP_pos_iff.mpr ⟨t, mem, tHolds⟩
  rw [balanced] at counted
  by_contra free
  rw [Bool.eq_false_iff.mpr free] at counted
  exact Nat.lt_irrefl 0 counted

theorem Balanced.free (balanced : Balanced holds s) (none : ∀ t ∈ s.threads, holds t = false) :
    s.held = false := by
  have counted : s.threads.countP holds = 0 :=
    List.countP_eq_zero.mpr fun t mem => Bool.eq_false_iff.mp (none t mem)
  rw [balanced] at counted
  exact Bool.toNat_eq_zero.mp counted

end TryLock
