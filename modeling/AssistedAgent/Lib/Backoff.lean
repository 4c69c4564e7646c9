/-
**Retrying with an exponential back-off.**

An operation is repeated until it succeeds. After a failure the loop waits; the interval grows by half
with every failure up to a maximum, and what is waited is drawn from half of it to one and a half times
it. The loop gives up if the wait would end too long after its start. Times are in nanoseconds and read
from a clock that is not part of the loop.

* `Policy.interval`, `Policy.leastWait` — the interval after a number of failures, and the least that
  is waited for them.
* `Loop.start`, `Loop.fail`, `Loop.fire` — the loop.
* **`Loop.Inv.failed`**, **`Loop.Inv.fired`** — what is known of a loop after a number of failures: it
  has waited for each of them, and no wait ends later than the policy allows.
* **`Loop.Inv.failures_le`** — so the number of failures is bounded.
-/

import Mathlib.Algebra.Ring.Nat
import Mathlib.Order.Basic

namespace Backoff

/-! ### Intervals -/

/-- The settings of an `ExponentialBackOff` with the default multiplier of 1.5 and the default
randomization factor of 0.5. -/
structure Policy where
  initialInterval : Nat
  maxInterval : Nat
  /-- Zero for no limit. -/
  maxElapsedTime : Nat
  bounded : initialInterval ≤ maxInterval

namespace Policy

variable (p : Policy)

/-- `incrementCurrentInterval`. The product by 1.5 of an integer below `2 ^ 52` is exact in `float64`,
and the conversion truncates it; so is the quotient, for a maximum divisible by three. -/
def increment (currentInterval : Nat) : Nat :=
  if 2 * p.maxInterval ≤ 3 * currentInterval then p.maxInterval else currentInterval * 3 / 2

/-- The current interval after a number of failures. -/
def interval : Nat → Nat
  | 0 => p.initialInterval
  | failures + 1 => p.increment (interval failures)

/-- The least that is waited after a number of failures. -/
def leastWait : Nat → Nat
  | 0 => 0
  | failures + 1 => leastWait failures + p.interval failures / 2

theorem increment_le (currentInterval : Nat) : p.increment currentInterval ≤ p.maxInterval := by
  unfold increment
  split <;> omega

theorem interval_le (failures : Nat) : p.interval failures ≤ p.maxInterval := by
  cases failures with
  | zero => exact p.bounded
  | succ failures => exact p.increment_le _

theorem leastWait_mono {m n : Nat} (le : m ≤ n) : p.leastWait m ≤ p.leastWait n := by
  induction le with
  | refl => exact le_refl _
  | step _ ih => exact ih.trans (Nat.le_add_right _ _)

end Policy

/-- What `getRandomValueFromInterval` may return: the ends are rounded down, and the product with the
random number may be rounded up to the upper one. -/
def Drawn (currentInterval next : Nat) : Prop :=
  currentInterval / 2 ≤ next ∧ next ≤ currentInterval * 3 / 2 + 1

instance (currentInterval next : Nat) : Decidable (Drawn currentInterval next) :=
  inferInstanceAs (Decidable (_ ∧ _))

/-! ### The loop -/

structure ExponentialBackOff where
  currentInterval : Nat
  startTime : Nat
deriving DecidableEq, Repr

def reset (p : Policy) (now : Nat) : ExponentialBackOff := ⟨p.initialInterval, now⟩

/-- `NextBackOff`, for a drawn interval; `none` is `Stop`. -/
def nextBackOff (p : Policy) (b : ExponentialBackOff) (now next : Nat) :
    Option Nat × ExponentialBackOff :=
  let elapsed := now - b.startTime
  let b' := { b with currentInterval := p.increment b.currentInterval }
  if p.maxElapsedTime ≠ 0 ∧ p.maxElapsedTime < elapsed + next then (none, b') else (some next, b')

inductive Phase
  /-- The operation runs, since a time. -/
  | running (since : Nat)
  | waiting (wake : Nat)
  | gaveUp
deriving DecidableEq, Repr

/-- `RetryNotify`, until its operation succeeds. -/
structure Loop where
  backOff : ExponentialBackOff
  phase : Phase
deriving DecidableEq, Repr

def Loop.start (p : Policy) (now : Nat) : Loop := ⟨reset p now, .running now⟩

/-- The operation has failed. -/
def Loop.fail (p : Policy) (l : Loop) (now next : Nat) : Loop :=
  match nextBackOff p l.backOff now next with
  | (none, backOff) => ⟨backOff, .gaveUp⟩
  | (some delay, backOff) => ⟨backOff, .waiting (now + delay)⟩

/-- The timer has fired. -/
def Loop.fire (l : Loop) (now : Nat) : Loop := { l with phase := .running now }

/-- After a failure the loop waits as long as was drawn, or gives up. -/
theorem Loop.fail_eq (p : Policy) (l : Loop) (now next : Nat) :
    l.fail p now next = ⟨{ l.backOff with currentInterval := p.increment l.backOff.currentInterval },
      if p.maxElapsedTime ≠ 0 ∧ p.maxElapsedTime < now - l.backOff.startTime + next then .gaveUp
      else .waiting (now + next)⟩ := by
  unfold Loop.fail nextBackOff
  by_cases stops : p.maxElapsedTime ≠ 0 ∧ p.maxElapsedTime < now - l.backOff.startTime + next
  · simp only [if_pos stops]
  · simp only [if_neg stops]

/-! ### What is known of the loop -/

/-- What a phase says of the clock, after a number of failures. -/
def Loop.Timely (p : Policy) (now failures : Nat) (l : Loop) : Prop :=
  match l.phase with
  | .running since => l.backOff.startTime + p.leastWait failures ≤ since ∧ since ≤ now ∧
      p.leastWait failures ≤ p.maxElapsedTime
  | .waiting wake => l.backOff.startTime + p.leastWait failures ≤ wake ∧
      wake ≤ l.backOff.startTime + p.maxElapsedTime
  | .gaveUp => ∃ earlier, failures = earlier + 1 ∧ p.leastWait earlier ≤ p.maxElapsedTime ∧
      l.backOff.startTime + p.maxElapsedTime ≤ now + p.maxInterval * 3 / 2

structure Loop.Inv (p : Policy) (now failures : Nat) (l : Loop) : Prop where
  interval : l.backOff.currentInterval = p.interval failures
  timely : l.Timely p now failures

variable {p : Policy} {now failures : Nat} {l : Loop}

theorem Loop.Inv.start (p : Policy) (now : Nat) : (Loop.start p now).Inv p now 0 where
  interval := rfl
  timely := ⟨le_refl _, le_refl _, Nat.zero_le _⟩

theorem Loop.Inv.elapse (inv : l.Inv p now failures) (duration : Nat) :
    l.Inv p (now + duration) failures := by
  refine ⟨inv.interval, ?_⟩
  have timely := inv.timely
  unfold Loop.Timely at timely ⊢
  split
  · rename_i since is
    rw [is] at timely
    exact ⟨timely.1, by omega, timely.2.2⟩
  · rename_i wake is
    rw [is] at timely
    exact timely
  · rename_i is
    rw [is] at timely
    obtain ⟨earlier, last, waited, late⟩ := timely
    exact ⟨earlier, last, waited, by omega⟩

/-- **A failure** is waited for, or it is the last. -/
theorem Loop.Inv.failed (inv : l.Inv p now failures) (limited : p.maxElapsedTime ≠ 0) {since next : Nat}
    (running : l.phase = .running since) (drawn : Drawn l.backOff.currentInterval next) :
    (l.fail p now next).Inv p now (failures + 1) := by
  have timely := inv.timely
  simp only [Loop.Timely, running] at timely
  rw [inv.interval] at drawn
  have most := p.interval_le failures
  obtain ⟨least, greatest⟩ := drawn
  rw [Loop.fail_eq]
  by_cases stops : p.maxElapsedTime ≠ 0 ∧ p.maxElapsedTime < now - l.backOff.startTime + next
  · rw [if_pos stops]
    refine ⟨congrArg p.increment inv.interval, failures, rfl, timely.2.2, ?_⟩
    dsimp only
    omega
  · rw [if_neg stops]
    refine ⟨congrArg p.increment inv.interval, ?_, ?_⟩ <;> dsimp only [Policy.leastWait] <;> omega

/-- **The timer fires** once the wait is over. -/
theorem Loop.Inv.fired (inv : l.Inv p now failures) {wake : Nat} (waiting : l.phase = .waiting wake)
    (due : wake ≤ now) : (l.fire now).Inv p now failures := by
  have timely := inv.timely
  simp only [Loop.Timely, waiting] at timely
  exact ⟨inv.interval, timely.1.trans due, le_refl _, by omega⟩

/-- **The number of failures is bounded** by the waits that fit before the limit. -/
theorem Loop.Inv.failures_le (inv : l.Inv p now failures) {most : Nat}
    (exceeds : p.maxElapsedTime < p.leastWait most) : failures ≤ most := by
  have before : ∀ {n}, p.leastWait n ≤ p.maxElapsedTime → n < most := by
    intro n within
    by_contra later
    have := p.leastWait_mono (Nat.le_of_not_lt later)
    omega
  have timely := inv.timely
  unfold Loop.Timely at timely
  split at timely
  · exact (before timely.2.2).le
  · exact (before (by omega)).le
  · obtain ⟨earlier, rfl, waited, -⟩ := timely
    exact before waited

end Backoff
