/-
**Labelled transition systems: runs, guarded runs, invariants, bounded runs.**

* `Run step s labels last` — the labels of a finite run, in order, from `s` to `last`.
* `guarded guard step` — the steps whose source state and label meet `guard`. A run of
  `guarded guard step` is a run of `step` all of whose steps meet the condition.
* **`Reachable.invariant`** — what holds at the start and is kept by every step holds in every
  reachable state; **`Run.history`** — the same with the labels taken so far.
* **`Run.length_add_le`** — a measure that every step lowers bounds the length of every run, and
  where a state that is not at an end has a step, every state can reach an end (`exists_end`).
* **`Run.simulation`** — where every step of one system is some run of another that shows the same
  events, so is every run.
* `exists_split` — replacing the state of one process among several.
* `outputs step s inputs` — what a machine with output answers along a sequence of inputs.
  **`outputs_eq_of_simulation`**: two machines that answer alike in related states, and stay
  related, answer alike along every sequence. `outputs_filter`: dropping the inputs that leave the
  part of the state under view alone drops exactly their answers.
-/

import Mathlib.Data.Nat.Basic
import Mathlib.Order.Basic

namespace Transition

variable {State Label : Type}

/-! ### Runs -/

/-- A finite run, with its labels in order. -/
inductive Run (step : State → Label → State → Prop) : State → List Label → State → Prop
  | nil (s : State) : Run step s [] s
  | cons {s next last : State} {a : Label} {labels : List Label} :
      step s a next → Run step next labels last → Run step s (a :: labels) last

/-- The states some run from `init` ends in. -/
def Reachable (step : State → Label → State → Prop) (init s : State) : Prop :=
  ∃ labels, Run step init labels s

/-- Some step leaves the state. -/
def Enabled (step : State → Label → State → Prop) (s : State) : Prop :=
  ∃ a next, step s a next

/-- The steps that meet a condition on the state before them and on their label. -/
def guarded (guard : State → Label → Prop) (step : State → Label → State → Prop) :
    State → Label → State → Prop :=
  fun s a next => guard s a ∧ step s a next

/-- The transition relation of a step function that answers `none` where a label is disabled. -/
def ofPartial (f : State → Label → Option State) : State → Label → State → Prop :=
  fun s a next => f s a = some next

/-- The transition relation of a total step function. -/
def ofTotal (f : State → Label → State) : State → Label → State → Prop :=
  fun s a next => f s a = next

variable {step : State → Label → State → Prop}

theorem Run.append {s middle last : State} {first second : List Label}
    (left : Run step s first middle) (right : Run step middle second last) :
    Run step s (first ++ second) last := by
  induction left with
  | nil s => exact right
  | cons taken _ ih => exact .cons taken (ih right)

theorem Run.exists_of_append {s last : State} {first second : List Label}
    (run : Run step s (first ++ second) last) :
    ∃ middle, Run step s first middle ∧ Run step middle second last := by
  induction first generalizing s with
  | nil => exact ⟨s, .nil s, run⟩
  | cons a first ih =>
    cases run with
    | cons taken rest =>
      obtain ⟨middle, left, right⟩ := ih rest
      exact ⟨middle, .cons taken left, right⟩

theorem Run.single {s next : State} {a : Label} (taken : step s a next) : Run step s [a] next :=
  .cons taken (.nil next)

/-- A step function taken along its labels is a run. -/
theorem Run.of_foldlM {f : State → Label → Option State} {s last : State} {labels : List Label}
    (taken : labels.foldlM f s = some last) : Run (ofPartial f) s labels last := by
  induction labels generalizing s with
  | nil =>
    obtain rfl : s = last := Option.some.inj taken
    exact .nil s
  | cons a rest ih =>
    rw [List.foldlM_cons] at taken
    obtain ⟨next, first, later⟩ := Option.bind_eq_some_iff.mp taken
    exact .cons first (ih later)

theorem Reachable.refl (init : State) : Reachable step init init :=
  ⟨[], .nil init⟩

theorem Reachable.tail {init s next : State} {a : Label} (reach : Reachable step init s)
    (taken : step s a next) : Reachable step init next := by
  obtain ⟨labels, run⟩ := reach
  exact ⟨labels ++ [a], run.append (Run.single taken)⟩

theorem Reachable.trans {init s last : State} {labels : List Label}
    (reach : Reachable step init s) (run : Run step s labels last) :
    Reachable step init last := by
  obtain ⟨before, first⟩ := reach
  exact ⟨before ++ labels, first.append run⟩

/-! ### Invariants -/

theorem Run.invariant {Inv : State → Prop} {s last : State} {labels : List Label}
    (run : Run step s labels last) (start : Inv s)
    (preserve : ∀ s a next, Inv s → step s a next → Inv next) : Inv last := by
  induction run with
  | nil s => exact start
  | cons taken _ ih => exact ih (preserve _ _ _ start taken)

/-- **What holds at the start and is kept by every step holds in every reachable state.** -/
theorem Reachable.invariant {Inv : State → Prop} {init s : State}
    (reach : Reachable step init s) (start : Inv init)
    (preserve : ∀ s a next, Inv s → step s a next → Inv next) : Inv s := by
  obtain ⟨labels, run⟩ := reach
  exact run.invariant start preserve

/-- **An invariant of the labels taken so far and the state they lead to.** -/
theorem Run.history {s last : State} {labels : List Label} (run : Run step s labels last)
    (Inv : List Label → State → Prop) (start : Inv [] s)
    (preserve : ∀ done s a next, Inv done s → step s a next → Inv (done ++ [a]) next) :
    Inv labels last := by
  have extended : ∀ done, Inv done s → Inv (done ++ labels) last := by
    clear start
    induction run with
    | nil s =>
      intro done inv
      rwa [List.append_nil]
    | cons taken _ ih =>
      intro done inv
      rw [List.append_cons]
      exact ih _ (preserve done _ _ _ inv taken)
  exact extended [] start

/-! ### Simulation -/

section Simulation

variable {Abs Other Event : Type} {spec : Abs → Other → Abs → Prop}

/-- **A system whose steps are runs of another, seen through `abs`.** Its runs are runs of the other, and
they show the same events. -/
theorem Run.simulation (abs : State → Abs) (visible : Label → List Event) (seen : Other → List Event)
    {s last : State} {labels : List Label} (run : Run step s labels last)
    (follow : ∀ s a next, step s a next →
      ∃ others, Run spec (abs s) others (abs next) ∧ others.flatMap seen = visible a) :
    ∃ others, Run spec (abs s) others (abs last) ∧ others.flatMap seen = labels.flatMap visible := by
  induction run with
  | nil s => exact ⟨[], .nil (abs s), rfl⟩
  | cons taken _ ih =>
    obtain ⟨first, before, same⟩ := follow _ _ _ taken
    obtain ⟨second, after, rest⟩ := ih
    refine ⟨first ++ second, before.append after, ?_⟩
    rw [List.flatMap_append, List.flatMap_cons, same, rest]

end Simulation

/-! ### Bounded runs -/

/-- **A measure that every step lowers bounds the length of every run.** The steps only have to
lower it in the states of an invariant. -/
theorem Run.length_add_le {Inv : State → Prop} (measure : State → Nat) {s last : State}
    {labels : List Label} (run : Run step s labels last) (start : Inv s)
    (preserve : ∀ s a next, Inv s → step s a next → Inv next)
    (lower : ∀ s a next, Inv s → step s a next → measure next < measure s) :
    labels.length + measure last ≤ measure s := by
  induction run with
  | nil s => simp
  | cons taken _ ih =>
    have rest := ih (preserve _ _ _ start taken)
    have head := lower _ _ _ start taken
    simp only [List.length_cons]
    omega

/-- **Progress and a measure lead to an end.** -/
theorem exists_end (Inv End : State → Prop) (measure : State → Nat)
    (preserve : ∀ s a next, Inv s → step s a next → Inv next)
    (lower : ∀ s a next, Inv s → step s a next → measure next < measure s)
    (progress : ∀ s, Inv s → End s ∨ Enabled step s) {s : State} (start : Inv s) :
    ∃ last, Reachable step s last ∧ Inv last ∧ End last := by
  induction size : measure s using Nat.strong_induction_on generalizing s with
  | h n ih =>
    rcases progress s start with ended | ⟨a, next, taken⟩
    · exact ⟨s, Reachable.refl s, start, ended⟩
    · obtain ⟨last, ⟨labels, run⟩, inv, ended⟩ :=
        ih (measure next) (size ▸ lower s a next start taken) (preserve s a next start taken) rfl
      exact ⟨last, ⟨a :: labels, .cons taken run⟩, inv, ended⟩

/-! ### Systems of several processes -/

/-- A position of a list splits it, and setting that position replaces the middle. -/
theorem exists_split {α : Type} {l : List α} {i : Nat} {a : α} (here : l[i]? = some a) :
    ∃ before after, l = before ++ a :: after ∧ before.length = i ∧
      ∀ b, l.set i b = before ++ b :: after := by
  induction l generalizing i with
  | nil => cases here
  | cons c l ih =>
    rcases i with _ | i
    · cases here
      exact ⟨[], l, rfl, rfl, fun _ => rfl⟩
    · obtain ⟨before, after, rfl, len, replaced⟩ := ih (show l[i]? = some a from here)
      refine ⟨c :: before, after, rfl, by simp [len], fun b => ?_⟩
      rw [List.set_cons_succ, replaced, List.cons_append]

theorem filterMap_cons_toList {α β : Type} (f : α → Option β) (a : α) (l : List α) :
    (a :: l).filterMap f = (f a).toList ++ l.filterMap f := by
  rw [List.filterMap_cons]
  cases f a <;> rfl

/-! ### Machines with output -/

section Outputs

variable {Input Output Other : Type}

/-- The answers of a machine along a sequence of inputs. -/
def outputs (step : State → Input → State × Output) : State → List Input → List Output
  | _, [] => []
  | s, input :: rest => (step s input).2 :: outputs step (step s input).1 rest

/-- **Lockstep simulation.** -/
theorem outputs_eq_of_simulation {step : State → Input → State × Output}
    {spec : Other → Input → Other × Output} (Rel : State → Other → Prop)
    (answer : ∀ s t input, Rel s t → (step s input).2 = (spec t input).2)
    (follow : ∀ s t input, Rel s t → Rel (step s input).1 (spec t input).1) :
    ∀ (inputs : List Input) (s : State) (t : Other), Rel s t →
      outputs step s inputs = outputs spec t inputs := by
  intro inputs
  induction inputs with
  | nil => exact fun _ _ _ => rfl
  | cons input rest ih =>
    intro s t related
    simp only [outputs]
    rw [answer s t input related, ih _ _ (follow s t input related)]

/-- **Noninterference.** `Same` relates the states that agree on what is under view; an input out of
view keeps the state related to what it was, one in view keeps related states related. -/
theorem outputs_filter {step : State → Input → State × Output}
    (Same : State → State → Prop) (inView : Input → Bool) (outView : Output → Bool)
    (views : ∀ s input, outView (step s input).2 = inView input)
    (hidden : ∀ s t input, inView input = false → Same s t → Same (step s input).1 t)
    (answer : ∀ s t input, inView input = true → Same s t → (step s input).2 = (step t input).2)
    (follow : ∀ s t input, inView input = true → Same s t →
      Same (step s input).1 (step t input).1) :
    ∀ (inputs : List Input) (s t : State), Same s t →
      (outputs step s inputs).filter outView = outputs step t (inputs.filter inView) := by
  intro inputs
  induction inputs with
  | nil => exact fun _ _ _ => rfl
  | cons input rest ih =>
    intro s t same
    cases view : inView input with
    | false =>
      simp only [outputs, List.filter_cons, views, view]
      exact ih _ _ (hidden s t input view same)
    | true =>
      simp only [outputs, List.filter_cons, views, view, if_true]
      rw [answer s t input view same, ih _ _ (follow s t input view same)]

end Outputs

end Transition
