/-
**Programs that call out, and their runs.**

A program either returns or makes a call and goes on with the answer. `Runs p events value` says that
`p` returns `value` after exactly the calls of `events`, in order, with the answers they carry: over
all `events`, it ranges over every behaviour of what is called, however it depends on earlier calls.

* `runs_bind`, `runs_request_bind`, `runs_deferring` — the runs of composed programs, by cutting the
  events.
* **`Calls.of_runs`** — a program whose calls all satisfy a predicate makes no other in any run.
* `Threads.forEach` — a loop whose variable is a function of what was seen so far.
* `Beside` — the calls of a program with those of a goroutine between them, from the call that starts it
  to the call that joins it. **`Beside.split`**: as the program can be cut, so can the whole.
* `runs_exec` — every program has a run with given answers.
-/

import Mathlib.Data.List.Basic

namespace Interaction

variable {Call : Type} {Answer : Call → Type} {α β : Type}

inductive Prog (Answer : Call → Type) (α : Type)
  | ret (value : α)
  | ask (call : Call) (next : Answer call → Prog Answer α)

/-- A call and its answer. -/
structure Event (Answer : Call → Type) where
  call : Call
  answer : Answer call

theorem Event.answer_eq {call : Call} {a b : Answer call}
    (same : (⟨call, a⟩ : Event Answer) = ⟨call, b⟩) : a = b := by
  cases same
  rfl

namespace Prog

def bind : Prog Answer α → (α → Prog Answer β) → Prog Answer β
  | .ret value, f => f value
  | .ask call next, f => .ask call fun answer => (next answer).bind f

instance : Monad (Prog Answer) where
  pure := .ret
  bind := .bind

end Prog

/-- The program of one call. -/
def request (call : Call) : Prog Answer (Answer call) := .ask call .ret

/-- A body, and what is done when it has returned. -/
def deferring (body : Prog Answer α) (cleanup : Prog Answer Unit) : Prog Answer α := do
  let value ← body
  cleanup
  pure value

/-! ### Runs -/

inductive Runs : Prog Answer α → List (Event Answer) → α → Prop
  | ret (value : α) : Runs (.ret value) [] value
  | ask {call : Call} {next : Answer call → Prog Answer α} {answer : Answer call}
      {events : List (Event Answer)} {value : α} :
      Runs (next answer) events value → Runs (.ask call next) (⟨call, answer⟩ :: events) value

@[simp] theorem runs_pure {value result : α} {events : List (Event Answer)} :
    Runs (pure value : Prog Answer α) events result ↔ events = [] ∧ result = value := by
  constructor
  · intro run
    cases run
    exact ⟨rfl, rfl⟩
  · rintro ⟨rfl, rfl⟩
    exact .ret _

/-- **The runs of two programs one after the other.** -/
theorem runs_bind {p : Prog Answer α} {f : α → Prog Answer β} {events : List (Event Answer)}
    {result : β} :
    Runs (p >>= f) events result ↔
      ∃ value first second, events = first ++ second ∧ Runs p first value ∧
        Runs (f value) second result := by
  constructor
  · intro run
    induction p generalizing events with
    | ret value => exact ⟨value, [], events, rfl, .ret value, run⟩
    | ask call next ih =>
      cases run with
      | ask rest =>
        obtain ⟨value, first, second, rfl, left, right⟩ := ih _ rest
        exact ⟨value, _ :: first, second, rfl, .ask left, right⟩
  · rintro ⟨value, first, second, rfl, left, right⟩
    induction left with
    | ret value => exact right
    | ask _ ih => exact .ask (ih right)

@[simp] theorem runs_request {call : Call} {events : List (Event Answer)} {answer : Answer call} :
    Runs (request call) events answer ↔ events = [⟨call, answer⟩] := by
  constructor
  · intro run
    cases run with
    | ask rest =>
      cases rest
      rfl
  · rintro rfl
    exact .ask (.ret answer)

/-- **A call and what follows it.** -/
theorem runs_request_bind {call : Call} {f : Answer call → Prog Answer β}
    {events : List (Event Answer)} {result : β} :
    Runs (request call >>= f) events result ↔
      ∃ answer rest, events = ⟨call, answer⟩ :: rest ∧ Runs (f answer) rest result := by
  rw [runs_bind]
  constructor
  · rintro ⟨answer, first, second, rfl, asked, run⟩
    rw [runs_request] at asked
    subst asked
    exact ⟨answer, second, rfl, run⟩
  · rintro ⟨answer, rest, rfl, run⟩
    exact ⟨answer, [⟨call, answer⟩], rest, rfl, runs_request.mpr rfl, run⟩

/-- **What is deferred runs last, once.** -/
theorem runs_deferring {body : Prog Answer α} {cleanup : Prog Answer Unit}
    {events : List (Event Answer)} {result : α} :
    Runs (deferring body cleanup) events result ↔
      ∃ first second, events = first ++ second ∧ Runs body first result ∧
        Runs cleanup second () := by
  unfold deferring
  rw [runs_bind]
  constructor
  · rintro ⟨value, first, second, rfl, run, after⟩
    obtain ⟨⟨⟩, cleaned, last, rfl, clean, done⟩ := runs_bind.mp after
    obtain ⟨rfl, rfl⟩ := runs_pure.mp done
    exact ⟨first, cleaned, by rw [List.append_nil], run, clean⟩
  · rintro ⟨first, second, rfl, run, clean⟩
    exact ⟨result, first, second, rfl, run,
      runs_bind.mpr ⟨(), second, [], (List.append_nil _).symm, clean, runs_pure.mpr ⟨rfl, rfl⟩⟩⟩

/-! ### Which calls a program makes -/

/-- All calls of a program satisfy a predicate, whatever the answers. -/
def Calls (P : Call → Prop) : Prog Answer α → Prop
  | .ret _ => True
  | .ask call next => P call ∧ ∀ answer, Calls P (next answer)

variable {P : Call → Prop}

@[simp] theorem calls_pure (value : α) : Calls P (pure value : Prog Answer α) := trivial

@[simp] theorem calls_request (call : Call) :
    Calls P (request call : Prog Answer (Answer call)) ↔ P call :=
  ⟨fun calls => calls.1, fun holds => ⟨holds, fun _ => trivial⟩⟩

theorem Calls.bind {p : Prog Answer α} {f : α → Prog Answer β} (calls : Calls P p)
    (after : ∀ value, Calls P (f value)) : Calls P (p >>= f) := by
  induction p with
  | ret value => exact after value
  | ask call next ih => exact ⟨calls.1, fun answer => ih answer (calls.2 answer)⟩

theorem Calls.mono {Q : Call → Prop} {p : Prog Answer α} (calls : Calls P p)
    (weaker : ∀ call, P call → Q call) :
    Calls Q p := by
  induction p with
  | ret value => exact trivial
  | ask call next ih => exact ⟨weaker call calls.1, fun answer => ih answer (calls.2 answer)⟩

/-- **No other calls occur in a run.** -/
theorem Calls.of_runs {p : Prog Answer α} (calls : Calls P p) {events : List (Event Answer)}
    {value : α} (run : Runs p events value) : ∀ e ∈ events, P e.call := by
  induction run with
  | ret value => exact fun e member => by cases member
  | ask _ ih =>
    intro e member
    rcases List.mem_cons.mp member with rfl | member
    · exact calls.1
    · exact ih (calls.2 _) e member

/-! ### Loops, and variables threaded through a program -/

section Threads

variable {ε σ : Type} {view : Event Answer → List ε} {state : List ε → σ}

/-- A loop over a list that updates a variable. -/
def forEach (p : β → σ → Prog Answer σ) : List β → σ → Prog Answer σ
  | [], s => pure s
  | x :: xs, s => p x s >>= forEach p xs

theorem Calls.forEach {p : β → σ → Prog Answer σ} (calls : ∀ x s, Calls P (p x s)) (xs : List β) (s : σ) :
    Calls P (forEach p xs s) := by
  induction xs generalizing s with
  | nil => exact calls_pure s
  | cons x xs ih => exact (calls x s).bind ih

/-- What the variable holds is a function of what was seen so far. -/
def Threads (view : Event Answer → List ε) (state : List ε → σ) (p : σ → Prog Answer σ) : Prop :=
  ∀ before events after, Runs (p (state before)) events after →
    after = state (before ++ events.flatMap view)

theorem Threads.pure : Threads view state (Pure.pure : σ → Prog Answer σ) := by
  intro before events after run
  obtain ⟨rfl, rfl⟩ := runs_pure.mp run
  rw [List.flatMap_nil, List.append_nil]

theorem Threads.bind {p q : σ → Prog Answer σ} (first : Threads view state p)
    (second : Threads view state q) : Threads view state fun s => p s >>= q := by
  intro before events after run
  obtain ⟨middle, left, right, rfl, early, late⟩ := runs_bind.mp run
  obtain rfl := first before left middle early
  rw [second _ right after late, List.flatMap_append, List.append_assoc]

/-- **A loop threads what its body threads.** -/
theorem Threads.forEach {p : β → σ → Prog Answer σ} (body : ∀ x, Threads view state (p x))
    (xs : List β) : Threads view state (forEach p xs) := by
  induction xs with
  | nil => exact Threads.pure
  | cons x xs ih => exact (body x).bind ih

end Threads

/-! ### A goroutine beside a program -/

section Beside

variable (Spawns : Call → List (Event Answer) → Prop) (Joins : Call → Prop)

/-- The events of a program, and all events: a call that `Spawns` starts a goroutine that makes the given
calls, and one that `Joins` is answered when the goroutine has made them all. First and last stand the calls
that a goroutine has still to make before and after them, if there is one. -/
inductive Beside : Option (List (Event Answer)) → List (Event Answer) → List (Event Answer) →
    Option (List (Event Answer)) → Prop
  | done (others : Option (List (Event Answer))) : Beside others [] [] others
  | own {e : Event Answer} {before after : Option (List (Event Answer))} {main all : List (Event Answer)}
      (plain : ∀ others, ¬ Spawns e.call others) (free : ¬ Joins e.call) :
      Beside before main all after → Beside before (e :: main) (e :: all) after
  | spawn {e : Event Answer} {others main all : List (Event Answer)} {after : Option (List (Event Answer))}
      (spawns : Spawns e.call others) :
      Beside (some others) main all after → Beside none (e :: main) (e :: all) after
  | other {e : Event Answer} {others main all : List (Event Answer)} {after : Option (List (Event Answer))} :
      Beside (some others) main all after → Beside (some (e :: others)) main (e :: all) after
  | join {e : Event Answer} {main all : List (Event Answer)} {after : Option (List (Event Answer))}
      (joins : Joins e.call) : Beside none main all after → Beside (some []) (e :: main) (e :: all) after

/-- Events that neither start a goroutine nor join one. -/
def Quiet (events : List (Event Answer)) : Prop :=
  ∀ e ∈ events, (∀ others, ¬ Spawns e.call others) ∧ ¬ Joins e.call

variable {Spawns Joins} {before after : Option (List (Event Answer))} {main all : List (Event Answer)}

/-- **All events, cut where the program is cut.** -/
theorem Beside.split {first second : List (Event Answer)}
    (beside : Beside Spawns Joins before (first ++ second) all after) :
    ∃ middle left right, all = left ++ right ∧ Beside Spawns Joins before first left middle ∧
      Beside Spawns Joins middle second right after := by
  generalize whole : first ++ second = main at beside
  induction beside generalizing first with
  | done others =>
    obtain ⟨rfl, rfl⟩ := List.append_eq_nil_iff.mp whole
    exact ⟨others, [], [], rfl, .done others, .done others⟩
  | own plain free rest ih =>
    rcases List.append_eq_cons_iff.mp whole with ⟨rfl, rfl⟩ | ⟨first, rfl, rfl⟩
    · exact ⟨_, [], _, rfl, .done _, .own plain free rest⟩
    · obtain ⟨middle, left, right, rfl, early, late⟩ := ih rfl
      exact ⟨middle, _ :: left, right, rfl, .own plain free early, late⟩
  | spawn spawns rest ih =>
    rcases List.append_eq_cons_iff.mp whole with ⟨rfl, rfl⟩ | ⟨first, rfl, rfl⟩
    · exact ⟨_, [], _, rfl, .done _, .spawn spawns rest⟩
    · obtain ⟨middle, left, right, rfl, early, late⟩ := ih rfl
      exact ⟨middle, _ :: left, right, rfl, .spawn spawns early, late⟩
  | other rest ih =>
    obtain ⟨middle, left, right, rfl, early, late⟩ := ih whole
    exact ⟨middle, _ :: left, right, rfl, .other early, late⟩
  | join joins rest ih =>
    rcases List.append_eq_cons_iff.mp whole with ⟨rfl, rfl⟩ | ⟨first, rfl, rfl⟩
    · exact ⟨_, [], _, rfl, .done _, .join joins rest⟩
    · obtain ⟨middle, left, right, rfl, early, late⟩ := ih rfl
      exact ⟨middle, _ :: left, right, rfl, .join joins early, late⟩

theorem Beside.append {middle : Option (List (Event Answer))} {first second left right : List (Event Answer)}
    (early : Beside Spawns Joins before first left middle)
    (late : Beside Spawns Joins middle second right after) :
    Beside Spawns Joins before (first ++ second) (left ++ right) after := by
  induction early with
  | done others => exact late
  | own plain free _ ih => exact .own plain free (ih late)
  | spawn spawns _ ih => exact .spawn spawns (ih late)
  | other _ ih => exact .other (ih late)
  | join joins _ ih => exact .join joins (ih late)

/-- Events that are quiet can happen at any time. -/
theorem Beside.quiet {events : List (Event Answer)} (quiet : Quiet Spawns Joins events)
    (others : Option (List (Event Answer))) : Beside Spawns Joins others events events others := by
  induction events with
  | nil => exact .done others
  | cons e events ih =>
    obtain ⟨plain, free⟩ := quiet e List.mem_cons_self
    exact .own plain free (ih fun e member => quiet e (List.mem_cons_of_mem _ member))

/-- Without a goroutine at the end there is none beside events that are quiet. -/
theorem Beside.of_quiet (beside : Beside Spawns Joins before main all after) (last : after = none)
    (quiet : Quiet Spawns Joins main) : before = none ∧ all = main := by
  induction beside with
  | done others => exact ⟨last, rfl⟩
  | own plain free rest ih =>
    obtain ⟨rfl, rfl⟩ := ih last fun e member => quiet e (List.mem_cons_of_mem _ member)
    exact ⟨rfl, rfl⟩
  | spawn spawns rest ih => exact absurd spawns ((quiet _ List.mem_cons_self).1 _)
  | other rest ih => cases (ih last quiet).1
  | join joins rest ih => exact absurd joins (quiet _ List.mem_cons_self).2

/-- **All events are those of the program and of the goroutines that it starts.** -/
theorem Beside.mem_cases (beside : Beside Spawns Joins before main all after) {e : Event Answer}
    (member : e ∈ all) :
    e ∈ main ∨ (∃ others, before = some others ∧ e ∈ others) ∨
      ∃ start ∈ main, ∃ others, Spawns start.call others ∧ e ∈ others := by
  induction beside with
  | done others => cases member
  | own plain free rest ih =>
    rcases List.mem_cons.mp member with rfl | member
    · exact .inl List.mem_cons_self
    rcases ih member with main | running | ⟨start, here, started⟩
    · exact .inl (List.mem_cons_of_mem _ main)
    · exact .inr (.inl running)
    · exact .inr (.inr ⟨start, List.mem_cons_of_mem _ here, started⟩)
  | spawn spawns rest ih =>
    rcases List.mem_cons.mp member with rfl | member
    · exact .inl List.mem_cons_self
    rcases ih member with main | ⟨others, same, here⟩ | ⟨start, here, started⟩
    · exact .inl (List.mem_cons_of_mem _ main)
    · cases same
      exact .inr (.inr ⟨_, List.mem_cons_self, _, spawns, here⟩)
    · exact .inr (.inr ⟨start, List.mem_cons_of_mem _ here, started⟩)
  | other rest ih =>
    rcases List.mem_cons.mp member with rfl | member
    · exact .inr (.inl ⟨_, rfl, List.mem_cons_self⟩)
    rcases ih member with main | ⟨others, same, here⟩ | started
    · exact .inl main
    · cases same
      exact .inr (.inl ⟨_, rfl, List.mem_cons_of_mem _ here⟩)
    · exact .inr (.inr started)
  | join joins rest ih =>
    rcases List.mem_cons.mp member with rfl | member
    · exact .inl List.mem_cons_self
    rcases ih member with main | ⟨others, same, here⟩ | ⟨start, here, started⟩
    · exact .inl (List.mem_cons_of_mem _ main)
    · cases same
    · exact .inr (.inr ⟨start, List.mem_cons_of_mem _ here, started⟩)

/-- What goroutines do not show is seen of the program alone. -/
theorem Beside.flatMap_eq {ε : Type} {view : Event Answer → List ε}
    (beside : Beside Spawns Joins before main all after)
    (running : ∀ others, before = some others → ∀ e ∈ others, view e = [])
    (hidden : ∀ start ∈ main, ∀ others, Spawns start.call others → ∀ e ∈ others, view e = []) :
    all.flatMap view = main.flatMap view := by
  induction beside with
  | done others => rfl
  | own plain free rest ih =>
    rw [List.flatMap_cons, List.flatMap_cons,
      ih running fun start member => hidden start (List.mem_cons_of_mem _ member)]
  | spawn spawns rest ih =>
    rw [List.flatMap_cons, List.flatMap_cons, ih ?_ fun start member =>
      hidden start (List.mem_cons_of_mem _ member)]
    intro others same
    cases same
    exact hidden _ List.mem_cons_self _ spawns
  | other rest ih =>
    rw [List.flatMap_cons, running _ rfl _ List.mem_cons_self, List.nil_append, ih ?_ hidden]
    intro others same e member
    cases same
    exact running _ rfl e (List.mem_cons_of_mem _ member)
  | join joins rest ih =>
    rw [List.flatMap_cons, List.flatMap_cons, ih ?_ fun start member =>
      hidden start (List.mem_cons_of_mem _ member)]
    intro others same
    cases same

end Beside

/-! ### Given answers -/

/-- The run in which every call has a given answer. -/
def exec (answers : (call : Call) → Answer call) : Prog Answer α → List (Event Answer) × α
  | .ret value => ([], value)
  | .ask call next =>
    let rest := exec answers (next (answers call))
    (⟨call, answers call⟩ :: rest.1, rest.2)

theorem runs_exec (answers : (call : Call) → Answer call) (p : Prog Answer α) :
    Runs p (exec answers p).1 (exec answers p).2 := by
  induction p with
  | ret value => exact .ret value
  | ask call next ih => exact .ask (ih _)

end Interaction
