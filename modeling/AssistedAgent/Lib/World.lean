/-
**Programs in a world that answers their calls.**

`RunsIn step p s events value last` says that `p` returns `value` after the calls of `events`, and that
these calls, with their answers, take the world from `s` to `last`. The answers are those the world can
give in the state in which it is called.

* `runsIn_pure`, `runsIn_bind`, `runsIn_request_bind` — the runs of composed programs, by cutting the
  events and the way of the world.
-/

import AssistedAgent.Lib.Interaction
import AssistedAgent.Lib.Transition

namespace Interaction

variable {Call World : Type} {Answer : Call → Type} {α β : Type}
  {step : World → Event Answer → World → Prop}

structure RunsIn (step : World → Event Answer → World → Prop) (p : Prog Answer α) (s : World)
    (events : List (Event Answer)) (value : α) (last : World) : Prop where
  runs : Runs p events value
  world : Transition.Run step s events last

theorem runsIn_pure {value result : α} {s last : World} {events : List (Event Answer)} :
    RunsIn step (pure value) s events result last ↔ events = [] ∧ result = value ∧ last = s := by
  constructor
  · rintro ⟨run, world⟩
    obtain ⟨rfl, rfl⟩ := runs_pure.mp run
    cases world
    exact ⟨rfl, rfl, rfl⟩
  · rintro ⟨rfl, rfl, rfl⟩
    exact ⟨runs_pure.mpr ⟨rfl, rfl⟩, .nil last⟩

/-- **Two programs one after the other.** -/
theorem runsIn_bind {p : Prog Answer α} {f : α → Prog Answer β} {s last : World}
    {events : List (Event Answer)} {result : β} :
    RunsIn step (p >>= f) s events result last ↔
      ∃ value middle first second, events = first ++ second ∧ RunsIn step p s first value middle ∧
        RunsIn step (f value) middle second result last := by
  constructor
  · rintro ⟨run, world⟩
    obtain ⟨value, first, second, rfl, left, right⟩ := runs_bind.mp run
    obtain ⟨middle, early, late⟩ := world.exists_of_append
    exact ⟨value, middle, first, second, rfl, ⟨left, early⟩, ⟨right, late⟩⟩
  · rintro ⟨value, middle, first, second, rfl, ⟨left, early⟩, ⟨right, late⟩⟩
    exact ⟨runs_bind.mpr ⟨value, first, second, rfl, left, right⟩, early.append late⟩

/-- **A call and what follows it.** -/
theorem runsIn_request_bind {call : Call} {f : Answer call → Prog Answer β} {s last : World}
    {events : List (Event Answer)} {result : β} :
    RunsIn step (request call >>= f) s events result last ↔
      ∃ answer middle rest, events = ⟨call, answer⟩ :: rest ∧ step s ⟨call, answer⟩ middle ∧
        RunsIn step (f answer) middle rest result last := by
  constructor
  · rintro ⟨run, world⟩
    obtain ⟨answer, rest, rfl, after⟩ := runs_request_bind.mp run
    cases world with
    | cons taken late => exact ⟨answer, _, rest, rfl, taken, after, late⟩
  · rintro ⟨answer, middle, rest, rfl, taken, after, late⟩
    exact ⟨runs_request_bind.mpr ⟨answer, rest, rfl, after⟩, .cons taken late⟩

end Interaction
