/-
**The loop of `ProcessSteps`: polls, back-off, pauses, and how it ends.**

`ProcessSteps` polls the service under `backoff.RetryNotify`. A poll that succeeds says how long to pause
before the next and whether to end; polls that fail are repeated with growing intervals, until the loop
gives up. A cancelled context is looked at in the pauses only. The loop runs beside the goroutines of
the steps, which are those of `Commands.StepProcessor`.

* `StepRunner`, `RunnerAction`, `StepRunner.step` — the state machine, with a clock.
* **`stepRunner_refines`** — without its clock it is the step processor: what holds of that in every
  interleaving holds of this one.
* **`polls_paced`** — when polls may follow each other, how many of them may fail in a row, and after
  what the loop ends.
-/

import AssistedAgent.Commands.StepProcessor
import AssistedAgent.Lib.Backoff
import Mathlib.Algebra.Ring.Int.Defs

namespace AssistedAgent.Commands

open Transition

/-! ### The state machine -/

/-- `NewExponentialBackOff`: from half a second to a minute, for fifteen minutes. -/
def backOffPolicy : Backoff.Policy where
  initialInterval := 500 * 10 ^ 6
  maxInterval := 60 * 10 ^ 9
  maxElapsedTime := 15 * 60 * 10 ^ 9
  bounded := by decide

/-- `models.Steps`. -/
structure NextSteps extends Steps where
  nextInstructionSeconds : Int
deriving DecidableEq, Repr

/-- A `time.Duration` of so many seconds: a product in `int64`. -/
def seconds (n : Int) : Int := (n * 10 ^ 9).bmod (2 ^ 64)

/-- The pause that the service asks for. -/
def NextSteps.delay (result : NextSteps) : Int := seconds result.nextInstructionSeconds

def NextSteps.exit (result : NextSteps) : Bool := result.postStepAction == some "exit"

inductive Ending
  | exit
  | cancelled
  | gaveUp
  /-- `log.Fatalf` of `newSession`. -/
  | fatal
deriving DecidableEq, Repr

/-- Where the goroutine of `ProcessSteps` is. -/
inductive PollLoop
  | retrying (loop : Backoff.Loop)
  | pausing (wake : Nat) (exit : Bool)
  /-- `select {}`. -/
  | frozen
  | returned (ending : Ending)
deriving DecidableEq, Repr

inductive PollResult
  | answered (delay : Int) (exit : Bool)
  | failed
deriving DecidableEq, Repr

/-- A poll that has ended. -/
structure Poll where
  start : Nat
  stop : Nat
  result : PollResult
deriving DecidableEq, Repr

structure StepRunner where
  now : Nat
  /-- `cancel` was called. -/
  cancelled : Bool
  loop : PollLoop
  /-- The polls so far, newest first. -/
  polls : List Poll
  stepCache : Cache
  accepted : List StepReply
  goroutines : List Goroutine

def newStepRunner (now : Nat) : StepRunner where
  now := now
  cancelled := false
  loop := .retrying (.start backOffPolicy now)
  polls := []
  stepCache := newCache
  accepted := []
  goroutines := []

inductive RunnerAction
  | elapse (duration : Nat)
  | cancel
  | answer (result : NextSteps)
  /-- `next` is what the back-off draws. -/
  | fail (err : GetNextStepsError) (next : Nat)
  | fatal
  /-- The timer of the back-off fires. -/
  | retry
  /-- `<-time.After(delay)`. -/
  | resume
  /-- `<-ctx.Done()`. -/
  | done
  | goroutine (a : Action)

/-- What the polling goroutine has to do with the others: none, one, or all of the above. -/
def PollLoop.main : PollLoop → Main
  | .retrying _ => .polling
  | .pausing _ exit => if exit then .stopped else .polling
  | .frozen => .frozen
  | .returned _ => .stopped

/-- The step processor, without the clock. -/
def StepRunner.agent (s : StepRunner) : Agent := ⟨s.loop.main, s.stepCache, s.accepted, s.goroutines⟩

/-- The cache and the goroutines become those of a step processor. -/
def StepRunner.withAgent (s : StepRunner) (agent : Agent) : StepRunner :=
  { s with stepCache := agent.stepCache, accepted := agent.accepted, goroutines := agent.goroutines }

/-- A poll that has ended, and what `processSingleSession` did. -/
def StepRunner.polled (s : StepRunner) (since : Nat) (result : Except GetNextStepsError NextSteps)
    (loop : PollLoop) : StepRunner :=
  let poll : Poll := ⟨since, s.now, match result with
    | .error _ => .failed
    | .ok steps => .answered steps.delay steps.exit⟩
  { s.withAgent (s.agent.processSingleSession (result.map NextSteps.toSteps)) with
    loop, polls := poll :: s.polls }

/-- The loop after a poll that has failed. -/
def afterFailure (loop : Backoff.Loop) (now : Nat) (err : GetNextStepsError) (next : Nat) : PollLoop :=
  if err = .notFound then .frozen
  else
    let loop := loop.fail backOffPolicy now next
    if loop.phase = .gaveUp then .returned .gaveUp else .retrying loop

/-- An action of a goroutine of `handleSteps`, or the expiry of a cache entry. -/
def Action.isOfGoroutine : Action → Bool
  | .poll _ => false
  | .stop => false
  | _ => true

def StepRunner.step (s : StepRunner) : RunnerAction → Option StepRunner
  | .elapse duration => some { s with now := s.now + duration }
  | .cancel => some { s with cancelled := true }
  | .answer result =>
    match s.loop with
    | .retrying ⟨_, .running since⟩ =>
      some (s.polled since (.ok result) (.pausing (s.now + result.delay.toNat) result.exit))
    | _ => none
  | .fail err next =>
    match s.loop with
    | .retrying ⟨backOff, .running since⟩ =>
      if Backoff.Drawn backOff.currentInterval next then
        some (s.polled since (.error err) (afterFailure ⟨backOff, .running since⟩ s.now err next))
      else none
    | _ => none
  | .fatal =>
    match s.loop with
    | .retrying ⟨_, .running _⟩ => some { s with loop := .returned .fatal }
    | _ => none
  | .retry =>
    match s.loop with
    | .retrying ⟨backOff, .waiting wake⟩ =>
      if wake ≤ s.now then
        some { s with loop := .retrying (Backoff.Loop.fire ⟨backOff, .waiting wake⟩ s.now) }
      else none
    | _ => none
  | .resume =>
    match s.loop with
    | .pausing wake exit =>
      if wake ≤ s.now then
        some { s with
          loop := if exit then .returned .exit else .retrying (.start backOffPolicy s.now) }
      else none
    | _ => none
  | .done =>
    match s.loop with
    | .pausing _ _ => if s.cancelled then some { s with loop := .returned .cancelled } else none
    | _ => none
  | .goroutine a => if a.isOfGoroutine then (s.agent.step a).map s.withAgent else none

abbrev StepRunner.Steps : StepRunner → RunnerAction → StepRunner → Prop := ofPartial StepRunner.step

/-- **What a step can do.** -/
inductive RunnerMoves (s : StepRunner) : RunnerAction → StepRunner → Prop
  | elapsed (duration : Nat) : RunnerMoves s (.elapse duration) { s with now := s.now + duration }
  | cancelled : RunnerMoves s .cancel { s with cancelled := true }
  | answered {backOff : Backoff.ExponentialBackOff} {since : Nat} (result : NextSteps)
      (at_ : s.loop = .retrying ⟨backOff, .running since⟩) :
      RunnerMoves s (.answer result)
        (s.polled since (.ok result) (.pausing (s.now + result.delay.toNat) result.exit))
  | failed {backOff : Backoff.ExponentialBackOff} {since : Nat} (err : GetNextStepsError) {next : Nat}
      (at_ : s.loop = .retrying ⟨backOff, .running since⟩)
      (drawn : Backoff.Drawn backOff.currentInterval next) :
      RunnerMoves s (.fail err next)
        (s.polled since (.error err) (afterFailure ⟨backOff, .running since⟩ s.now err next))
  | fatal {backOff : Backoff.ExponentialBackOff} {since : Nat}
      (at_ : s.loop = .retrying ⟨backOff, .running since⟩) :
      RunnerMoves s .fatal { s with loop := .returned .fatal }
  | retried {backOff : Backoff.ExponentialBackOff} {wake : Nat}
      (at_ : s.loop = .retrying ⟨backOff, .waiting wake⟩) (due : wake ≤ s.now) :
      RunnerMoves s .retry
        { s with loop := .retrying (Backoff.Loop.fire ⟨backOff, .waiting wake⟩ s.now) }
  | exited {wake : Nat} (at_ : s.loop = .pausing wake true) (due : wake ≤ s.now) :
      RunnerMoves s .resume { s with loop := .returned .exit }
  | resumed {wake : Nat} (at_ : s.loop = .pausing wake false) (due : wake ≤ s.now) :
      RunnerMoves s .resume { s with loop := .retrying (.start backOffPolicy s.now) }
  | done {wake : Nat} {exit : Bool} (at_ : s.loop = .pausing wake exit) (cancelled : s.cancelled = true) :
      RunnerMoves s .done { s with loop := .returned .cancelled }
  | goroutine {a : Action} {agent : Agent} (others : a.isOfGoroutine = true)
      (taken : s.agent.Steps a agent) : RunnerMoves s (.goroutine a) (s.withAgent agent)

theorem StepRunner.step_moves {s next : StepRunner} {a : RunnerAction} (taken : s.Steps a next) :
    RunnerMoves s a next := by
  cases a with
  | elapse duration =>
    cases taken
    exact .elapsed duration
  | cancel =>
    cases taken
    exact .cancelled
  | answer result =>
    simp only [StepRunner.Steps, ofPartial, StepRunner.step] at taken
    split at taken
    · rename_i at_
      cases taken
      exact .answered result at_
    · cases taken
  | fail err drawnNext =>
    simp only [StepRunner.Steps, ofPartial, StepRunner.step] at taken
    split at taken
    · rename_i at_
      split at taken
      · rename_i drawn
        cases taken
        exact .failed err at_ drawn
      · cases taken
    · cases taken
  | fatal =>
    simp only [StepRunner.Steps, ofPartial, StepRunner.step] at taken
    split at taken
    · rename_i at_
      cases taken
      exact .fatal at_
    · cases taken
  | retry =>
    simp only [StepRunner.Steps, ofPartial, StepRunner.step] at taken
    split at taken
    · rename_i at_
      split at taken
      · rename_i due
        cases taken
        exact .retried at_ due
      · cases taken
    · cases taken
  | resume =>
    simp only [StepRunner.Steps, ofPartial, StepRunner.step] at taken
    split at taken
    · rename_i wake exit at_
      split at taken
      · rename_i due
        cases taken
        cases exit with
        | true => exact .exited at_ due
        | false => exact .resumed at_ due
      · cases taken
    · cases taken
  | done =>
    simp only [StepRunner.Steps, ofPartial, StepRunner.step] at taken
    split at taken
    · rename_i at_
      split at taken
      · rename_i cancelled
        cases taken
        exact .done at_ cancelled
      · cases taken
    · cases taken
  | goroutine a =>
    simp only [StepRunner.Steps, ofPartial, StepRunner.step] at taken
    split at taken
    · rename_i others
      obtain ⟨agent, stepped, rfl⟩ := Option.map_eq_some_iff.mp taken
      exact .goroutine others stepped
    · cases taken

/-! ### The step processor in it -/

/-- Only polls and the end of the loop change where its goroutine is. -/
theorem main_of_goroutine {s next : Agent} {a : Action} (others : a.isOfGoroutine = true)
    (taken : s.Steps a next) : next.main = s.main := by
  cases Agent.step_moves taken with
  | polled result => cases others
  | stopped => cases others
  | _ => rfl

/-- What a step of the step processor shows: its polls and the actions of its goroutines. -/
def Action.seen : Action → List Action
  | .stop => []
  | a => [a]

/-- What a step of the loop shows. -/
def RunnerAction.visible : RunnerAction → List Action
  | .answer result => [.poll (.ok result.toSteps)]
  | .fail err _ => [.poll (.error err)]
  | .goroutine a => [a]
  | _ => []

/-- The step processor goes from here to there, and shows these actions. -/
def Follows (s next : Agent) (shown : List Action) : Prop :=
  ∃ labels, Run Agent.Steps s labels next ∧ labels.flatMap Action.seen = shown

theorem Follows.refl (s : Agent) : Follows s s [] := ⟨[], .nil s, rfl⟩

theorem Follows.stop {s middle : Agent} {shown : List Action} (before : Follows s middle shown)
    (polling : middle.main = .polling) : Follows s { middle with main := .stopped } shown := by
  obtain ⟨labels, run, rfl⟩ := before
  refine ⟨labels ++ [.stop], run.append (Run.single ?_), ?_⟩
  · simp only [Agent.Steps, ofPartial, Agent.step, if_pos polling]
  · rw [List.flatMap_append]
    exact List.append_nil _

theorem agent_polled {s : StepRunner} {backOff : Backoff.ExponentialBackOff} {since : Nat}
    (at_ : s.loop = .retrying ⟨backOff, .running since⟩)
    (result : Except GetNextStepsError NextSteps) {loop : PollLoop}
    (same : (s.agent.processSingleSession (result.map NextSteps.toSteps)).main = loop.main) :
    Follows s.agent (s.polled since result loop).agent [.poll (result.map NextSteps.toSteps)] := by
  have polling : s.agent.main = .polling := congrArg PollLoop.main at_
  have reached : (s.polled since result loop).agent =
      s.agent.processSingleSession (result.map NextSteps.toSteps) := by
    unfold StepRunner.polled StepRunner.withAgent StepRunner.agent
    rw [← same]
    rfl
  refine ⟨[.poll (result.map NextSteps.toSteps)], Run.single ?_, rfl⟩
  simp only [Agent.Steps, ofPartial, Agent.step, if_pos polling, reached]

/-- The loop ends: a step of the processor, unless it had ended before. -/
theorem agent_stop {s : StepRunner} (live : s.loop.main = .polling ∨ s.loop.main = .stopped)
    (ending : Ending) : Follows s.agent { s with loop := .returned ending : StepRunner }.agent [] := by
  rcases live with polling | stopped
  · exact (Follows.refl s.agent).stop polling
  · have same : { s with loop := .returned ending : StepRunner }.agent = s.agent := by
      rw [StepRunner.agent, StepRunner.agent, stopped]
      rfl
    rw [same]
    exact .refl _

/-- A step that the processor does not see. -/
theorem agent_same {s : StepRunner} {loop : PollLoop} (same : loop.main = s.loop.main) :
    Follows s.agent { s with loop : StepRunner }.agent [] := by
  have unseen : { s with loop : StepRunner }.agent = s.agent := by
    rw [StepRunner.agent, StepRunner.agent, same]
  rw [unseen]
  exact .refl _

/-- A failed poll, and with it maybe the end of the loop. -/
theorem agent_failed {s : StepRunner} {backOff : Backoff.ExponentialBackOff} {since : Nat}
    (at_ : s.loop = .retrying ⟨backOff, .running since⟩) (err : GetNextStepsError) (next : Nat) :
    Follows s.agent
      (s.polled since (.error err) (afterFailure ⟨backOff, .running since⟩ s.now err next)).agent
      [.poll (.error err)] := by
  have polled (loop : PollLoop) (same : (if err = .notFound then Main.frozen else .polling) = loop.main) :
      Follows s.agent (s.polled since (.error err) loop).agent [.poll (.error err)] :=
    agent_polled at_ (.error err) same
  unfold afterFailure
  by_cases frozen : err = .notFound
  · rw [if_pos frozen]
    exact polled .frozen (if_pos frozen)
  · rw [if_neg frozen]
    dsimp only
    let loop := Backoff.Loop.fail backOffPolicy ⟨backOff, .running since⟩ s.now next
    have waits := polled (.retrying loop) (if_neg frozen)
    split
    · exact waits.stop rfl
    · exact waits

/-- **A step of the loop is a run of the step processor**, which shows the same. -/
theorem agent_step {s next : StepRunner} {a : RunnerAction} (taken : s.Steps a next) :
    Follows s.agent next.agent a.visible := by
  cases StepRunner.step_moves taken with
  | elapsed duration => exact .refl _
  | cancelled => exact .refl _
  | answered result at_ =>
    refine agent_polled at_ (.ok result) ?_
    simp only [Except.map, Agent.processSingleSession, PollLoop.main, NextSteps.exit, beq_iff_eq]
  | failed err at_ drawn => exact agent_failed at_ err _
  | fatal at_ => exact agent_stop (.inl (congrArg PollLoop.main at_)) _
  | retried at_ due => exact agent_same (congrArg PollLoop.main at_).symm
  | exited at_ due => exact agent_stop (.inr (congrArg PollLoop.main at_)) _
  | resumed at_ due => exact agent_same (congrArg PollLoop.main at_).symm
  | @done wake exit at_ cancelled =>
    refine agent_stop ?_ _
    rw [at_]
    cases exit with
    | true => exact .inr rfl
    | false => exact .inl rfl
  | @goroutine a agent others moved =>
    have same := main_of_goroutine others moved
    have reached : (s.withAgent agent).agent = agent := by
      obtain ⟨main, stepCache, accepted, goroutines⟩ := agent
      dsimp only at same
      subst same
      rfl
    rw [reached]
    refine ⟨[a], Run.single moved, ?_⟩
    cases a with
    | stop => cases others
    | _ => rfl

/-- Without its clock the loop reaches only what the step processor reaches. -/
theorem agent_reachable {now : Nat} {s : StepRunner}
    (reach : Reachable StepRunner.Steps (newStepRunner now) s) :
    Reachable Agent.Steps newAgent s.agent := by
  obtain ⟨labels, run⟩ := reach
  obtain ⟨others, follows, -⟩ := run.simulation StepRunner.agent RunnerAction.visible Action.seen
    fun _ _ _ taken => agent_step taken
  exact ⟨others, follows⟩

/-- **Without its clock, `ProcessSteps` is the step processor.** Every run of its timers, polls,
cancellations and goroutines, in any order, is a run of the step processor with the same polls, answered
alike, and the same actions of goroutines, in the same order. -/
theorem stepRunner_refines {now : Nat} {labels : List RunnerAction} {s : StepRunner}
    (run : Run StepRunner.Steps (newStepRunner now) labels s) :
    ∃ others, Run Agent.Steps newAgent others s.agent ∧
      others.flatMap Action.seen = labels.flatMap RunnerAction.visible :=
  run.simulation StepRunner.agent RunnerAction.visible Action.seen fun _ _ _ taken => agent_step taken

/-- A poll that is answered, and a cancellation while its instruction runs. -/
theorem stepRunner_refines_cancelled :
    ∃ (s : StepRunner) (others : List Action), s.loop = .returned .cancelled ∧
      Run Agent.Steps newAgent others s.agent ∧
      others.flatMap Action.seen =
        [.poll (.ok ⟨[⟨[], "", "inventory"⟩], none⟩), .succeed 0 "cpus: 8"] := by
  have run : Run StepRunner.Steps (newStepRunner 0)
      [.answer ⟨⟨[⟨[], "", "inventory"⟩], none⟩, 60⟩, .cancel, .goroutine (.succeed 0 "cpus: 8"),
        .done] _ :=
    .cons rfl (.cons rfl (.cons rfl (Run.single rfl)))
  obtain ⟨others, follows, same⟩ := stepRunner_refines run
  exact ⟨_, others, rfl, follows, same⟩

/-! ### When polls follow each other -/

def Poll.isFailed (poll : Poll) : Bool := poll.result == .failed

/-- The polls since the last that was answered. -/
def failing (polls : List Poll) : List Poll := polls.takeWhile Poll.isFailed

def failures (polls : List Poll) : Nat := (failing polls).length

/-- A poll may start after these: the last has ended, and what it makes the loop wait for is over. -/
def MayPoll : List Poll → Nat → Prop
  | [], _ => True
  | ⟨_, stop, .answered delay exit⟩ :: _, start => exit = false ∧ stop + delay.toNat ≤ start
  | ⟨_, stop, .failed⟩ :: rest, start => stop + backOffPolicy.interval (failures rest) / 2 ≤ start

/-- Each poll follows those before it. -/
def Paced : List Poll → Prop
  | [] => True
  | poll :: rest => Paced rest ∧ MayPoll rest poll.start ∧ poll.start ≤ poll.stop

/-- What must have happened for the loop to return: the service told it to, it was cancelled and the
last poll was answered, or polls had failed for thirteen and a half minutes. -/
def Ending.Justified (s : StepRunner) : Ending → Prop
  | .exit => ∃ poll delay, s.polls.head? = some poll ∧ poll.result = .answered delay true
  | .cancelled => s.cancelled = true ∧
      ∃ poll delay exit, s.polls.head? = some poll ∧ poll.result = .answered delay exit
  | .gaveUp => ∃ first last, (failing s.polls).getLast? = some first ∧ s.polls.head? = some last ∧
      first.start + 810 * 10 ^ 9 ≤ last.stop
  | .fatal => True

/-! ### What is known of the loop -/

/-- When the retries of which these polls are the last began; at `since`, if they begin now. -/
def roundStart (polls : List Poll) (since : Nat) : Nat :=
  ((failing polls).getLast?.map Poll.start).getD since

structure InRound (now : Nat) (polls : List Poll) (l : Backoff.Loop) : Prop where
  inv : l.Inv backOffPolicy now (failures polls)
  running : ∀ since, l.phase = .running since →
    roundStart polls since = l.backOff.startTime ∧ MayPoll polls since
  waiting : ∀ wake, l.phase = .waiting wake → MayPoll polls wake
  begun : (∀ since, l.phase ≠ .running since) → ∃ first, (failing polls).getLast? = some first ∧
    first.start = l.backOff.startTime

def StepRunner.Fits (s : StepRunner) : Prop :=
  match s.loop with
  | .retrying l => InRound s.now s.polls l
  | .pausing wake exit => ∃ poll rest delay, s.polls = poll :: rest ∧
      poll.result = .answered delay exit ∧ poll.stop + delay.toNat = wake
  | .frozen => True
  | .returned ending => ending.Justified s

/-- More consecutive failures than these do not fit into the limit of the back-off. -/
def mostFailures : Nat := 40

structure StepRunner.Inv (s : StepRunner) : Prop where
  paced : Paced s.polls
  few : failures s.polls ≤ mostFailures
  fits : s.Fits

theorem failing_cons {poll : Poll} (failed : poll.result = .failed) (polls : List Poll) :
    failing (poll :: polls) = poll :: failing polls :=
  List.takeWhile_cons_of_pos (by simp [Poll.isFailed, failed])

theorem failures_cons {poll : Poll} (failed : poll.result = .failed) (polls : List Poll) :
    failures (poll :: polls) = failures polls + 1 := by
  rw [failures, failing_cons failed]
  rfl

theorem failures_cons_answered {poll : Poll} {delay : Int} {exit : Bool}
    (answered : poll.result = .answered delay exit) (polls : List Poll) :
    failures (poll :: polls) = 0 := by
  rw [failures, failing, List.takeWhile_cons_of_neg (by simp [Poll.isFailed, answered])]
  rfl

/-- A wait may be longer than asked for. -/
theorem MayPoll.mono {polls : List Poll} {start later : Nat} (follows : MayPoll polls start)
    (le : start ≤ later) : MayPoll polls later := by
  match polls with
  | [] => trivial
  | ⟨_, stop, .answered delay exit⟩ :: _ => exact ⟨follows.1, follows.2.trans le⟩
  | ⟨_, stop, .failed⟩ :: _ => exact le_trans follows le

theorem InRound.start {now : Nat} {polls : List Poll} (follows : MayPoll polls now)
    (fresh : failing polls = []) : InRound now polls (.start backOffPolicy now) where
  inv := by
    rw [failures, fresh]
    exact .start backOffPolicy now
  running since at_ := by
    cases at_
    rw [roundStart, fresh]
    exact ⟨rfl, follows⟩
  waiting wake at_ := by cases at_
  begun idle := absurd rfl (idle now)

theorem InRound.elapse {now : Nat} {polls : List Poll} {l : Backoff.Loop} (round : InRound now polls l)
    (duration : Nat) : InRound (now + duration) polls l :=
  ⟨round.inv.elapse duration, round.running, round.waiting, round.begun⟩

theorem InRound.fire {now wake : Nat} {polls : List Poll} {l : Backoff.Loop}
    (round : InRound now polls l) (at_ : l.phase = .waiting wake) (due : wake ≤ now) :
    InRound now polls (l.fire now) where
  inv := round.inv.fired at_ due
  running since running := by
    cases running
    obtain ⟨first, last, began⟩ := round.begun (by simp [at_])
    refine ⟨?_, (round.waiting wake at_).mono due⟩
    rw [roundStart, last]
    exact began
  waiting wake waiting := by cases waiting
  begun idle := absurd rfl (idle now)

/-- **A failed poll** belongs to the round, and the next has to wait for it. -/
theorem InRound.fail {now since next : Nat} {polls : List Poll} {l : Backoff.Loop}
    (round : InRound now polls l) (at_ : l.phase = .running since)
    (drawn : Backoff.Drawn l.backOff.currentInterval next) :
    InRound now (⟨since, now, .failed⟩ :: polls) (l.fail backOffPolicy now next) where
  inv := by
    rw [failures_cons rfl]
    exact round.inv.failed (by decide) at_ drawn
  running later running := by
    rw [Backoff.Loop.fail_eq] at running
    dsimp only at running
    split at running <;> cases running
  waiting wake waiting := by
    rw [Backoff.Loop.fail_eq] at waiting
    dsimp only at waiting
    split at waiting <;> cases waiting
    change now + backOffPolicy.interval (failures polls) / 2 ≤ now + next
    have least := drawn.1
    rw [round.inv.interval] at least
    omega
  begun _ := by
    refine ⟨(failing polls).getLast?.getD ⟨since, now, .failed⟩, ?_, ?_⟩
    · rw [failing_cons rfl, List.getLast?_cons]
    · rw [Backoff.Loop.fail_eq]
      have began := (round.running since at_).1
      rw [roundStart] at began
      rw [← began]
      cases (failing polls).getLast? <;> rfl

/-- It gives up only late. -/
theorem InRound.gaveUp {now : Nat} {polls : List Poll} {l : Backoff.Loop} (round : InRound now polls l)
    (at_ : l.phase = .gaveUp) : ∃ first, (failing polls).getLast? = some first ∧
      first.start + 810 * 10 ^ 9 ≤ now := by
  obtain ⟨first, last, began⟩ := round.begun (by simp [at_])
  refine ⟨first, last, ?_⟩
  have timely := round.inv.timely
  simp only [Backoff.Loop.Timely, at_] at timely
  obtain ⟨_, _, _, late⟩ := timely
  rw [← began] at late
  simp only [backOffPolicy] at late
  omega

/-- No poll is longer than the clock says, and each follows those before it. -/
theorem Paced.polled {now since : Nat} {polls : List Poll} {backOff : Backoff.ExponentialBackOff}
    (paced : Paced polls) (round : InRound now polls ⟨backOff, .running since⟩) (result : PollResult) :
    Paced (⟨since, now, result⟩ :: polls) :=
  ⟨paced, (round.running since rfl).2, round.inv.timely.2.1⟩

theorem StepRunner.Inv.failed {s : StepRunner} (inv : s.Inv) {backOff : Backoff.ExponentialBackOff}
    {since next : Nat} (err : GetNextStepsError) (at_ : s.loop = .retrying ⟨backOff, .running since⟩)
    (drawn : Backoff.Drawn backOff.currentInterval next) :
    (s.polled since (.error err) (afterFailure ⟨backOff, .running since⟩ s.now err next)).Inv := by
  have round : InRound s.now s.polls ⟨backOff, .running since⟩ := by
    have fits := inv.fits
    simpa only [StepRunner.Fits, at_] using fits
  have after := round.fail rfl drawn
  refine ⟨inv.paced.polled round .failed, after.inv.failures_le (by decide), ?_⟩
  unfold StepRunner.Fits StepRunner.polled afterFailure
  dsimp only
  split_ifs with frozen stops
  · trivial
  · obtain ⟨first, last, late⟩ := after.gaveUp stops
    exact ⟨first, _, last, rfl, late⟩
  · exact after

/-- **Every step keeps the polls paced.** -/
theorem StepRunner.Inv.step {s next : StepRunner} {a : RunnerAction} (inv : s.Inv)
    (taken : s.Steps a next) : next.Inv := by
  have fits := inv.fits
  cases StepRunner.step_moves taken with
  | elapsed duration =>
    refine ⟨inv.paced, inv.few, ?_⟩
    unfold StepRunner.Fits at fits ⊢
    dsimp only
    split <;> rename_i at_ <;> rw [at_] at fits
    · exact fits.elapse duration
    · exact fits
    · trivial
    · exact fits
  | cancelled =>
    refine ⟨inv.paced, inv.few, ?_⟩
    unfold StepRunner.Fits at fits ⊢
    dsimp only
    split <;> rename_i at_ <;> rw [at_] at fits
    · exact fits
    · exact fits
    · trivial
    · rename_i ending
      cases ending with
      | cancelled => exact ⟨rfl, fits.2⟩
      | _ => exact fits
  | answered result at_ =>
    simp only [StepRunner.Fits, at_] at fits
    exact ⟨inv.paced.polled fits _, (failures_cons_answered rfl _).trans_le (Nat.zero_le _),
      _, _, _, rfl, rfl, rfl⟩
  | failed err at_ drawn => exact inv.failed err at_ drawn
  | fatal at_ => exact ⟨inv.paced, inv.few, trivial⟩
  | retried at_ due =>
    simp only [StepRunner.Fits, at_] at fits
    exact ⟨inv.paced, inv.few, fits.fire rfl due⟩
  | exited at_ due =>
    simp only [StepRunner.Fits, at_] at fits
    obtain ⟨poll, rest, delay, polls, answered, -⟩ := fits
    exact ⟨inv.paced, inv.few, poll, delay, congrArg List.head? polls, answered⟩
  | resumed at_ due =>
    simp only [StepRunner.Fits, at_] at fits
    obtain ⟨⟨start, stop, result⟩, rest, delay, polls, rfl, rfl⟩ := fits
    refine ⟨inv.paced, inv.few, InRound.start ?_ ?_⟩
    · rw [polls]
      exact ⟨rfl, due⟩
    · rw [polls]
      exact List.length_eq_zero_iff.mp (failures_cons_answered rfl rest)
  | done at_ cancelled =>
    simp only [StepRunner.Fits, at_] at fits
    obtain ⟨poll, rest, delay, polls, answered, -⟩ := fits
    exact ⟨inv.paced, inv.few, cancelled, poll, delay, _, congrArg List.head? polls, answered⟩
  | goroutine others moved => exact ⟨inv.paced, inv.few, fits⟩

theorem StepRunner.Inv.of_reachable {now : Nat} {s : StepRunner}
    (reach : Reachable StepRunner.Steps (newStepRunner now) s) : s.Inv := by
  have start : (newStepRunner now).Inv := ⟨trivial, Nat.zero_le _, InRound.start trivial rfl⟩
  exact reach.invariant start fun _ _ _ inv taken => inv.step taken

/-- **The polls of every run**: none starts before the last has ended and its pause, or the wait of the
back-off, is over; none follows one that told the loop to end; at most forty in a row fail; and the loop
returns for a reason that it states. A cancellation alone does not end it: while polls fail it goes
unseen. -/
theorem polls_paced {now : Nat} {s : StepRunner}
    (reach : Reachable StepRunner.Steps (newStepRunner now) s) :
    Paced s.polls ∧ failures s.polls ≤ 40 ∧
      ∀ ending, s.loop = .returned ending → ending.Justified s := by
  have inv := StepRunner.Inv.of_reachable reach
  refine ⟨inv.paced, inv.few, fun ending at_ => ?_⟩
  have fits := inv.fits
  simpa only [StepRunner.Fits, at_] using fits

/-- A service that answers once, with a pause of a minute, and then cannot be reached any more. The first
failure comes early enough for another poll, the second one a quarter of an hour later. -/
def unreachableRun : List RunnerAction :=
  [.elapse (2 * 10 ^ 9), .answer ⟨⟨[], some "continue"⟩, 60⟩, .elapse (60 * 10 ^ 9), .resume,
    .elapse (30 * 10 ^ 9), .fail (.other "timeout") (600 * 10 ^ 6), .elapse (600 * 10 ^ 6), .retry,
    .elapse (900 * 10 ^ 9), .fail (.other "timeout") (750 * 10 ^ 6)]

theorem polls_paced_unreachable :
    ∃ s, Reachable StepRunner.Steps (newStepRunner 0) s ∧ s.loop = .returned .gaveUp ∧
      s.polls.map (·.result) = [.failed, .failed, .answered (60 * 10 ^ 9) false] ∧
      Paced s.polls ∧ failures s.polls ≤ 40 ∧ Ending.gaveUp.Justified s := by
  obtain ⟨s, taken, returned, results⟩ :
      ∃ s, unreachableRun.foldlM StepRunner.step (newStepRunner 0) = some s ∧
        s.loop = .returned .gaveUp ∧
        s.polls.map (·.result) = [.failed, .failed, .answered (60 * 10 ^ 9) false] :=
    ⟨_, rfl, by decide, by decide⟩
  have reach : Reachable StepRunner.Steps (newStepRunner 0) s := ⟨unreachableRun, Run.of_foldlM taken⟩
  obtain ⟨paced, few, justified⟩ := polls_paced reach
  exact ⟨s, reach, returned, results, paced, few, justified .gaveUp returned⟩

end AssistedAgent.Commands
