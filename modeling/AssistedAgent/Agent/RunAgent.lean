/-
**The life of the agent: registering, running the next-step runner, registering again.**

`RunAgent` registers the host, starts a next-step runner with the arguments of the answer, and registers
again when the runner ends. Errors make it wait, and four of them make it wait forever. The runner is a
program of its own, whose only task is `ProcessSteps`.

* `Lifecycle`, `LifecycleAction`, `Lifecycle.step` — the state machine of the agent and its runner.
* `Cycle`, `Current` — the actions from one registration to the next, and those since the last one, with
  the commands that are executed and the times that pass.
* **`lifecycle_sound`** — the actions of every run are such cycles, one after the other.

A container that `podman` starts runs this program only if the image holds it: the actions `runner` are
those of such a container, and any container may end at any time, with any code.
-/

import AssistedAgent.Actions.NextStepRunner
import AssistedAgent.Commands.ProcessSteps

namespace AssistedAgent.Agent

open Actions (Formats Rejection Validation)
open Actions.NextStepRunner (NextStepCmdRequest)
open Commands Transition

/-! ### The state machine -/

/-- The errors of `RegisterHost` that `RegisterHostWithRetry` tells apart. -/
inductive RegisterError
  | forbidden
  | conflict
  | notFound
  | unauthorized
  | other (message : String)
deriving DecidableEq, Repr

/-- `models.HostRegistrationResponseAO1NextStepRunnerCommand`. -/
structure StepRunnerCommand where
  args : List String
  retrySeconds : Int
deriving DecidableEq, Repr

def defaultRetryDelay : Int := seconds 3600

def delayOnError (stepRunnerCommand : StepRunnerCommand) : Int :=
  if stepRunnerCommand.retrySeconds > 0 then seconds stepRunnerCommand.retrySeconds else defaultRetryDelay

inductive LifecyclePhase
  /-- `RegisterHost` is called. -/
  | registering
  /-- `time.Sleep`. -/
  | sleeping (wake : Nat)
  /-- So many calls of `cleanupPrevious` are to come before the runner is started. -/
  | cleaning (command : StepRunnerCommand) (params : NextStepCmdRequest) (left : Nat)
  | running (command : StepRunnerCommand) (params : NextStepCmdRequest) (runner : StepRunner)
  /-- `select {}`. -/
  | frozen (err : RegisterError)
  | returned
  /-- `logrus.Fatalf` of the session. -/
  | fatal
  | panicked (command : StepRunnerCommand)

structure Lifecycle where
  now : Nat
  phase : LifecyclePhase

def newLifecycle (now : Nat) : Lifecycle := ⟨now, .registering⟩

inductive LifecycleAction
  | elapse (duration : Nat)
  | registered (answer : Except RegisterError (Option StepRunnerCommand))
  | fatal
  | wake
  /-- `util.ExecutePrivileged` of a command and its arguments. -/
  | execute (words : List String)
  | runner (a : RunnerAction)
  /-- The container has ended; `rebooted` is what `DryRebootHappened` answers if it is asked. -/
  | exit (exitCode : Int) (rebooted : Bool)

/-- `Command`. -/
def podman : String := "podman"

section Machine

variable (f : Formats) (config : Config.AgentConfig)

/-- `time.Sleep`, which returns at once if the duration is not positive. -/
def Lifecycle.sleep (s : Lifecycle) (duration : Int) : Lifecycle :=
  { s with phase := .sleeping (s.now + duration.toNat) }

/-- The answer of the service to a registration. -/
def Lifecycle.answered (s : Lifecycle) : Except RegisterError (Option StepRunnerCommand) → Lifecycle
  | .error (.other _) => s.sleep (seconds config.intervalSecs)
  | .error err => { s with phase := .frozen err }
  | .ok none => s.sleep defaultRetryDelay
  | .ok (some command) =>
    match Actions.NextStepRunner.validate f command.args with
    -- `Args` is called for the log line and again by `Run`
    | .accepted params => { s with phase := .cleaning command params 2 }
    | .rejected _ => s.sleep (delayOnError command)
    | .panicked => { s with phase := .panicked command }

/-- A command is executed: the next that is due, and no other. -/
def Lifecycle.executed (s : Lifecycle) (words : List String) : Option Lifecycle :=
  match s.phase with
  | .cleaning command params (left + 1) =>
    if words = podman :: Actions.NextStepRunner.cleanupPrevious then
      some { s with phase := .cleaning command params left }
    else none
  | .cleaning command params 0 =>
    if words = podman :: Actions.NextStepRunner.Args config params then
      some { s with phase := .running command params (newStepRunner s.now) }
    else none
  | _ => none

/-- The container of the runner has ended. -/
def Lifecycle.ended (s : Lifecycle) (command : StepRunnerCommand) (exitCode : Int) (rebooted : Bool) :
    Lifecycle :=
  if exitCode ≠ 0 then s.sleep (delayOnError command)
  else if config.dryRunEnabled && rebooted then { s with phase := .returned }
  else { s with phase := .registering }

/-- The clock of the agent is that of its runner. -/
def LifecyclePhase.elapse (duration : Nat) : LifecyclePhase → LifecyclePhase
  | .running command params runner => .running command params { runner with now := runner.now + duration }
  | phase => phase

/-- An action of the runner that does not move the clock. -/
def untimed : RunnerAction → Bool
  | .elapse _ => false
  | _ => true

def Lifecycle.step (s : Lifecycle) : LifecycleAction → Option Lifecycle
  | .elapse duration => some { s with now := s.now + duration, phase := s.phase.elapse duration }
  | .registered answer =>
    match s.phase with
    | .registering => some (s.answered f config answer)
    | _ => none
  | .fatal =>
    match s.phase with
    | .registering => some { s with phase := .fatal }
    | _ => none
  | .wake =>
    match s.phase with
    | .sleeping wake => if wake ≤ s.now then some { s with phase := .registering } else none
    | _ => none
  | .execute words => s.executed config words
  | .runner a =>
    match s.phase with
    | .running command params runner =>
      if untimed a then (runner.step a).map fun next => { s with phase := .running command params next }
      else none
    | _ => none
  | .exit exitCode rebooted =>
    match s.phase with
    | .running command _ _ => some (s.ended config command exitCode rebooted)
    | _ => none

abbrev Lifecycle.Steps : Lifecycle → LifecycleAction → Lifecycle → Prop :=
  ofPartial (Lifecycle.step f config)

/-- **What a step can do.** -/
inductive LifecycleMoves (s : Lifecycle) : LifecycleAction → Lifecycle → Prop
  | elapsed (duration : Nat) : LifecycleMoves s (.elapse duration)
      { s with now := s.now + duration, phase := s.phase.elapse duration }
  | answered (answer : Except RegisterError (Option StepRunnerCommand)) (at_ : s.phase = .registering) :
      LifecycleMoves s (.registered answer) (s.answered f config answer)
  | fatal (at_ : s.phase = .registering) : LifecycleMoves s .fatal { s with phase := .fatal }
  | woke {wake : Nat} (at_ : s.phase = .sleeping wake) (due : wake ≤ s.now) :
      LifecycleMoves s .wake { s with phase := .registering }
  | cleaned {command : StepRunnerCommand} {params : NextStepCmdRequest} {left : Nat}
      (at_ : s.phase = .cleaning command params (left + 1)) :
      LifecycleMoves s (.execute (podman :: Actions.NextStepRunner.cleanupPrevious))
        { s with phase := .cleaning command params left }
  | started {command : StepRunnerCommand} {params : NextStepCmdRequest}
      (at_ : s.phase = .cleaning command params 0) :
      LifecycleMoves s (.execute (podman :: Actions.NextStepRunner.Args config params))
        { s with phase := .running command params (newStepRunner s.now) }
  | ran {command : StepRunnerCommand} {params : NextStepCmdRequest} {runner next : StepRunner}
      {a : RunnerAction} (at_ : s.phase = .running command params runner) (still : untimed a = true)
      (taken : runner.Steps a next) :
      LifecycleMoves s (.runner a) { s with phase := .running command params next }
  | ended {command : StepRunnerCommand} {params : NextStepCmdRequest} {runner : StepRunner}
      (exitCode : Int) (rebooted : Bool) (at_ : s.phase = .running command params runner) :
      LifecycleMoves s (.exit exitCode rebooted) (s.ended config command exitCode rebooted)

variable {f config}

theorem Lifecycle.executed_moves {s next : Lifecycle} {words : List String}
    (taken : s.executed config words = some next) : LifecycleMoves f config s (.execute words) next := by
  unfold Lifecycle.executed at taken
  split at taken
  · rename_i at_
    split at taken
    · rename_i same
      cases taken
      cases same
      exact .cleaned at_
    · cases taken
  · rename_i at_
    split at taken
    · rename_i same
      cases taken
      cases same
      exact .started at_
    · cases taken
  · cases taken

theorem Lifecycle.step_moves {s next : Lifecycle} {a : LifecycleAction}
    (taken : Lifecycle.Steps f config s a next) : LifecycleMoves f config s a next := by
  cases a with
  | elapse duration =>
    cases taken
    exact .elapsed duration
  | registered answer =>
    simp only [Lifecycle.Steps, ofPartial, Lifecycle.step] at taken
    split at taken
    · rename_i at_
      cases taken
      exact .answered answer at_
    · cases taken
  | fatal =>
    simp only [Lifecycle.Steps, ofPartial, Lifecycle.step] at taken
    split at taken
    · rename_i at_
      cases taken
      exact .fatal at_
    · cases taken
  | wake =>
    simp only [Lifecycle.Steps, ofPartial, Lifecycle.step] at taken
    split at taken
    · rename_i at_
      split at taken
      · rename_i due
        cases taken
        exact .woke at_ due
      · cases taken
    · cases taken
  | execute words => exact Lifecycle.executed_moves taken
  | runner a =>
    simp only [Lifecycle.Steps, ofPartial, Lifecycle.step] at taken
    split at taken
    · rename_i at_
      split at taken
      · rename_i still
        obtain ⟨next, moved, rfl⟩ := Option.map_eq_some_iff.mp taken
        exact .ran at_ still moved
      · cases taken
    · cases taken
  | exit exitCode rebooted =>
    simp only [Lifecycle.Steps, ofPartial, Lifecycle.step] at taken
    split at taken
    · rename_i at_
      cases taken
      exact .ended exitCode rebooted at_
    · cases taken

/-! ### The actions of a run -/

def LifecycleAction.duration : LifecycleAction → Nat
  | .elapse duration => duration
  | _ => 0

/-- The time that passes, in nanoseconds. -/
def elapsed (labels : List LifecycleAction) : Nat := (labels.map LifecycleAction.duration).sum

/-- Time passes, and nothing else happens. -/
def Idle (labels : List LifecycleAction) : Prop := ∀ a ∈ labels, ∃ duration, a = .elapse duration

/-- The actions of a registration that is answered so. -/
def Answered (answer : Except RegisterError (Option StepRunnerCommand)) (labels : List LifecycleAction) :
    Prop :=
  ∃ asking, Idle asking ∧ labels = asking ++ [.registered answer]

/-- After these actions time has passed. -/
def Then (before : List LifecycleAction → Prop) (labels : List LifecycleAction) : Prop :=
  ∃ first waiting, before first ∧ Idle waiting ∧ labels = first ++ waiting

/-- An action of the runner, or the clock. -/
def LifecycleAction.ofRunner : RunnerAction → LifecycleAction
  | .elapse duration => .elapse duration
  | a => .runner a

variable (f config)

/-- A registration whose answer has been accepted, with so many removals of an old runner to come before
the new one is started. -/
inductive Prepared (command : StepRunnerCommand) (params : NextStepCmdRequest) :
    Nat → List LifecycleAction → Prop
  | accepted {labels : List LifecycleAction} (answered : Then (Answered (.ok (some command))) labels)
      (accepted : Actions.NextStepRunner.validate f command.args = .accepted params) :
      Prepared command params 2 labels
  | removed {labels waiting : List LifecycleAction} {left : Nat}
      (before : Prepared command params (left + 1) labels) (idle : Idle waiting) :
      Prepared command params left
        (labels ++ .execute ["podman", "rm", "-i", "next-step-runner"] :: waiting)

/-- A registration whose answer has been accepted, and the run of its runner. -/
def Runs (start : Nat) (command : StepRunnerCommand) (params : NextStepCmdRequest) (runner : StepRunner)
    (labels : List LifecycleAction) : Prop :=
  ∃ prepared actions, Prepared f command params 0 prepared ∧
    Run StepRunner.Steps (newStepRunner (start + elapsed prepared)) actions runner ∧
    labels = prepared ++ .execute ("podman" :: Actions.NextStepRunner.Args config params) ::
      actions.map LifecycleAction.ofRunner

/-- A registration that leads to a wait of so many seconds. -/
inductive Ends (start : Nat) : Int → List LifecycleAction → Prop
  | refused {labels : List LifecycleAction} {message : String}
      (answered : Answered (.error (.other message)) labels) : Ends start config.intervalSecs labels
  | incompatible {labels : List LifecycleAction} (answered : Answered (.ok none) labels) :
      Ends start 3600 labels
  | rejected {labels : List LifecycleAction} {command : StepRunnerCommand} {why : Rejection}
      (answered : Answered (.ok (some command)) labels)
      (rejected : Actions.NextStepRunner.validate f command.args = .rejected why) :
      Ends start (if 0 < command.retrySeconds then command.retrySeconds else 3600) labels
  | crashed {labels : List LifecycleAction} {command : StepRunnerCommand} {params : NextStepCmdRequest}
      {runner : StepRunner} {exitCode : Int} {rebooted : Bool}
      (runs : Runs f config start command params runner labels) (crashed : exitCode ≠ 0) :
      Ends start (if 0 < command.retrySeconds then command.retrySeconds else 3600)
        (labels ++ [.exit exitCode rebooted])

/-- The actions from one registration to the next. The seconds of a wait that is too long for a
`time.Duration` are not waited for. -/
inductive Cycle (start : Nat) : List LifecycleAction → Prop
  | waited {labels waiting : List LifecycleAction} {n : Int} (ends : Ends f config start n labels)
      (idle : Idle waiting) (waits : n * 10 ^ 9 < 2 ^ 63 → n * 10 ^ 9 ≤ elapsed waiting) :
      Cycle start (labels ++ waiting ++ [.wake])
  | exited {labels : List LifecycleAction} {command : StepRunnerCommand} {params : NextStepCmdRequest}
      {runner : StepRunner} {rebooted : Bool} (runs : Runs f config start command params runner labels)
      (again : config.dryRunEnabled = true → rebooted = false) :
      Cycle start (labels ++ [.exit 0 rebooted])

/-- Cycles, one after the other. -/
inductive Cycles (start : Nat) : List LifecycleAction → Prop
  | nil : Cycles start []
  | snoc {labels cycle : List LifecycleAction} (before : Cycles start labels)
      (last : Cycle f config (start + elapsed labels) cycle) : Cycles start (labels ++ cycle)

/-- The actions since the last registration began. -/
def Current (start : Nat) (labels : List LifecycleAction) : LifecyclePhase → Prop
  | .registering => Idle labels
  | .sleeping wake => ∃ n ending waiting, Ends f config start n ending ∧ Idle waiting ∧
      labels = ending ++ waiting ∧ wake = start + elapsed ending + (seconds n).toNat
  | .cleaning command params left => Prepared f command params left labels
  | .running command params runner => Runs f config start command params runner labels
  | .frozen err => (err = .forbidden ∨ err = .conflict ∨ err = .notFound ∨ err = .unauthorized) ∧
      Then (Answered (.error err)) labels
  | .returned => config.dryRunEnabled = true ∧ ∃ command params runner,
      Then (fun ending => ∃ before, Runs f config start command params runner before ∧
        ending = before ++ [.exit 0 true]) labels
  | .fatal => Then (fun ending => ∃ asking, Idle asking ∧ ending = asking ++ [.fatal]) labels
  | .panicked command => Actions.NextStepRunner.validate f command.args = .panicked ∧
      Then (Answered (.ok (some command))) labels

variable {f config}

@[simp] theorem elapsed_append (labels more : List LifecycleAction) :
    elapsed (labels ++ more) = elapsed labels + elapsed more := by
  rw [elapsed, elapsed, elapsed, List.map_append, List.sum_append]

@[simp] theorem elapsed_single (a : LifecycleAction) : elapsed [a] = a.duration :=
  Nat.add_zero _

theorem Idle.nil : Idle [] := fun _ member => absurd member List.not_mem_nil

theorem Idle.elapse {labels : List LifecycleAction} (idle : Idle labels) (duration : Nat) :
    Idle (labels ++ [.elapse duration]) := by
  intro a member
  rcases List.mem_append.mp member with earlier | last
  · exact idle a earlier
  · exact ⟨duration, List.mem_singleton.mp last⟩

theorem Then.now {before : List LifecycleAction → Prop} {labels : List LifecycleAction}
    (first : before labels) : Then before labels :=
  ⟨labels, [], first, .nil, (List.append_nil _).symm⟩

theorem Then.elapse {before : List LifecycleAction → Prop} {labels : List LifecycleAction}
    (done : Then before labels) (duration : Nat) : Then before (labels ++ [.elapse duration]) := by
  obtain ⟨first, waiting, holds, idle, rfl⟩ := done
  exact ⟨first, _, holds, idle.elapse duration, List.append_assoc _ _ _⟩

theorem Prepared.elapse {command : StepRunnerCommand} {params : NextStepCmdRequest} {left : Nat}
    {labels : List LifecycleAction} (prepared : Prepared f command params left labels) (duration : Nat) :
    Prepared f command params left (labels ++ [.elapse duration]) := by
  cases prepared with
  | accepted answered accepted => exact .accepted (answered.elapse duration) accepted
  | removed before idle =>
    rw [List.append_assoc, List.cons_append]
    exact .removed before (idle.elapse duration)

/-- The run of a runner grows with its actions and with the clock. -/
theorem Runs.tail {start : Nat} {command : StepRunnerCommand} {params : NextStepCmdRequest}
    {runner next : StepRunner} {labels : List LifecycleAction} {a : RunnerAction}
    (runs : Runs f config start command params runner labels) (taken : runner.Steps a next) :
    Runs f config start command params next (labels ++ [.ofRunner a]) := by
  obtain ⟨prepared, actions, accepted, run, rfl⟩ := runs
  refine ⟨prepared, actions ++ [a], accepted, run.append (Run.single taken), ?_⟩
  rw [List.map_append, List.append_assoc, List.cons_append]
  rfl

theorem Current.elapse {start : Nat} {labels : List LifecycleAction} {phase : LifecyclePhase}
    (current : Current f config start labels phase) (duration : Nat) :
    Current f config start (labels ++ [.elapse duration]) (phase.elapse duration) := by
  cases phase with
  | registering => exact Idle.elapse current duration
  | sleeping wake =>
    obtain ⟨n, ending, waiting, ends, idle, rfl, due⟩ := current
    exact ⟨n, ending, _, ends, idle.elapse duration, List.append_assoc _ _ _, due⟩
  | cleaning command params left => exact Prepared.elapse current duration
  | running command params runner => exact Runs.tail (a := .elapse duration) current rfl
  | frozen err => exact ⟨current.1, current.2.elapse duration⟩
  | returned =>
    obtain ⟨dry, command, params, runner, done⟩ := current
    exact ⟨dry, command, params, runner, done.elapse duration⟩
  | fatal => exact Then.elapse current duration
  | panicked command => exact ⟨current.1, current.2.elapse duration⟩

/-- The agent goes to sleep for so many seconds. -/
theorem Current.sleep {start : Nat} {labels : List LifecycleAction} {n : Int} {s : Lifecycle}
    (ends : Ends f config start n labels) (clock : s.now = start + elapsed labels) {duration : Int}
    (long : duration = seconds n) : Current f config start labels (s.sleep duration).phase := by
  refine ⟨n, labels, [], ends, .nil, (List.append_nil _).symm, ?_⟩
  rw [clock, long]

theorem delayOnError_eq (command : StepRunnerCommand) :
    delayOnError command =
      seconds (if 0 < command.retrySeconds then command.retrySeconds else 3600) := by
  unfold delayOnError defaultRetryDelay
  split <;> rfl

theorem Current.answered {start : Nat} {labels : List LifecycleAction} {s : Lifecycle}
    (idle : Idle labels) (clock : s.now = start + elapsed labels)
    (answer : Except RegisterError (Option StepRunnerCommand)) :
    Current f config start (labels ++ [.registered answer]) (s.answered f config answer).phase := by
  have asked : Answered answer (labels ++ [.registered answer]) := ⟨labels, idle, rfl⟩
  have clock : s.now = start + elapsed (labels ++ [.registered answer]) := by
    rw [clock, elapsed_append]
    rfl
  match answer with
  | .error (.other message) => exact .sleep (.refused asked) clock rfl
  | .error .forbidden => exact ⟨.inl rfl, .now asked⟩
  | .error .conflict => exact ⟨.inr (.inl rfl), .now asked⟩
  | .error .notFound => exact ⟨.inr (.inr (.inl rfl)), .now asked⟩
  | .error .unauthorized => exact ⟨.inr (.inr (.inr rfl)), .now asked⟩
  | .ok none => exact .sleep (.incompatible asked) clock rfl
  | .ok (some command) =>
    unfold Lifecycle.answered
    dsimp only
    split
    · rename_i accepted
      exact Prepared.accepted (.now asked) accepted
    · rename_i rejected
      exact .sleep (.rejected asked rejected) clock (delayOnError_eq command)
    · rename_i panicked
      exact ⟨panicked, .now asked⟩

theorem Lifecycle.now_answered (s : Lifecycle) (answer : Except RegisterError (Option StepRunnerCommand)) :
    (s.answered f config answer).now = s.now := by
  match answer with
  | .error (.other _) => rfl
  | .error .forbidden => rfl
  | .error .conflict => rfl
  | .error .notFound => rfl
  | .error .unauthorized => rfl
  | .ok none => rfl
  | .ok (some command) =>
    unfold Lifecycle.answered
    dsimp only
    split <;> rfl

theorem LifecycleAction.ofRunner_untimed {a : RunnerAction} (still : untimed a = true) :
    LifecycleAction.ofRunner a = .runner a := by
  cases a with
  | elapse => cases still
  | _ => rfl

/-- A sleep is as long as its seconds say, if a `time.Duration` can hold them. -/
theorem le_seconds {n : Int} (fits : n * 10 ^ 9 < 2 ^ 63) : n * 10 ^ 9 ≤ (seconds n).toNat := by
  rcases Int.lt_or_le n 0 with negative | positive
  · exact le_trans (by omega) (Int.natCast_nonneg _)
  · rw [seconds, Int.bmod_eq_of_le (by omega) (by omega)]
    exact Int.self_le_toNat _

/-! ### Every run -/

variable (f config)

/-- The actions of a run that has led here. -/
structure Lifecycle.Inv (start : Nat) (labels : List LifecycleAction) (s : Lifecycle) : Prop where
  clock : s.now = start + elapsed labels
  split : ∃ done current, labels = done ++ current ∧ Cycles f config start done ∧
    Current f config (start + elapsed done) current s.phase

variable {f config}

/-- An action of the current cycle. -/
theorem Lifecycle.Inv.go {start : Nat} {done current : List LifecycleAction} {now : Nat}
    {phase : LifecyclePhase} {a : LifecycleAction} (clock : now = start + elapsed (done ++ current ++ [a]))
    (cycles : Cycles f config start done)
    (goes : Current f config (start + elapsed done) (current ++ [a]) phase) :
    Lifecycle.Inv f config start (done ++ current ++ [a]) ⟨now, phase⟩ :=
  ⟨clock, done, current ++ [a], List.append_assoc _ _ _, cycles, goes⟩

/-- The last action of a cycle. -/
theorem Lifecycle.Inv.again {start : Nat} {done current : List LifecycleAction} {now : Nat}
    {a : LifecycleAction} (clock : now = start + elapsed (done ++ current ++ [a]))
    (cycles : Cycles f config start done) (last : Cycle f config (start + elapsed done) (current ++ [a])) :
    Lifecycle.Inv f config start (done ++ current ++ [a]) ⟨now, .registering⟩ := by
  refine ⟨clock, done ++ current ++ [a], [], (List.append_nil _).symm, ?_, .nil⟩
  rw [List.append_assoc]
  exact .snoc cycles last

/-- The end of a container leads to a sleep, to the end of the agent or to the next cycle. -/
theorem Lifecycle.Inv.ended {start : Nat} {done current : List LifecycleAction} {s : Lifecycle}
    {command : StepRunnerCommand} {params : NextStepCmdRequest} {runner : StepRunner}
    (clock : s.now = start + elapsed (done ++ current)) (cycles : Cycles f config start done)
    (runs : Runs f config (start + elapsed done) command params runner current) (exitCode : Int)
    (rebooted : Bool) :
    Lifecycle.Inv f config start (done ++ current ++ [.exit exitCode rebooted])
      (s.ended config command exitCode rebooted) := by
  have clock : s.now = start + elapsed (done ++ current ++ [.exit exitCode rebooted]) := by
    rw [clock, elapsed_append _ [_]]
    rfl
  unfold Lifecycle.ended
  split
  · rename_i crashed
    refine .go clock cycles (Current.sleep (.crashed runs crashed) ?_ (delayOnError_eq command))
    rw [clock, List.append_assoc, elapsed_append, Nat.add_assoc]
  · rename_i zero
    obtain rfl : exitCode = 0 := not_not.mp zero
    split
    · rename_i dry
      obtain ⟨enabled, rfl⟩ := Bool.and_eq_true_iff.mp dry
      exact .go clock cycles ⟨enabled, command, params, runner, .now ⟨current, runs, rfl⟩⟩
    · rename_i again
      refine .again clock cycles (.exited runs fun enabled => ?_)
      rw [enabled, Bool.true_and, Bool.not_eq_true] at again
      exact again

/-- **Every step of the agent, or of its runner, keeps this.** -/
theorem Lifecycle.Inv.step {start : Nat} {labels : List LifecycleAction} {s next : Lifecycle}
    {a : LifecycleAction} (inv : s.Inv f config start labels) (taken : Lifecycle.Steps f config s a next) :
    next.Inv f config start (labels ++ [a]) := by
  obtain ⟨clock, done, current, rfl, cycles, here⟩ := inv
  have still : ∀ b : LifecycleAction, b.duration = 0 →
      s.now = start + elapsed (done ++ current ++ [b]) := by
    intro b zero
    rw [clock, elapsed_append _ [b], elapsed_single, zero, Nat.add_zero]
  cases Lifecycle.step_moves taken with
  | elapsed duration =>
    refine .go ?_ cycles (here.elapse duration)
    rw [clock, elapsed_append _ [_], Nat.add_assoc]
    rfl
  | answered answer at_ =>
    rw [at_] at here
    refine .go ((Lifecycle.now_answered s answer).trans (still _ rfl)) cycles (.answered here ?_ answer)
    rw [clock, elapsed_append, Nat.add_assoc]
  | fatal at_ =>
    rw [at_] at here
    exact .go (still .fatal rfl) cycles (.now ⟨current, here, rfl⟩)
  | woke at_ due =>
    rw [at_] at here
    obtain ⟨n, ending, waiting, ends, idle, rfl, rfl⟩ := here
    refine .again (still .wake rfl) cycles (.waited ends idle fun fits => ?_)
    have long := le_seconds fits
    rw [clock, elapsed_append, elapsed_append] at due
    omega
  | cleaned at_ =>
    rw [at_] at here
    exact .go (still _ rfl) cycles (.removed here .nil)
  | started at_ =>
    rw [at_] at here
    refine .go (still _ rfl) cycles ⟨current, [], here, ?_, rfl⟩
    rw [clock, elapsed_append, Nat.add_assoc]
    exact .nil _
  | ran at_ untimed moved =>
    rw [at_] at here
    refine .go (still _ rfl) cycles ?_
    have grown := here.tail moved
    rwa [LifecycleAction.ofRunner_untimed untimed] at grown
  | ended exitCode rebooted at_ =>
    rw [at_] at here
    exact .ended clock cycles here exitCode rebooted

/-- **Every run of the agent.** Its actions are complete cycles, one after the other, and those since the
last registration began. In each cycle the agent waits as long as the answer or the end of the container
asks for, and executes the command of the arguments that the service has answered in that cycle; it stops
only in the ways that `Current` lists. The runner does only what `ProcessSteps` does. -/
theorem lifecycle_sound {start : Nat} {labels : List LifecycleAction} {s : Lifecycle}
    (run : Run (Lifecycle.Steps f config) (newLifecycle start) labels s) :
    (∃ done current, labels = done ++ current ∧ Cycles f config start done ∧
      Current f config (start + elapsed done) current s.phase) ∧
      ∀ command params runner, s.phase = .running command params runner →
        Paced runner.polls ∧ failures runner.polls ≤ 40 ∧ Reachable Agent.Steps newAgent runner.agent := by
  have initial : (newLifecycle start).Inv f config start [] := ⟨rfl, [], [], rfl, .nil, .nil⟩
  have inv := run.history (fun labels s => s.Inv f config start labels) initial
    fun _ _ _ _ inv taken => inv.step taken
  obtain ⟨done, current, split, cycles, here⟩ := inv.split
  refine ⟨⟨done, current, split, cycles, here⟩, fun command params runner at_ => ?_⟩
  rw [at_] at here
  obtain ⟨_, actions, -, reached, -⟩ := here
  have known := StepRunner.Inv.of_reachable ⟨actions, reached⟩
  exact ⟨known.paced, known.few, agent_reachable ⟨actions, reached⟩⟩

end Machine

section Sample

open Actions.NextStepRunner

/-- An agent that asks every minute. -/
def sampleAgent : Config.AgentConfig :=
  runnerConfig sampleEnviron ⟨false, "", "", "", "", ""⟩
    ⟨⟨"https://service", "agent", false, ""⟩, ⟨false, "", "", "", "", ""⟩, ⟨false, true, false⟩,
    "", "", 60, ""⟩
    "agent" sampleID sampleID

/-- A registration that is refused, and a minute later one whose runner crashes after five seconds and is
to be started again after ten minutes. -/
theorem lifecycle_sound_crash :
    ∃ (labels : List LifecycleAction) (s : Lifecycle) (params : NextStepCmdRequest),
    Run (Lifecycle.Steps sampleFormats sampleAgent) (newLifecycle 0) labels s ∧
      .execute ("podman" :: Args sampleAgent params) ∈ labels ∧ elapsed labels = 665 * 10 ^ 9 ∧
      ∃ done current, labels = done ++ current ∧ Cycles sampleFormats sampleAgent 0 done ∧
        Current sampleFormats sampleAgent (0 + elapsed done) current s.phase := by
  have id : GoUuid.isUUID sampleID = true := by decide +kernel
  let command : StepRunnerCommand := ⟨[answerOf "agent" sampleID sampleID], 600⟩
  let params : NextStepCmdRequest := ⟨some "agent", some sampleID, some sampleID⟩
  have accepted : validate sampleFormats command.args = .accepted params :=
    validate_answerOf (by decide +kernel) id id
  have answer : Lifecycle.Steps sampleFormats sampleAgent ⟨60 * 10 ^ 9, .registering⟩
      (.registered (.ok (some command))) ⟨60 * 10 ^ 9, .cleaning command params 2⟩ := by
    simp only [Lifecycle.Steps, ofPartial, Lifecycle.step, Lifecycle.answered, accepted]
  have removes : ∀ left, Lifecycle.Steps sampleFormats sampleAgent
      ⟨60 * 10 ^ 9, .cleaning command params (left + 1)⟩ (.execute ("podman" :: cleanupPrevious))
      ⟨60 * 10 ^ 9, .cleaning command params left⟩ := by
    simp [Lifecycle.Steps, ofPartial, Lifecycle.step, Lifecycle.executed, podman]
  have starts : Lifecycle.Steps sampleFormats sampleAgent ⟨60 * 10 ^ 9, .cleaning command params 0⟩
      (.execute ("podman" :: Args sampleAgent params))
      ⟨60 * 10 ^ 9, .running command params (newStepRunner (60 * 10 ^ 9))⟩ := by
    simp [Lifecycle.Steps, ofPartial, Lifecycle.step, Lifecycle.executed, podman]
  have crash : Lifecycle.Steps sampleFormats sampleAgent
      ⟨60 * 10 ^ 9 + 5 * 10 ^ 9, .running command params
        { newStepRunner (60 * 10 ^ 9) with now := 60 * 10 ^ 9 + 5 * 10 ^ 9 }⟩ (.exit 1 false)
      ⟨60 * 10 ^ 9 + 5 * 10 ^ 9, .sleeping (665 * 10 ^ 9)⟩ := by
    have delay : (delayOnError command).toNat = 600 * 10 ^ 9 := by decide
    simp [Lifecycle.Steps, ofPartial, Lifecycle.step, Lifecycle.ended, Lifecycle.sleep, delay]
  have wakes : Lifecycle.Steps sampleFormats sampleAgent
      ⟨60 * 10 ^ 9 + 5 * 10 ^ 9 + 600 * 10 ^ 9, .sleeping (665 * 10 ^ 9)⟩ .wake
      ⟨60 * 10 ^ 9 + 5 * 10 ^ 9 + 600 * 10 ^ 9, .registering⟩ := by
    simp [Lifecycle.Steps, ofPartial, Lifecycle.step]
  have passes : ∀ (s : Lifecycle) (duration : Nat), Lifecycle.Steps sampleFormats sampleAgent s
      (.elapse duration) { s with now := s.now + duration, phase := s.phase.elapse duration } :=
    fun _ _ => rfl
  have again : Run (Lifecycle.Steps sampleFormats sampleAgent) (newLifecycle 0)
      [.registered (.error (.other "timeout")), .elapse (60 * 10 ^ 9), .wake] ⟨60 * 10 ^ 9, .registering⟩ :=
    .cons rfl (.cons rfl (Run.single rfl))
  have run := again.append (.cons answer (.cons (removes 1) (.cons (removes 0) (.cons starts
    (.cons (passes _ (5 * 10 ^ 9)) (.cons crash (.cons (passes _ (600 * 10 ^ 9)) (Run.single wakes))))))))
  exact ⟨_, _, params, run, by simp, by decide, (lifecycle_sound run).1⟩

end Sample

end AssistedAgent.Agent
