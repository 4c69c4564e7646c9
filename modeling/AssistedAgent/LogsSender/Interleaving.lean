/-
**The wait group of the partial logs, and the programs that it joins.**

`PartialLogs` is a machine of two goroutines that share a wait group; `SendLogs` has their programs, one
beside the other, with a call that waits until the goroutine has ended. Here the first is shown to be an
implementation of the second.

* `parentEvents`, `collectorEvents` — the calls of each step of the machine.
* `runs_of_collector` — the steps of the goroutine, from its start to its end, are a run of its program.
* **`beside_of_run`** — a run of the machine in which the goroutine is counted in time is, until
  `GatherInstallerLogs` has returned, a run of its program beside that of the goroutine, with the same result.
* **`killed_of_panicked`** — the other runs are those in which the process dies before the first tick.
-/

import AssistedAgent.LogsSender.PartialLogs
import AssistedAgent.LogsSender.SendLogs

namespace AssistedAgent.LogsSender

open GoPath GoStrings Interaction Multierror Multierror.GoError SendLogs Transition

/-! ### The calls of a step -/

section Interleaving

variable (mastersIPs : String) (targetDir : Path) (gatherID : String)

/-- The answer of a command that prints nothing to its standard output. -/
def Output.answer (out : Output) : String × String × Int := ("", out.stdErr, out.exitCode)

/-- The calls of the parent within `GatherInstallerLogs`. -/
def parentEvents : ParentStep → List (Interaction.Event Answer)
  | .spawn => [⟨.collectPartialLogs targetDir gatherID, ()⟩]
  | .ovsGather out => [⟨.execute ovsGatherBin (["--id", gatherID] ++ split mastersIPs ','), out.answer⟩]
  | .installerGather out =>
    [⟨.executePrivileged installerGatherBin (["--id", gatherID] ++ split mastersIPs ','), out.answer⟩]
  | .move out => [⟨.executePrivileged "mv"
      [installerGatherArchivePrefix ++ gatherID ++ ".tar.gz", targetDir.text], out.answer⟩]
  | .wait => [⟨.cancelAndWait, ()⟩]
  | _ => []

/-- The calls of the goroutine. -/
def collectorEvents : CollectorStep → List (Interaction.Event Answer)
  | .create err => [⟨.createFolderIfNotExist (partialDir targetDir).text, err⟩]
  | .ctxDone => [⟨.removeAll (partialDir targetDir).text, ()⟩]
  | .bundle out => [⟨.execute "tar" (bundleArgs targetDir gatherID), out.answer⟩]
  | .report err => [⟨.logProgressReport .collecting, err⟩]
  | .archive out => [⟨.execute "tar" (tarArgs targetDir archivePath), out.answer⟩]
  | .upload err => [⟨.fileUploader archivePath, err⟩]
  | .tick | .done => []

def labelEvents : Label → List (Interaction.Event Answer)
  | .parent a => parentEvents mastersIPs targetDir gatherID a
  | .collector a => collectorEvents targetDir gatherID a

/-- The steps of the parent, and those of the goroutine. -/
def parentSteps (labels : List Label) : List ParentStep :=
  labels.filterMap fun label => match label with
    | .parent a => some a
    | .collector _ => none

def collectorSteps (labels : List Label) : List CollectorStep :=
  labels.filterMap fun label => match label with
    | .parent _ => none
    | .collector a => some a

/-! ### The steps of the goroutine -/

/-- Where a step leads the goroutine, whatever the parent does. -/
def Collector.next : Collector → CollectorStep → Option Collector
  | .create, .create err => some (if err.isSome then .exit else .select)
  | .select, .ctxDone => some .exit
  | .select, .tick => some .bundle
  | .bundle, .bundle out => some (if out.exitCode ≠ 0 then .select else .report)
  | .report, .report _ => some .archive
  | .archive, .archive out => some (if out.exitCode ≠ 0 then .select else .upload)
  | .upload, .upload _ => some .select
  | .exit, .done => some .finished
  | _, _ => none

/-- What a step of the goroutine does to the machine. -/
structure CollectorMoved (s next : State) (a : CollectorStep) : Prop where
  collector : s.collector.next a = some next.collector
  parent : next.parent = s.parent
  result : next.result = s.result
  cancelled : next.cancelled = s.cancelled
  done : a = .ctxDone → s.cancelled = true

theorem collectorMoved {s next : State} {a : CollectorStep} (taken : s.stepCollector a = some next) :
    CollectorMoved s next a := by
  have here := State.collector_of_step taken
  unfold State.stepCollector at taken
  rw [here] at taken
  cases a with
  | ctxDone =>
    dsimp only [CollectorStep.place] at taken
    split at taken
    · rename_i cancelled
      cases taken
      exact ⟨here ▸ rfl, rfl, rfl, rfl, fun _ => cancelled⟩
    · cases taken
  | create | tick | bundle | report | archive | upload | done =>
    cases taken
    exact ⟨here ▸ rfl, rfl, rfl, rfl, nofun⟩

/-- What a step of the parent does to the goroutine, and to its own phase. -/
structure ParentMoved (s next : State) (a : ParentStep) : Prop where
  collector : next.collector = if a = .spawn then .create else s.collector
  started : next.parent.phase ≠ .alone
  counted : a ≠ .spawn → next.parent.phase ≠ .spawned
  returned : s.parent.phase = .returned → next.parent.phase = .returned

/-- A step after the return. -/
theorem ParentMoved.of_returned {s next : State} {a : ParentStep} (other : a ≠ .spawn)
    (same : next.collector = s.collector) (after : next.parent.phase = .returned) : ParentMoved s next a where
  collector := by rw [if_neg other, same]
  started is := by cases after.symm.trans is
  counted _ is := by cases after.symm.trans is
  returned _ := after

theorem parentMoved {s next : State} {a : ParentStep} (taken : s.stepParent a = some next) :
    ParentMoved s next a := by
  have here := State.parent_of_step taken
  unfold State.stepParent at taken
  rw [here] at taken
  cases a with
  | spawn =>
    cases taken
    exact ⟨rfl, nofun, fun other => absurd rfl other, fun is => by rw [here] at is; cases is⟩
  | add | ovsGather | installerGather | move | cancel =>
    cases taken
    exact ⟨rfl, nofun, fun _ => nofun, fun is => by rw [here] at is; cases is⟩
  | wait =>
    dsimp only [ParentStep.place] at taken
    split at taken
    · cases taken
      exact .of_returned nofun rfl rfl
    · cases taken
  | archive | upload =>
    cases taken
    refine .of_returned nofun rfl ?_
    dsimp only
    split <;> rfl
  | report | complete =>
    cases taken
    exact .of_returned nofun rfl rfl

/-- The goroutine is at the place of its step, and the step leads it on. -/
theorem place_of_next {c next : Collector} {a : CollectorStep} (taken : c.next a = some next) :
    c = a.place := by
  unfold Collector.next at taken
  split at taken <;> first | rfl | cases taken

variable {targetDir gatherID}

theorem not_next_of_finished {steps : List CollectorStep} {c : Collector}
    (run : Run (ofPartial Collector.next) .finished steps c) : steps = [] := by
  cases run with
  | nil => rfl
  | @cons _ _ _ a _ taken _ => cases a <;> cases place_of_next taken

/-- The end of the goroutine makes no call. -/
theorem steps_of_exit {steps : List CollectorStep}
    (run : Run (ofPartial Collector.next) .exit steps .finished) : steps = [.done] := by
  cases run with
  | @cons _ _ _ a _ taken rest =>
    cases a with
    | done =>
      cases taken
      rw [not_next_of_finished rest]
    | _ => cases place_of_next taken

/-- The next step of a goroutine that will end. -/
theorem peel {steps : List CollectorStep} {c : Collector}
    (run : Run (ofPartial Collector.next) c steps .finished) (running : c ≠ .finished) :
    ∃ a rest next, steps = a :: rest ∧ c = a.place ∧ c.next a = some next ∧
      Run (ofPartial Collector.next) next rest .finished := by
  cases run with
  | nil => exact absurd rfl running
  | cons taken rest => exact ⟨_, _, _, rfl, place_of_next taken, taken, rest⟩

/-- A round whose artifacts cannot be archived. -/
theorem runs_unbundled {out : Output} (failed : out.exitCode ≠ 0) {ticks : Nat}
    {events : List (Interaction.Event Answer)}
    (rest : Runs (collectTicks targetDir gatherID ticks) events ()) :
    Runs (collectTicks targetDir gatherID (ticks + 1))
      (⟨.execute "tar" (bundleArgs targetDir gatherID), out.answer⟩ :: events) () := by
  refine runs_request_bind.mpr ⟨out.answer, events, rfl, ?_⟩
  change Runs (if out.exitCode ≠ 0 then _ else _) _ _
  rwa [if_pos failed]

/-- A round with an upload, whether it succeeds or not. -/
theorem runs_bundled {out : Output} (good : out.exitCode = 0) {ticks : Nat} {err : Option String}
    {shipped events : List (Interaction.Event Answer)}
    (uploading : Runs (uploadLogs targetDir archivePath) shipped err)
    (rest : Runs (collectTicks targetDir gatherID ticks) events ()) :
    Runs (collectTicks targetDir gatherID (ticks + 1))
      (⟨.execute "tar" (bundleArgs targetDir gatherID), out.answer⟩ :: (shipped ++ events)) () := by
  refine runs_request_bind.mpr ⟨out.answer, shipped ++ events, rfl, ?_⟩
  change Runs (if out.exitCode ≠ 0 then _ else _) _ _
  rw [if_neg (not_not.mpr good)]
  exact runs_bind.mpr ⟨err, shipped, events, rfl, uploading, rest⟩

theorem runs_unarchived (lerr : Option String) {out : Output} (failed : out.exitCode ≠ 0) :
    Runs (uploadLogs targetDir archivePath)
      [⟨.logProgressReport .collecting, lerr⟩,
        ⟨.execute "tar" (tarArgs targetDir archivePath), out.answer⟩] (some out.stdErr) := by
  refine runs_request_bind.mpr ⟨lerr, _, rfl, runs_request_bind.mpr ⟨out.answer, [], rfl, ?_⟩⟩
  change Runs (if out.exitCode ≠ 0 then _ else _) _ _
  rw [if_pos failed]
  exact runs_pure.mpr ⟨rfl, rfl⟩

theorem runs_archived (lerr err : Option String) {out : Output} (good : out.exitCode = 0) :
    Runs (uploadLogs targetDir archivePath)
      [⟨.logProgressReport .collecting, lerr⟩, ⟨.execute "tar" (tarArgs targetDir archivePath), out.answer⟩,
        ⟨.fileUploader archivePath, err⟩] err := by
  refine runs_request_bind.mpr ⟨lerr, _, rfl, runs_request_bind.mpr ⟨out.answer, _, rfl, ?_⟩⟩
  change Runs (if out.exitCode ≠ 0 then _ else _) _ _
  rw [if_neg (not_not.mpr good)]
  refine runs_request_bind.mpr ⟨err, [], rfl, ?_⟩
  cases err <;> exact runs_pure.mpr ⟨rfl, rfl⟩

/-- **The loop of the goroutine is a run of its program**, with a tick for each round. -/
theorem runs_of_select {steps : List CollectorStep}
    (run : Run (ofPartial Collector.next) .select steps .finished) :
    ∃ ticks, Runs (collectTicks targetDir gatherID ticks)
      (steps.flatMap (collectorEvents targetDir gatherID)) () := by
  induction size : steps.length using Nat.strong_induction_on generalizing steps with
  | h n ih =>
    subst size
    obtain ⟨first, steps, _, rfl, at_, taken, run⟩ := peel run nofun
    cases first with
    | ctxDone =>
      cases taken
      rw [steps_of_exit run]
      exact ⟨0, runs_request.mpr rfl⟩
    | tick =>
      cases taken
      obtain ⟨second, steps, _, rfl, at_, taken, run⟩ := peel run nofun
      cases second with
      | bundle out =>
        by_cases failed : out.exitCode ≠ 0
        · simp only [Collector.next, if_pos failed, Option.some.injEq] at taken
          subst taken
          obtain ⟨ticks, rest⟩ := ih _ (by simp only [List.length_cons]; omega) run rfl
          exact ⟨ticks + 1, runs_unbundled failed rest⟩
        · simp only [Collector.next, if_neg failed, Option.some.injEq] at taken
          subst taken
          have good := not_not.mp failed
          obtain ⟨third, steps, _, rfl, at_, taken, run⟩ := peel run nofun
          cases third with
          | report lerr =>
            cases taken
            obtain ⟨fourth, steps, _, rfl, at_, taken, run⟩ := peel run nofun
            cases fourth with
            | archive out =>
              by_cases failed : out.exitCode ≠ 0
              · simp only [Collector.next, if_pos failed, Option.some.injEq] at taken
                subst taken
                obtain ⟨ticks, rest⟩ := ih _ (by simp only [List.length_cons]; omega) run rfl
                have round := runs_bundled good (runs_unarchived lerr failed) rest
                exact ⟨ticks + 1, round⟩
              · simp only [Collector.next, if_neg failed, Option.some.injEq] at taken
                subst taken
                obtain ⟨fifth, steps, _, rfl, at_, taken, run⟩ := peel run nofun
                cases fifth with
                | upload err =>
                  cases taken
                  obtain ⟨ticks, rest⟩ := ih _ (by simp only [List.length_cons]; omega) run rfl
                  have round := runs_bundled good (runs_archived lerr err (not_not.mp failed)) rest
                  exact ⟨ticks + 1, round⟩
                | _ => cases at_
            | _ => cases at_
          | _ => cases at_
      | _ => cases at_
    | _ => cases at_

/-- **The goroutine is a run of its program.** -/
theorem runs_of_collector {steps : List CollectorStep}
    (run : Run (ofPartial Collector.next) .create steps .finished) :
    Spawns (.collectPartialLogs targetDir gatherID) (steps.flatMap (collectorEvents targetDir gatherID)) := by
  obtain ⟨first, steps, _, rfl, at_, taken, run⟩ := peel run nofun
  cases first with
  | create err =>
    cases err with
    | some reason =>
      cases taken
      rw [steps_of_exit run]
      exact ⟨0, runs_request_bind.mpr ⟨some reason, [], rfl, runs_pure.mpr ⟨rfl, rfl⟩⟩⟩
    | none =>
      cases taken
      obtain ⟨ticks, rest⟩ := runs_of_select run
      exact ⟨ticks, runs_request_bind.mpr ⟨none, _, rfl, rest⟩⟩
  | _ => cases at_

/-! ### The steps of the parent -/

/-- The error of the last command of `GatherInstallerLogs`. -/
def moveError (out : Output) : List String := if out.exitCode ≠ 0 then [out.stdErr] else []

/-- What the parent has done, by what it does next. -/
def Before (steps : List ParentStep) (result : List String) : Parent → Prop
  | .spawn => steps = [] ∧ result = []
  | .add => steps = [.spawn] ∧ result = []
  | .ovsGather => steps = [.spawn, .add] ∧ result = []
  | .installerGather => ∃ a, steps = [.spawn, .add, .ovsGather a] ∧ result = gatherError a
  | .move => ∃ a b, steps = [.spawn, .add, .ovsGather a, .installerGather b] ∧
      result = gatherError a ++ gatherError b
  | .cancel => ∃ a b c, steps = [.spawn, .add, .ovsGather a, .installerGather b, .move c] ∧
      result = gatherError a ++ gatherError b ++ moveError c
  | .wait => ∃ a b c, steps = [.spawn, .add, .ovsGather a, .installerGather b, .move c, .cancel] ∧
      result = gatherError a ++ gatherError b ++ moveError c
  | .report => ∃ a b c, steps = [.spawn, .add, .ovsGather a, .installerGather b, .move c, .cancel, .wait] ∧
      result = gatherError a ++ gatherError b ++ moveError c
  | _ => True

theorem Before.step {s next : State} {steps : List ParentStep} {a : ParentStep}
    (before : Before steps s.result s.parent) (taken : s.stepParent a = some next) :
    Before (steps ++ [a]) next.result next.parent := by
  have here := State.parent_of_step taken
  unfold State.stepParent at taken
  rw [here] at taken before
  cases a with
  | spawn | add =>
    obtain ⟨rfl, result⟩ := before
    cases taken
    exact ⟨rfl, result⟩
  | ovsGather a =>
    obtain ⟨rfl, result⟩ := before
    cases taken
    exact ⟨a, rfl, by rw [result, List.nil_append]⟩
  | installerGather b =>
    obtain ⟨a, rfl, result⟩ := before
    cases taken
    exact ⟨a, b, rfl, by rw [result]⟩
  | move c =>
    obtain ⟨a, b, rfl, result⟩ := before
    cases taken
    exact ⟨a, b, c, rfl, by rw [result, moveError]⟩
  | cancel =>
    obtain ⟨a, b, c, rfl, result⟩ := before
    cases taken
    exact ⟨a, b, c, rfl, result⟩
  | wait =>
    obtain ⟨a, b, c, rfl, result⟩ := before
    dsimp only [ParentStep.place] at taken
    split at taken
    · cases taken
      exact ⟨a, b, c, rfl, result⟩
    · cases taken
  | report | complete =>
    cases taken
    exact trivial
  | archive out =>
    cases taken
    dsimp only
    split <;> exact trivial
  | upload err =>
    cases taken
    dsimp only
    split <;> exact trivial

/-- A step of the machine is one of the parent or of the goroutine. -/
theorem State.step_cases {s next : State} {label : Label}
    (taken : guarded DoneAfterAdd (ofPartial State.step) s label next) :
    (∃ a, label = .parent a ∧ s.stepParent a = some next) ∨
      ∃ a, label = .collector a ∧ s.stepCollector a = some next := by
  obtain ⟨-, taken⟩ := taken
  change s.step label = some next at taken
  unfold State.step at taken
  split at taken
  · cases taken
  cases label with
  | parent a => exact .inl ⟨a, rfl, taken⟩
  | collector a => exact .inr ⟨a, rfl, taken⟩

theorem before_of_run {s : State} {labels : List Label}
    (run : Run (guarded DoneAfterAdd (ofPartial State.step)) newState labels s) :
    Before (parentSteps labels) s.result s.parent := by
  refine run.history (fun labels s => Before (parentSteps labels) s.result s.parent) ⟨rfl, rfl⟩ ?_
  intro done s label next before taken
  rw [parentSteps, List.filterMap_append]
  rcases State.step_cases taken with ⟨a, rfl, moved⟩ | ⟨a, rfl, moved⟩
  · exact before.step moved
  · rw [(collectorMoved moved).result, (collectorMoved moved).parent]
    simpa [parentSteps] using before

/-- A command whose error is added to the others. -/
theorem runs_adding (call : Call) (error : Answer call → Option Err) (answer : Answer call)
    (result : Option Err) :
    Runs (adding (ask call >>= fun answer => pure (error answer)) result) [⟨call, answer⟩]
      (appendError result (error answer)) := by
  refine runs_bind.mpr ⟨error answer, [_], [], rfl, ?_, runs_pure.mpr ⟨rfl, rfl⟩⟩
  exact runs_request_bind.mpr ⟨answer, [], rfl, runs_pure.mpr ⟨rfl, rfl⟩⟩

variable (targetDir gatherID) in
/-- What the commands of `GatherInstallerLogs` add to the report. -/
theorem failures_parentEvents (a b c : Output) :
    ([ParentStep.ovsGather a, .installerGather b, .move c].flatMap
      (parentEvents mastersIPs targetDir gatherID)).flatMap SendLogs.failure =
        gatherError a ++ gatherError b ++ moveError c := by
  have tool : installerGatherBin ∉ mountTools := by decide
  have moved : ∀ args, privilegedFailure "mv" args c.stdErr c.exitCode = moveError c := fun args =>
    privilegedFailure_of_plainly (.inl rfl) _ _
  have gathered : ∀ args, privilegedFailure installerGatherBin args b.stdErr b.exitCode = gatherError b := by
    intro args
    by_cases good : b.stdErr = "" ∧ b.exitCode = 0
    · simp [privilegedFailure, gatherError, good]
    · simp [privilegedFailure, gatherError, good, tool, not_and_or.mp good]
  simp [parentEvents, SendLogs.failure, Output.answer, moved, gathered, gatherError]

variable (targetDir gatherID) in
/-- `GatherInstallerLogs` with these answers. -/
theorem runs_gatherInstallerLogs (a b c : Output) :
    Runs (gatherInstallerLogs mastersIPs targetDir) (⟨.now, gatherID⟩ ::
      [ParentStep.spawn, .add, .ovsGather a, .installerGather b, .move c, .cancel, .wait].flatMap
        (parentEvents mastersIPs targetDir gatherID))
      (collected (gatherError a ++ gatherError b ++ moveError c)) := by
  have body : Runs (gatherCommands gatherID (split mastersIPs ',') targetDir)
      ([ParentStep.ovsGather a, .installerGather b, .move c].flatMap
        (parentEvents mastersIPs targetDir gatherID)) _ :=
    runs_bind.mpr ⟨_, [_], _, rfl,
      runs_adding (.execute _ _) (fun answer => scriptError answer.2.1 answer.2.2) a.answer none,
      runs_bind.mpr ⟨_, [_], _, rfl,
        runs_adding (.executePrivileged _ _) (fun answer => scriptError answer.2.1 answer.2.2) b.answer _,
        runs_adding (.executePrivileged _ _) (fun answer => codeError answer.2.1 answer.2.2) c.answer _⟩⟩
  have value := (adding_adds (ovsGather_reports _)).bind ((adding_adds (installerGather_reports _)).bind
    (adding_adds (moveBundle_reports gatherID targetDir))) [] _ _ body
  rw [List.nil_append, failures_parentEvents] at value
  rw [← value]
  refine runs_request_bind.mpr ⟨gatherID, _, rfl, runs_request_bind.mpr ⟨(), _, rfl, ?_⟩⟩
  exact runs_deferring.mpr ⟨_, [⟨.cancelAndWait, ()⟩], rfl, body, runs_request.mpr rfl⟩

/-! ### The two together -/

/-- The steps of a goroutine that has been started lead it to where it is at the end. -/
theorem collector_run {s last : State} {labels : List Label}
    (run : Run (guarded DoneAfterAdd (ofPartial State.step)) s labels last)
    (started : s.parent.phase ≠ .alone) :
    Run (ofPartial Collector.next) s.collector (collectorSteps labels) last.collector := by
  induction run with
  | nil s => exact .nil _
  | cons taken rest ih =>
    rcases State.step_cases taken with ⟨a, rfl, moved⟩ | ⟨a, rfl, moved⟩
    · have other : a ≠ .spawn := by
        rintro rfl
        rw [State.parent_of_step moved] at started
        exact started rfl
      have same := (parentMoved moved).collector
      rw [if_neg other] at same
      rw [← same]
      exact ih (parentMoved moved).started
    · exact .cons (collectorMoved moved).collector (ih ((collectorMoved moved).parent ▸ started))

theorem returned_of_wait {s next : State} (taken : s.stepParent .wait = some next) :
    next.parent = .report := by
  have here := State.parent_of_step taken
  unfold State.stepParent at taken
  rw [here] at taken
  dsimp only [ParentStep.place] at taken
  split at taken
  · cases taken
    rfl
  · cases taken

/-- The parent waits once. -/
theorem not_returned_of_wait {s last : State} {labels : List Label}
    (run : Run (guarded DoneAfterAdd (ofPartial State.step)) s (labels ++ [.parent .wait]) last) :
    s.parent.phase ≠ .returned := by
  induction labels generalizing s with
  | nil =>
    cases run with
    | cons taken rest =>
      rcases State.step_cases taken with ⟨a, same, moved⟩ | ⟨a, same, -⟩
      · cases same
        rw [State.parent_of_step moved]
        exact nofun
      · cases same
  | cons label labels ih =>
    cases run with
    | cons taken rest =>
      intro returned
      refine ih rest ?_
      rcases State.step_cases taken with ⟨a, rfl, moved⟩ | ⟨a, rfl, moved⟩
      · exact (parentMoved moved).returned returned
      · rw [(collectorMoved moved).parent]
        exact returned

variable (targetDir gatherID)

/-- The calls of the parent, of the goroutine and of both, in a part of a run. -/
def ownEvents (labels : List Label) : List (Interaction.Event Answer) :=
  (parentSteps labels).flatMap (parentEvents mastersIPs targetDir gatherID)

def otherEvents (labels : List Label) : List (Interaction.Event Answer) :=
  (collectorSteps labels).flatMap (collectorEvents targetDir gatherID)

def allEvents (labels : List Label) : List (Interaction.Event Answer) :=
  labels.flatMap (labelEvents mastersIPs targetDir gatherID)

variable {targetDir gatherID}

/-- The rest of a run, up to the return of `GatherInstallerLogs`, from a state in which the goroutine is at
work. -/
theorem beside_of_started {s last : State} {labels : List Label} (inv : s.Inv)
    (run : Run (guarded DoneAfterAdd (ofPartial State.step)) s (labels ++ [.parent .wait]) last)
    (started : s.parent.phase ≠ .alone) :
    Beside Spawns Joins (some (otherEvents targetDir gatherID (labels ++ [.parent .wait])))
      (ownEvents mastersIPs targetDir gatherID (labels ++ [.parent .wait]))
      (allEvents mastersIPs targetDir gatherID (labels ++ [.parent .wait])) none := by
  induction labels generalizing s with
  | nil => exact .join rfl (.done none)
  | cons label labels ih =>
    have inside := not_returned_of_wait run
    cases run with
    | cons taken rest =>
      have kept := inv.step taken
      rcases State.step_cases taken with ⟨a, rfl, moved⟩ | ⟨a, rfl, moved⟩
      · have later := ih kept rest (parentMoved moved).started
        have here := State.parent_of_step moved
        cases a with
        | spawn => exact absurd (by rw [here]; rfl) started
        | add | cancel => exact later
        | ovsGather | installerGather | move => exact .own (fun _ spawns => spawns) nofun later
        | wait => exact absurd (by rw [returned_of_wait moved]; rfl) (not_returned_of_wait rest)
        | report | archive | upload | complete =>
          exact absurd (by rw [here]; rfl) inside
      · have later := ih kept rest ((collectorMoved moved).parent ▸ started)
        cases a with
        | tick | done => exact later
        | create | ctxDone | bundle | report | archive | upload => exact .other later

/-- **The machine runs the two programs.** A run in which the goroutine is counted in time is, up to the
return of `GatherInstallerLogs`, a run of that program beside the goroutine, with the errors that the machine
has collected. -/
theorem beside_of_run {s : State} {labels : List Label}
    (run : Run (guarded DoneAfterAdd (ofPartial State.step)) newState (labels ++ [.parent .wait]) s) :
    ∃ main, Runs (gatherInstallerLogs mastersIPs targetDir) (⟨.now, gatherID⟩ :: main) (collected s.result) ∧
      Beside Spawns Joins none main
        (allEvents mastersIPs targetDir gatherID (labels ++ [.parent .wait])) none := by
  obtain ⟨middle, early, final⟩ := run.exists_of_append
  have returned : s.parent = .report := by
    cases final with
    | cons taken rest =>
      cases rest with
      | nil =>
        rcases State.step_cases taken with ⟨a, same, moved⟩ | ⟨a, same, -⟩
        · cases same
          exact returned_of_wait moved
        · cases same
  have before := before_of_run run
  rw [returned] at before
  obtain ⟨a, b, c, steps, result⟩ := before
  refine ⟨ownEvents mastersIPs targetDir gatherID (labels ++ [.parent .wait]), ?_, ?_⟩
  · rw [ownEvents, steps, result]
    exact runs_gatherInstallerLogs mastersIPs targetDir gatherID a b c
  · have ended : s.collector = .finished :=
      (joined_of_reachable ⟨_, run⟩).finished (by rw [returned]; rfl)
    cases labels with
    | nil =>
      cases steps
    | cons label labels =>
      cases run with
      | cons taken rest =>
        -- the first step can only be the one that starts the goroutine
        have kept := inv_newState.step taken
        rcases State.step_cases taken with ⟨a, rfl, moved⟩ | ⟨a, rfl, moved⟩
        · have here := State.parent_of_step moved
          cases a with
          | spawn =>
            have started := (parentMoved moved).started
            have steps := collector_run rest started
            rw [(parentMoved moved).collector, if_pos rfl, ended] at steps
            exact .spawn (runs_of_collector steps) (beside_of_started mastersIPs kept rest started)
          | _ => cases here
        · have here := State.collector_of_step moved
          cases a <;> cases here

/-! ### The panic -/

/-- What a run has come to, whether the goroutine is counted in time or not. -/
inductive Come (labels : List Label) (s : State) : Prop
  | alive (inv : s.Inv) (fresh : s.parent = .spawn ∨ s.parent = .add → s.cancelled = false)
      (unstarted : s.parent = .spawn → labels = [])
      (started : s.parent = .add → s.collector = .create → labels = [.parent .spawn])
      (ending : s.parent = .add → s.collector = .exit →
        ∃ err, labels = [.parent .spawn, .collector (.create (some err))])
  | panicked (dead : s.panicked = true)
      (early : ∃ err, labels = [.parent .spawn, .collector (.create (some err)), .collector .done])

/-- How a goroutine comes to its end while nothing is cancelled: it cannot make its folder. -/
theorem create_of_exit {c : Collector} {a : CollectorStep} (taken : c.next a = some .exit)
    (uncancelled : a ≠ .ctxDone) : ∃ err, a = .create (some err) ∧ c = .create := by
  have here := place_of_next taken
  subst here
  cases a with
  | create err =>
    cases err with
    | some err => exact ⟨err, rfl, rfl⟩
    | none => cases taken
  | ctxDone => exact absurd rfl uncancelled
  | bundle out =>
    simp only [Collector.next, CollectorStep.place, Option.some.injEq] at taken
    split at taken <;> cases taken
  | archive out =>
    simp only [Collector.next, CollectorStep.place, Option.some.injEq] at taken
    split at taken <;> cases taken
  | tick | report | upload | done => cases taken

theorem ne_create_of_next {c : Collector} {a : CollectorStep} : c.next a ≠ some .create := by
  intro taken
  have here := place_of_next taken
  subst here
  cases a with
  | create err =>
    simp only [Collector.next, CollectorStep.place, Option.some.injEq] at taken
    split at taken <;> cases taken
  | bundle out =>
    simp only [Collector.next, CollectorStep.place, Option.some.injEq] at taken
    split at taken <;> cases taken
  | archive out =>
    simp only [Collector.next, CollectorStep.place, Option.some.injEq] at taken
    split at taken <;> cases taken
  | ctxDone | tick | report | upload | done => cases taken

theorem Come.step {labels : List Label} {s next : State} {label : Label} (come : Come labels s)
    (taken : s.step label = some next) : Come (labels ++ [label]) next := by
  cases come with
  | panicked dead early =>
    unfold State.step at taken
    rw [if_pos dead] at taken
    cases taken
  | alive inv fresh unstarted started ending =>
    have whole := taken
    unfold State.step at taken
    rw [inv.alive, if_neg Bool.false_ne_true] at taken
    cases label with
    | parent a =>
      by_cases spawns : a = .spawn
      · subst spawns
        have here := State.parent_of_step taken
        have uncancelled := fresh (.inl here)
        have empty := unstarted here
        have kept := inv.parent taken
        unfold State.stepParent at taken
        rw [here] at taken
        cases taken
        subst empty
        exact .alive kept (fun _ => uncancelled) nofun (fun _ _ => rfl) nofun
      · have notSpawn : next.parent ≠ .spawn := fun is => (parentMoved taken).started (is ▸ rfl)
        have notAdd : next.parent ≠ .add := fun is => (parentMoved taken).counted spawns (is ▸ rfl)
        exact .alive (inv.parent taken) (fun either => by rcases either with is | is <;> contradiction)
          (fun is => absurd is notSpawn) (fun is => absurd is notAdd) fun is => absurd is notAdd
    | collector a =>
      obtain ⟨moved, same, -, kept, only⟩ := collectorMoved taken
      by_cases early : a = .done ∧ s.parent = .add
      · obtain ⟨rfl, uncounted⟩ := early
        obtain ⟨err, rfl⟩ := ending uncounted (State.collector_of_step taken)
        exact .panicked (negative_of_early_done inv uncounted whole).2 ⟨err, rfl⟩
      · refine .alive (inv.collector (fun done add => early ⟨done, add⟩) taken) ?_ ?_ ?_ ?_
        · rw [same, kept]
          exact fresh
        · intro is
          have shape := inv.shape
          rw [← same, is] at shape
          rw [State.collector_of_step taken] at shape
          cases a <;> cases shape.1
        · intro _ creates
          rw [creates] at moved
          exact absurd moved ne_create_of_next
        · intro add exits
          rw [exits] at moved
          rw [same] at add
          have uncancelled : a ≠ .ctxDone := by
            intro done
            rw [fresh (.inr add)] at only
            cases only done
          obtain ⟨err, rfl, creates⟩ := create_of_exit moved uncancelled
          rw [started add creates]
          exact ⟨err, rfl⟩

/-- **The only panic of the machine** is that of a goroutine that cannot make its folder and counts down
before anything else has happened. -/
theorem killed_of_panicked {s : State} {labels : List Label}
    (run : Run (ofPartial State.step) newState labels s) (dead : s.panicked = true) :
    ∃ err, allEvents mastersIPs targetDir gatherID labels = [⟨.collectPartialLogs targetDir gatherID, ()⟩,
      ⟨.createFolderIfNotExist (partialDir targetDir).text, some err⟩] := by
  have initial : Come [] newState := .alive inv_newState (fun _ => rfl) (fun _ => rfl) nofun nofun
  have come := run.history Come initial fun _ _ _ _ come taken => come.step taken
  cases come with
  | alive inv =>
    rw [inv.alive] at dead
    cases dead
  | panicked _ early =>
    obtain ⟨err, rfl⟩ := early
    exact ⟨err, rfl⟩

end Interleaving

end AssistedAgent.LogsSender
