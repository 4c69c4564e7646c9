/-
**The collection of partial logs, and how it is joined.**

`GatherInstallerLogs` starts the goroutine `CollectPartialLogs` and then adds one to the wait group that
the goroutine counts down when it ends. When it returns, a deferred function cancels the goroutine's
context and waits; `SendLogs` then makes the final upload. A label of a step is the goroutine that takes
it, with what the tools and the service answer.

* `State.Inv` says where the two can be at the same time; every step keeps it in which the goroutine does
  not count down before the parent has counted up (`Inv.parent`, `Inv.collector`).
* **`joined_of_reachable`** — along every run of such steps the counter is never negative, and the
  goroutine has ended before the final upload begins.
* `negative_of_early_done`, **`early_done_panics`** — the other steps make the counter negative, and a run
  has one if the directory cannot be created.
-/

import AssistedAgent.Lib.Transition

namespace AssistedAgent.LogsSender

open Transition

/-! ### The two goroutines -/

/-- What the parent does next: the body of `GatherInstallerLogs`, its deferred function, and the final
`uploadLogs` of `SendLogs`. -/
inductive Parent
  | spawn
  | add
  | ovsGather
  | installerGather
  | move
  | cancel
  | wait
  | report
  | archive
  | upload
  | complete
  | ended (err : Option String)
deriving DecidableEq, Repr

/-- Where the parent is: before it starts the goroutine, before it has counted it, within
`GatherInstallerLogs`, or after its return. -/
inductive Phase
  | alone
  | spawned
  | counted
  | returned
deriving DecidableEq, Repr

def Parent.phase : Parent → Phase
  | .spawn => .alone
  | .add => .spawned
  | .ovsGather | .installerGather | .move | .cancel | .wait => .counted
  | .report | .archive | .upload | .complete | .ended _ => .returned

/-- What the goroutine does next; its `uploadLogs` is `report`, `archive`, `upload`, and `exit` is the
deferred `wg.Done`. -/
inductive Collector
  | absent
  | create
  | select
  | bundle
  | report
  | archive
  | upload
  | exit
  | finished
deriving DecidableEq, Repr

/-- What the service sees of the two, in order. -/
inductive Event
  | partialUpload (err : Option String)
  | finalBegins
  | finalUpload (err : Option String)
deriving DecidableEq, Repr

structure State where
  parent : Parent
  collector : Collector
  /-- The counter of the wait group. -/
  counter : Int
  /-- `collectContext` is done. -/
  cancelled : Bool
  /-- The process has ended in a panic. -/
  panicked : Bool
  /-- The errors that `GatherInstallerLogs` returns. -/
  result : List String
  events : List Event
deriving DecidableEq, Repr

def newState : State := ⟨.spawn, .absent, 0, false, false, [], []⟩

/-- What a tool answers. -/
structure Output where
  stdErr : String
  exitCode : Int
deriving DecidableEq, Repr

/-- A step of the parent, with the answer it gets; `none` is no error. -/
inductive ParentStep
  | spawn
  | add
  | ovsGather (out : Output)
  | installerGather (out : Output)
  | move (out : Output)
  | cancel
  | wait
  | report (err : Option String)
  | archive (out : Output)
  | upload (err : Option String)
  | complete (err : Option String)
deriving DecidableEq, Repr

inductive CollectorStep
  | create (err : Option String)
  | ctxDone
  | tick
  | bundle (out : Output)
  | report (err : Option String)
  | archive (out : Output)
  | upload (err : Option String)
  | done
deriving DecidableEq, Repr

/-- The error of a gather script, which is one with a text too. -/
def gatherError (out : Output) : List String :=
  if out.stdErr ≠ "" ∨ out.exitCode ≠ 0 then [out.stdErr] else []

/-- `wg.Add`, which panics at a negative counter. -/
def State.wgAdd (s : State) (delta : Int) : State :=
  { s with counter := s.counter + delta, panicked := decide (s.counter + delta < 0) }

def State.stepParent (s : State) (a : ParentStep) : Option State :=
  match s.parent, a with
  | .spawn, .spawn => some { s with parent := .add, collector := .create }
  | .add, .add => some { s.wgAdd 1 with parent := .ovsGather }
  | .ovsGather, .ovsGather out =>
    some { s with parent := .installerGather, result := s.result ++ gatherError out }
  | .installerGather, .installerGather out =>
    some { s with parent := .move, result := s.result ++ gatherError out }
  | .move, .move out =>
    some { s with
      parent := .cancel, result := s.result ++ if out.exitCode ≠ 0 then [out.stdErr] else [] }
  | .cancel, .cancel => some { s with parent := .wait, cancelled := true }
  | .wait, .wait =>
    if s.counter = 0 then some { s with parent := .report, events := s.events ++ [.finalBegins] } else none
  | .report, .report _ => some { s with parent := .archive }
  | .archive, .archive out =>
    some { s with parent := if out.exitCode ≠ 0 then .ended (some out.stdErr) else .upload }
  | .upload, .upload err =>
    some { s with
      parent := if err.isSome then .ended err else .complete, events := s.events ++ [.finalUpload err] }
  | .complete, .complete _ => some { s with parent := .ended none }
  | _, _ => none

def State.stepCollector (s : State) (a : CollectorStep) : Option State :=
  match s.collector, a with
  | .create, .create err => some { s with collector := if err.isSome then .exit else .select }
  | .select, .ctxDone => if s.cancelled then some { s with collector := .exit } else none
  | .select, .tick => some { s with collector := .bundle }
  | .bundle, .bundle out => some { s with collector := if out.exitCode ≠ 0 then .select else .report }
  | .report, .report _ => some { s with collector := .archive }
  | .archive, .archive out => some { s with collector := if out.exitCode ≠ 0 then .select else .upload }
  | .upload, .upload err =>
    some { s with collector := .select, events := s.events ++ [.partialUpload err] }
  | .exit, .done => some { s.wgAdd (-1) with collector := .finished }
  | _, _ => none

inductive Label
  | parent (a : ParentStep)
  | collector (a : CollectorStep)
deriving DecidableEq, Repr

/-- One step of either; a panic ends the process. -/
def State.step (s : State) (a : Label) : Option State :=
  if s.panicked then none
  else
    match a with
    | .parent a => s.stepParent a
    | .collector a => s.stepCollector a

/-! ### What joining means -/

/-- No partial upload comes after the final one has begun. -/
def NoLatePartial (events : List Event) : Prop :=
  ∀ before after err, events = before ++ .finalBegins :: after → .partialUpload err ∉ after

/-- The counter is not negative, and the goroutine has ended when `GatherInstallerLogs` returns. -/
structure Joined (s : State) : Prop where
  counter : 0 ≤ s.counter
  alive : s.panicked = false
  finished : s.parent.phase = .returned → s.collector = .finished
  ordered : NoLatePartial s.events

/-- The goroutine counts down only after the parent has counted up. -/
def DoneAfterAdd (s : State) (a : Label) : Prop := a = .collector .done → s.parent ≠ .add

/-! ### The invariant -/

/-- Where the goroutine is, and the counter, in each phase of the parent. -/
def Shape (collector : Collector) (counter : Int) : Phase → Prop
  | .alone => collector = .absent ∧ counter = 0
  | .spawned => collector ≠ .absent ∧ collector ≠ .finished ∧ counter = 0
  | .counted => collector ≠ .absent ∧ counter = if collector = .finished then 0 else 1
  | .returned => collector = .finished ∧ counter = 0

structure State.Inv (s : State) : Prop where
  alive : s.panicked = false
  shape : Shape s.collector s.counter s.parent.phase
  unbegun : s.parent.phase ≠ .returned → .finalBegins ∉ s.events
  ordered : NoLatePartial s.events

theorem inv_newState : newState.Inv where
  alive := rfl
  shape := ⟨rfl, rfl⟩
  unbegun _ := List.not_mem_nil
  ordered before after err is := by simp [newState] at is

theorem State.Inv.joined {s : State} (inv : s.Inv) : Joined s := by
  obtain ⟨alive, shape, -, ordered⟩ := inv
  refine ⟨?_, alive, fun returned => ?_, ordered⟩
  · cases phase : s.parent.phase <;> rw [phase] at shape
    · exact Int.le_of_eq shape.2.symm
    · exact Int.le_of_eq shape.2.2.symm
    · rw [shape.2]
      split <;> decide
    · exact Int.le_of_eq shape.2.symm
  · rw [returned] at shape
    exact shape.1

/-- An event keeps the order if it is no partial upload, or if the final one has not begun. -/
theorem NoLatePartial.concat {events : List Event} (ordered : NoLatePartial events) {e : Event}
    (early : (∀ err, e ≠ .partialUpload err) ∨ .finalBegins ∉ events) :
    NoLatePartial (events ++ [e]) := by
  intro before after err is member
  rcases List.eq_nil_or_concat after with rfl | ⟨after, last, rfl⟩
  · cases member
  rw [List.concat_eq_append] at is member
  have split : events ++ [e] = (before ++ .finalBegins :: after) ++ [last] := by
    rw [is, List.append_assoc, List.cons_append]
  obtain ⟨events_eq, last_eq⟩ := List.append_inj' split rfl
  rcases List.mem_append.mp member with earlier | isLast
  · exact ordered before after err events_eq earlier
  · rcases early with other | unbegun
    · exact other err ((List.cons.inj last_eq).1.trans (List.mem_singleton.mp isLast).symm)
    · rw [events_eq] at unbegun
      exact unbegun (List.mem_append_right before List.mem_cons_self)

section Steps

variable {s next : State}

/-- A step of the parent within a phase that leaves the goroutine, the counter and the events alone. -/
theorem State.Inv.within (inv : s.Inv) (alive : next.panicked = s.panicked)
    (phase : next.parent.phase = s.parent.phase) (collector : next.collector = s.collector)
    (counter : next.counter = s.counter) (events : next.events = s.events) : next.Inv where
  alive := alive.trans inv.alive
  shape := by
    rw [phase, collector, counter]
    exact inv.shape
  unbegun := by
    rw [phase, events]
    exact inv.unbegun
  ordered := by
    rw [events]
    exact inv.ordered

/-- Where the parent is when it takes a step. -/
def ParentStep.place : ParentStep → Parent
  | .spawn => .spawn
  | .add => .add
  | .ovsGather _ => .ovsGather
  | .installerGather _ => .installerGather
  | .move _ => .move
  | .cancel => .cancel
  | .wait => .wait
  | .report _ => .report
  | .archive _ => .archive
  | .upload _ => .upload
  | .complete _ => .complete

theorem State.parent_of_step {a : ParentStep} (taken : s.stepParent a = some next) : s.parent = a.place := by
  unfold State.stepParent at taken
  split at taken <;> first | assumption | cases taken

theorem State.Inv.parent (inv : s.Inv) {a : ParentStep} (taken : s.stepParent a = some next) :
    next.Inv := by
  have shape := inv.shape
  have here := State.parent_of_step taken
  unfold State.stepParent at taken
  rw [here] at taken shape
  cases a with
  | spawn =>
    cases taken
    refine ⟨inv.alive, ⟨nofun, nofun, shape.2⟩, fun _ => inv.unbegun ?_, inv.ordered⟩
    rw [here]
    exact nofun
  | add =>
    cases taken
    obtain ⟨present, running, zero⟩ := shape
    refine ⟨?_, ⟨present, ?_⟩, fun _ => inv.unbegun ?_, inv.ordered⟩
    · simp [State.wgAdd, zero]
    · simp [State.wgAdd, zero, running]
    · rw [here]
      exact nofun
  | wait =>
    dsimp only [ParentStep.place] at taken
    split at taken
    · rename_i zero
      cases taken
      have ended : s.collector = .finished := by
        by_contra running
        rw [shape.2, if_neg running] at zero
        cases zero
      exact ⟨inv.alive, ⟨ended, zero⟩, fun outside => absurd rfl outside,
        inv.ordered.concat (.inl nofun)⟩
    · cases taken
  | archive out =>
    cases taken
    refine inv.within rfl ?_ rfl rfl rfl
    rw [here]
    dsimp only [ParentStep.place]
    split <;> rfl
  | upload err =>
    cases taken
    have phase : (if err.isSome = true then Parent.ended err else .complete).phase = .returned := by
      split <;> rfl
    refine ⟨inv.alive, ?_, fun outside => absurd phase outside, inv.ordered.concat (.inl nofun)⟩
    dsimp only
    rw [phase]
    exact shape
  | ovsGather | installerGather | move | cancel | report | complete =>
    cases taken
    exact inv.within rfl (here ▸ rfl) rfl rfl rfl

/-- While the goroutine runs, the parent has started it and has not returned. -/
theorem State.Inv.running (inv : s.Inv) (present : s.collector ≠ .absent)
    (running : s.collector ≠ .finished) :
    (s.parent.phase = .spawned ∧ s.counter = 0) ∨ (s.parent.phase = .counted ∧ s.counter = 1) := by
  have shape := inv.shape
  cases phase : s.parent.phase <;> rw [phase] at shape
  · exact absurd shape.1 present
  · exact .inl ⟨rfl, shape.2.2⟩
  · exact .inr ⟨rfl, shape.2.trans (if_neg running)⟩
  · exact absurd shape.1 running

theorem Parent.eq_add_of_phase {parent : Parent} (spawned : parent.phase = .spawned) : parent = .add := by
  cases parent <;> first | rfl | cases spawned

/-- A step of the goroutine that does not end it. -/
theorem State.Inv.moves (inv : s.Inv) (present : s.collector ≠ .absent)
    (running : s.collector ≠ .finished) {collector : Collector} (present' : collector ≠ .absent)
    (running' : collector ≠ .finished) : State.Inv { s with collector } := by
  refine ⟨inv.alive, ?_, inv.unbegun, inv.ordered⟩
  change Shape collector s.counter s.parent.phase
  rcases inv.running present running with ⟨phase, zero⟩ | ⟨phase, one⟩
  · rw [phase]
    exact ⟨present', running', zero⟩
  · rw [phase]
    exact ⟨present', one.trans (if_neg running').symm⟩

/-- A partial upload before the return. -/
theorem State.Inv.uploads (inv : s.Inv) (outside : s.parent.phase ≠ .returned) (err : Option String) :
    State.Inv { s with events := s.events ++ [.partialUpload err] } := by
  refine ⟨inv.alive, inv.shape, fun _ begun => ?_, inv.ordered.concat (.inr (inv.unbegun outside))⟩
  rcases List.mem_append.mp begun with before | now
  · exact inv.unbegun outside before
  · cases List.mem_singleton.mp now

/-- Where the goroutine is when it takes a step. -/
def CollectorStep.place : CollectorStep → Collector
  | .create _ => .create
  | .ctxDone | .tick => .select
  | .bundle _ => .bundle
  | .report _ => .report
  | .archive _ => .archive
  | .upload _ => .upload
  | .done => .exit

theorem State.collector_of_step {a : CollectorStep} (taken : s.stepCollector a = some next) :
    s.collector = a.place := by
  unfold State.stepCollector at taken
  split at taken <;> first | assumption | cases taken

theorem State.Inv.collector (inv : s.Inv) {a : CollectorStep}
    (counted : a = .done → s.parent ≠ .add) (taken : s.stepCollector a = some next) : next.Inv := by
  have here := State.collector_of_step taken
  have present : s.collector ≠ .absent := by
    rw [here]
    cases a <;> exact nofun
  have running : s.collector ≠ .finished := by
    rw [here]
    cases a <;> exact nofun
  unfold State.stepCollector at taken
  rw [here] at taken
  cases a with
  | ctxDone =>
    dsimp only [CollectorStep.place] at taken
    split at taken
    · cases taken
      exact inv.moves present running nofun nofun
    · cases taken
  | upload err =>
    cases taken
    have outside : s.parent.phase ≠ .returned := by
      rcases inv.running present running with ⟨phase, -⟩ | ⟨phase, -⟩
      · exact phase ▸ nofun
      · exact phase ▸ nofun
    have moved : State.Inv { s with collector := .select } := inv.moves present running nofun nofun
    exact moved.uploads outside err
  | done =>
    cases taken
    rcases inv.running present running with ⟨phase, -⟩ | ⟨phase, one⟩
    · exact absurd (Parent.eq_add_of_phase phase) (counted rfl)
    · have zero : s.counter + -1 = 0 := by omega
      refine ⟨?_, ?_, inv.unbegun, inv.ordered⟩
      · exact decide_eq_false (by rw [zero]; decide)
      · change Shape .finished (s.counter + -1) s.parent.phase
        rw [phase, zero]
        exact ⟨nofun, rfl⟩
  | create | bundle | archive =>
    cases taken
    refine inv.moves present running ?_ ?_ <;> split <;> exact nofun
  | tick | report =>
    cases taken
    exact inv.moves present running nofun nofun

end Steps

theorem State.Inv.step {s next : State} {a : Label} (inv : s.Inv)
    (taken : guarded DoneAfterAdd (ofPartial State.step) s a next) : next.Inv := by
  obtain ⟨counted, taken⟩ := taken
  change s.step a = some next at taken
  unfold State.step at taken
  rw [inv.alive, if_neg Bool.false_ne_true] at taken
  cases a with
  | parent a => exact inv.parent taken
  | collector a => exact inv.collector (fun is => counted (congrArg Label.collector is)) taken

/-- **In every run whose steps count the goroutine up before it counts down, it is joined.** -/
theorem joined_of_reachable {s : State}
    (reach : Reachable (guarded DoneAfterAdd (ofPartial State.step)) newState s) : Joined s :=
  (reach.invariant inv_newState fun _ _ _ inv taken => inv.step taken).joined

/-- A run with one partial upload, in which nothing fails. -/
def sampleRun : List Label :=
  [.parent .spawn, .collector (.create none), .parent .add, .collector .tick,
    .parent (.ovsGather ⟨"", 0⟩), .collector (.bundle ⟨"", 0⟩), .parent (.installerGather ⟨"", 0⟩),
    .collector (.report none), .parent (.move ⟨"", 0⟩), .collector (.archive ⟨"", 0⟩), .parent .cancel,
    .collector (.upload none), .collector .ctxDone, .collector .done, .parent .wait,
    .parent (.report none), .parent (.archive ⟨"", 0⟩), .parent (.upload none), .parent (.complete none)]

def sampleEnd : State :=
  ⟨.ended none, .finished, 0, true, false, [], [.partialUpload none, .finalBegins, .finalUpload none]⟩

theorem joined_sampleEnd : Joined sampleEnd := by
  have run : Run (guarded DoneAfterAdd (ofPartial State.step)) newState sampleRun sampleEnd := by
    repeat refine .cons ⟨nofun, rfl⟩ ?_
    exact .nil sampleEnd
  exact joined_of_reachable ⟨sampleRun, run⟩

/-! ### The goroutine that ends early -/

/-- **Counting down first makes the counter negative.** -/
theorem negative_of_early_done {s next : State} (inv : s.Inv) (uncounted : s.parent = .add)
    (taken : s.step (.collector .done) = some next) : next.counter = -1 ∧ next.panicked = true := by
  have shape := inv.shape
  rw [uncounted] at shape
  unfold State.step at taken
  rw [inv.alive, if_neg Bool.false_ne_true] at taken
  change s.stepCollector .done = some next at taken
  have here := State.collector_of_step taken
  unfold State.stepCollector at taken
  rw [here] at taken
  cases taken
  simp [State.wgAdd, shape.2.2]

theorem early_done_panics :
    ¬ ∀ s : State, Reachable (ofPartial State.step) newState s → Joined s := by
  intro always
  let last : State := ⟨.add, .finished, -1, false, true, [], []⟩
  have run : Run (ofPartial State.step) newState
      [.parent .spawn, .collector (.create (some "no space left on device")), .collector .done] last := by
    repeat refine .cons rfl ?_
    exact .nil last
  exact absurd (always last ⟨_, run⟩).counter (by decide)

end AssistedAgent.LogsSender
