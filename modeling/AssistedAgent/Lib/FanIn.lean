/-
**Jobs that report over a channel, and the parent that joins them.**

A parent starts jobs in a loop and counts each in a wait group first. A job sends its report over a
buffered channel and then counts down. The parent waits for the counter to be zero, closes the channel
and receives what is in it. A step of the system is a step of one goroutine. A job without a report
ends the process in a panic, and so do a send on the closed channel and a negative counter.

Where every job has a report and the channel has room for all of them, `Inv` holds in every reachable
state (`Inv.of_reachable`), and with it:

* **`Inv.job_enabled`** — no job is ever blocked.
* `Inv.done_of_closed` — the channel is closed only after every job has reported.
* **`Inv.progress`**, `length_le`, `exists_returned` — the parent returns in every run that is long
  enough.
* **`Inv.perm_of_returned`** — it has then received every report, once, in some order.
-/

import AssistedAgent.Lib.Transition
import Mathlib.Algebra.BigOperators.Group.List.Basic
import Mathlib.Algebra.Ring.Nat

namespace FanIn

open Transition

variable {α : Type}

/-! ### The system -/

/-- Where a job is. It runs until it sends; without a report it panics. -/
inductive Job (α : Type)
  | running (report : Option α)
  | sent (report : α)
  | done (report : α)

def Job.report : Job α → Option α
  | .running report => report
  | .sent report => some report
  | .done report => some report

/-- The report that has been sent. -/
def Job.reported : Job α → Option α
  | .running _ => none
  | .sent report => some report
  | .done report => some report

/-- What the job holds of the counter. -/
def Job.pending : Job α → Nat
  | .running _ => 1
  | .sent _ => 1
  | .done _ => 0

/-- Where the parent is: at the head of the loop, before the `go` statement, and after the loop. -/
inductive Parent
  | adding
  | starting
  | waiting
  | closing
  | draining
  | returned
deriving DecidableEq, Repr

structure State (α : Type) where
  parent : Parent
  /-- The jobs that have been started. -/
  jobs : List (Job α)
  counter : Int
  channel : List α
  closed : Bool
  received : List α
  panicked : Bool

inductive Goroutine
  | parent
  | job (i : Nat)
deriving DecidableEq, Repr

section Steps

variable (capacity : Nat) (reports : List (Option α))

def State.init : State α := ⟨.adding, [], 0, [], false, [], false⟩

def State.stepParent (s : State α) : Option (State α) :=
  match s.parent with
  | .adding =>
    if s.jobs.length < reports.length then
      some { s with parent := .starting, counter := s.counter + 1 }
    else some { s with parent := .waiting }
  | .starting =>
    (reports[s.jobs.length]?).map fun report =>
      { s with parent := .adding, jobs := s.jobs ++ [.running report] }
  | .waiting => if s.counter = 0 then some { s with parent := .closing } else none
  | .closing => some { s with parent := .draining, closed := true }
  | .draining =>
    match s.channel with
    | report :: rest => some { s with channel := rest, received := s.received ++ [report] }
    | [] => if s.closed then some { s with parent := .returned } else none
  | .returned => none

def State.stepJob (s : State α) (i : Nat) : Option (State α) :=
  match s.jobs[i]? with
  | none => none
  | some (.running none) => some { s with panicked := true }
  | some (.running (some report)) =>
    if s.closed then some { s with panicked := true }
    else if s.channel.length < capacity then
      some { s with jobs := s.jobs.set i (.sent report), channel := s.channel ++ [report] }
    else none
  | some (.sent report) =>
    some { s with
      jobs := s.jobs.set i (.done report)
      counter := s.counter - 1
      panicked := s.counter - 1 < 0 }
  | some (.done _) => none

def State.step (s : State α) (g : Goroutine) : Option (State α) :=
  if s.panicked then none
  else
    match g with
    | .parent => s.stepParent reports
    | .job i => s.stepJob capacity i

/-! ### What a step does -/

/-- The steps, by the statement that is run. -/
inductive Moves (s : State α) : State α → Prop
  | add (at_ : s.parent = .adding) (more : s.jobs.length < reports.length) :
      Moves s { s with parent := .starting, counter := s.counter + 1 }
  | wait (at_ : s.parent = .adding) (all : reports.length ≤ s.jobs.length) :
      Moves s { s with parent := .waiting }
  | start {report : Option α} (at_ : s.parent = .starting)
      (next : reports[s.jobs.length]? = some report) :
      Moves s { s with parent := .adding, jobs := s.jobs ++ [.running report] }
  | joined (at_ : s.parent = .waiting) (zero : s.counter = 0) : Moves s { s with parent := .closing }
  | close (at_ : s.parent = .closing) : Moves s { s with parent := .draining, closed := true }
  | receive {report : α} {rest : List α} (at_ : s.parent = .draining)
      (head : s.channel = report :: rest) :
      Moves s { s with channel := rest, received := s.received ++ [report] }
  | ret (at_ : s.parent = .draining) (empty : s.channel = []) (closed : s.closed = true) :
      Moves s { s with parent := .returned }
  | crash {i : Nat} (at_ : s.jobs[i]? = some (.running none)) : Moves s { s with panicked := true }
  | late {i : Nat} {report : α} (at_ : s.jobs[i]? = some (.running (some report)))
      (closed : s.closed = true) : Moves s { s with panicked := true }
  | send {i : Nat} {report : α} (at_ : s.jobs[i]? = some (.running (some report)))
      (opened : s.closed = false) (room : s.channel.length < capacity) :
      Moves s { s with jobs := s.jobs.set i (.sent report), channel := s.channel ++ [report] }
  | finish {i : Nat} {report : α} (at_ : s.jobs[i]? = some (.sent report)) :
      Moves s { s with
        jobs := s.jobs.set i (.done report)
        counter := s.counter - 1
        panicked := s.counter - 1 < 0 }

variable {capacity reports}

theorem stepParent_moves {s next : State α} (taken : s.stepParent reports = some next) :
    Moves capacity reports s next := by
  unfold State.stepParent at taken
  split at taken
  · rename_i at_
    split at taken
    · rename_i more
      cases taken
      exact .add at_ more
    · rename_i all
      cases taken
      exact .wait at_ (Nat.le_of_not_lt all)
  · rename_i at_
    obtain ⟨report, here, rfl⟩ := Option.map_eq_some_iff.mp taken
    exact .start at_ here
  · rename_i at_
    split at taken
    · rename_i zero
      cases taken
      exact .joined at_ zero
    · cases taken
  · rename_i at_
    cases taken
    exact .close at_
  · rename_i at_
    split at taken
    · rename_i report rest head
      cases taken
      exact .receive at_ head
    · rename_i empty
      split at taken
      · rename_i closed
        cases taken
        exact .ret at_ empty closed
      · cases taken
  · cases taken

theorem stepJob_moves {s next : State α} {i : Nat} (taken : s.stepJob capacity i = some next) :
    Moves capacity reports s next := by
  unfold State.stepJob at taken
  split at taken
  · cases taken
  · rename_i at_
    cases taken
    exact .crash at_
  · rename_i report at_
    split at taken
    · rename_i closed
      cases taken
      exact .late at_ closed
    · rename_i opened
      split at taken
      · rename_i room
        cases taken
        exact .send at_ (Bool.eq_false_iff.mpr opened) room
      · cases taken
  · rename_i report at_
    cases taken
    exact .finish at_
  · cases taken

theorem step_moves {s next : State α} {g : Goroutine} (taken : s.step capacity reports g = some next) :
    Moves capacity reports s next := by
  unfold State.step at taken
  split at taken
  · cases taken
  · cases g with
    | parent => exact stepParent_moves taken
    | job i => exact stepJob_moves taken

end Steps

/-! ### The invariant -/

/-- The counter is ahead of the jobs between `Add` and `go`. -/
def Parent.ahead : Parent → Nat
  | .starting => 1
  | _ => 0

/-- What is known by where the parent is, of a system of `n` jobs. -/
def State.ParentInv (n : Nat) (s : State α) : Prop :=
  match s.parent with
  | .adding => s.closed = false ∧ s.received = []
  | .starting => s.closed = false ∧ s.received = [] ∧ s.jobs.length < n
  | .waiting => s.closed = false ∧ s.received = [] ∧ s.jobs.length = n
  | .closing => s.closed = false ∧ s.received = [] ∧ s.jobs.length = n ∧ s.counter = 0
  | .draining => s.closed = true ∧ s.jobs.length = n ∧ s.counter = 0
  | .returned => s.closed = true ∧ s.jobs.length = n ∧ s.counter = 0 ∧ s.channel = []

structure State.Inv (values : List α) (s : State α) : Prop where
  calm : s.panicked = false
  started : s.jobs.map Job.report = (values.take s.jobs.length).map some
  parent : s.ParentInv values.length
  counter : s.counter = ((s.jobs.map Job.pending).sum + s.parent.ahead : Nat)
  reports : (s.received ++ s.channel).Perm (s.jobs.filterMap Job.reported)

section Runs

variable {capacity : Nat} {values : List α} {s next : State α}

theorem State.Inv.init : (State.init : State α).Inv values where
  calm := rfl
  started := rfl
  parent := ⟨rfl, rfl⟩
  counter := rfl
  reports := .refl _

theorem State.Inv.length_le (inv : s.Inv values) : s.jobs.length ≤ values.length := by
  have same := congrArg List.length inv.started
  rw [List.length_map, List.length_map, List.length_take] at same
  omega

/-- A job that runs has a report. -/
theorem State.Inv.report_of_running (inv : s.Inv values) {i : Nat} {report : Option α}
    (at_ : s.jobs[i]? = some (.running report)) : ∃ value, report = some value := by
  have member : (Job.running report).report ∈ s.jobs.map Job.report :=
    List.mem_map_of_mem (List.mem_of_getElem? at_)
  rw [inv.started] at member
  obtain ⟨value, -, is⟩ := List.mem_map.mp member
  exact ⟨value, is.symm⟩

/-- A job that has not counted down keeps the counter above zero, and the parent from closing. -/
theorem State.Inv.open_of_pending (inv : s.Inv values) {i : Nat} {job : Job α}
    (at_ : s.jobs[i]? = some job) (pending : job.pending = 1) : 0 < s.counter ∧ s.closed = false := by
  obtain ⟨before, after, split, -, -⟩ := exists_split at_
  have positive : 0 < s.counter := by
    rw [inv.counter, split]
    simp only [List.map_append, List.map_cons, List.sum_append, List.sum_cons, pending]
    omega
  have place := inv.parent
  unfold State.ParentInv at place
  refine ⟨positive, ?_⟩
  split at place <;> first | exact place.1 | omega

/-- A job that runs leaves room for its report among those of all jobs. -/
theorem State.Inv.room (inv : s.Inv values) {i : Nat} {report : Option α}
    (at_ : s.jobs[i]? = some (.running report)) : s.channel.length < values.length := by
  obtain ⟨before, after, split, -, -⟩ := exists_split at_
  have sent := inv.reports.length_eq
  have all := inv.length_le
  rw [split] at sent all
  have left := List.length_filterMap_le Job.reported before
  have right := List.length_filterMap_le Job.reported after
  simp only [List.length_append, List.length_cons, List.filterMap_append, filterMap_cons_toList,
    Job.reported, Option.toList_none, List.length_nil] at sent all
  omega

theorem State.Inv.started_set (inv : s.Inv values) {i : Nat} {job job' : Job α}
    (at_ : s.jobs[i]? = some job) (same : job'.report = job.report) :
    (s.jobs.set i job').map Job.report = (values.take (s.jobs.set i job').length).map some := by
  obtain ⟨before, after, split, -, replaced⟩ := exists_split at_
  rw [List.length_set, ← inv.started, replaced, split, List.map_append, List.map_append,
    List.map_cons, List.map_cons, same]

/-- While a job is counted, what is known of the parent does not depend on what the jobs do. -/
theorem State.ParentInv.of_counting {n : Nat} (place : s.ParentInv n) (counting : 0 < s.counter)
    (parent : next.parent = s.parent) (closed : next.closed = s.closed)
    (received : next.received = s.received) (jobs : next.jobs.length = s.jobs.length) :
    next.ParentInv n := by
  unfold State.ParentInv at place ⊢
  rw [parent, closed, received, jobs]
  split at place <;> first | exact place | omega

/-- **Every step keeps the invariant.** -/
theorem State.Inv.moves (inv : s.Inv values) (taken : Moves capacity (values.map some) s next) :
    next.Inv values := by
  have place := inv.parent
  have count := inv.counter
  unfold State.ParentInv at place
  cases taken with
  | add at_ more =>
    rw [at_] at place count
    rw [List.length_map] at more
    refine { inv with parent := ⟨place.1, place.2, more⟩, counter := ?_ }
    simp only [count, Parent.ahead]
    omega
  | wait at_ all =>
    rw [at_] at place count
    rw [List.length_map] at all
    exact { inv with parent := ⟨place.1, place.2, le_antisymm inv.length_le all⟩, counter := count }
  | @start report at_ here =>
    rw [at_] at place count
    rw [List.getElem?_map] at here
    obtain ⟨value, found, rfl⟩ := Option.map_eq_some_iff.mp here
    refine { inv with started := ?_, parent := ⟨place.1, place.2.1⟩, counter := ?_, reports := ?_ }
    · rw [List.map_append, inv.started, List.length_append, List.length_singleton,
        List.take_add_one, found, List.map_append]
      rfl
    · simp only [count, Parent.ahead, List.map_append, List.map_cons, List.map_nil, Job.pending,
        List.sum_append, List.sum_cons, List.sum_nil]
      omega
    · simpa [filterMap_cons_toList, Job.reported] using inv.reports
  | joined at_ zero =>
    rw [at_] at place count
    exact { inv with parent := ⟨place.1, place.2.1, place.2.2, zero⟩, counter := count }
  | close at_ =>
    rw [at_] at place count
    exact { inv with parent := ⟨rfl, place.2.2⟩, counter := count }
  | @receive report rest at_ head =>
    rw [at_] at place
    have kept := inv.reports
    rw [head] at kept
    refine { inv with parent := ?_, reports := ?_ }
    · unfold State.ParentInv
      simp only [at_]
      exact place
    · simpa using kept
  | ret at_ empty closed =>
    rw [at_] at place count
    exact { inv with parent := ⟨place.1, place.2.1, place.2.2, empty⟩, counter := count }
  | crash at_ =>
    obtain ⟨value, is⟩ := inv.report_of_running at_
    cases is
  | late at_ closed =>
    have opened := (inv.open_of_pending at_ rfl).2
    rw [closed] at opened
    cases opened
  | @send i report at_ opened room =>
    obtain ⟨before, after, split, -, replaced⟩ := exists_split at_
    have kept := inv.reports
    rw [split] at count kept
    refine { inv with started := ?_, parent := ?_, counter := ?_, reports := ?_ }
    · exact inv.started_set at_ rfl
    · exact inv.parent.of_counting (inv.open_of_pending at_ rfl).1 rfl rfl rfl List.length_set
    · rw [replaced]
      simpa [Job.pending] using count
    · rw [replaced, List.filterMap_append, filterMap_cons_toList]
      rw [List.filterMap_append, filterMap_cons_toList] at kept
      rw [← List.append_assoc]
      refine (kept.append_right _).trans ?_
      simp only [Job.reported, Option.toList_none, Option.toList_some, List.nil_append,
        List.cons_append]
      exact (List.perm_append_singleton _ _).trans List.perm_middle.symm
  | @finish i report at_ =>
    obtain ⟨before, after, split, -, replaced⟩ := exists_split at_
    have counting := (inv.open_of_pending at_ rfl).1
    have kept := inv.reports
    rw [split] at count kept
    refine ⟨?_, ?_, ?_, ?_, ?_⟩
    · simp only [decide_eq_false_iff_not]
      omega
    · exact inv.started_set at_ rfl
    · exact inv.parent.of_counting counting rfl rfl rfl List.length_set
    · simp only [replaced, List.map_append, List.map_cons, List.sum_append, List.sum_cons,
        Job.pending] at count ⊢
      omega
    · simp only [replaced]
      simpa [Job.reported] using kept

theorem State.Inv.of_reachable
    (reach : Reachable (ofPartial (State.step capacity (values.map some))) State.init s) :
    s.Inv values :=
  reach.invariant .init fun _ _ _ inv taken => inv.moves (step_moves taken)

/-! ### Progress and termination -/

/-- **No job is blocked**: one that has not counted down can take its next step at once. -/
theorem State.Inv.job_enabled (inv : s.Inv values) (room : values.length ≤ capacity) {i : Nat}
    {job : Job α} (at_ : s.jobs[i]? = some job) (pending : job.pending = 1) :
    ∃ next, s.step capacity (values.map some) (.job i) = some next := by
  have opened := (inv.open_of_pending at_ pending).2
  unfold State.step State.stepJob
  simp only [inv.calm, Bool.false_eq_true, if_false, at_]
  cases job with
  | running report =>
    obtain ⟨value, rfl⟩ := inv.report_of_running at_
    have fits : s.channel.length < capacity := lt_of_lt_of_le (inv.room at_) room
    simp only [opened, Bool.false_eq_true, if_false, fits, if_true]
    exact ⟨_, rfl⟩
  | sent report => exact ⟨_, rfl⟩
  | done report => cases pending

/-- Jobs that all hold nothing of the counter have all counted down. -/
theorem exists_pending {jobs : List (Job α)} (positive : (jobs.map Job.pending).sum ≠ 0) :
    ∃ (i : Nat) (job : Job α), jobs[i]? = some job ∧ job.pending = 1 := by
  by_contra none_
  push Not at none_
  refine positive (List.sum_eq_zero_iff_forall_eq_nat.mpr ?_)
  intro held member
  obtain ⟨job, listed, rfl⟩ := List.mem_map.mp member
  obtain ⟨i, here⟩ := List.getElem?_of_mem listed
  have other := none_ i job here
  cases job with
  | running report => exact absurd rfl other
  | sent report => exact absurd rfl other
  | done report => rfl

/-- **A system whose parent has not returned can move.** -/
theorem State.Inv.progress (inv : s.Inv values) (room : values.length ≤ capacity) :
    s.parent = .returned ∨ Enabled (ofPartial (State.step capacity (values.map some))) s := by
  have place := inv.parent
  unfold State.ParentInv at place
  have byParent (taken : ∃ next, s.stepParent (values.map some) = some next) :
      Enabled (ofPartial (State.step capacity (values.map some))) s := by
    obtain ⟨next, taken⟩ := taken
    refine ⟨.parent, next, ?_⟩
    unfold ofPartial State.step
    rw [inv.calm]
    exact taken
  unfold State.stepParent at byParent
  cases at_ : s.parent with
  | adding =>
    refine .inr (byParent ?_)
    simp only [at_]
    split <;> exact ⟨_, rfl⟩
  | starting =>
    refine .inr (byParent ?_)
    rw [at_] at place
    simp only [at_, List.getElem?_map, List.getElem?_eq_getElem place.2.2]
    exact ⟨_, rfl⟩
  | waiting =>
    by_cases zero : s.counter = 0
    · refine .inr (byParent ?_)
      simp only [at_, zero, if_true]
      exact ⟨_, rfl⟩
    · -- Some job still holds a part of the counter, and can move.
      have held : (s.jobs.map Job.pending).sum ≠ 0 := by
        have count := inv.counter
        rw [at_] at count
        simp only [Parent.ahead] at count
        omega
      obtain ⟨i, job, here, pending⟩ := exists_pending held
      obtain ⟨next, taken⟩ := inv.job_enabled room here pending
      exact .inr ⟨.job i, next, taken⟩
  | closing =>
    refine .inr (byParent ?_)
    simp only [at_]
    exact ⟨_, rfl⟩
  | draining =>
    refine .inr (byParent ?_)
    rw [at_] at place
    simp only [at_, place.1, if_true]
    split <;> exact ⟨_, rfl⟩
  | returned => exact .inl rfl

/-- The steps that the parent and the jobs it has yet to start can take, at most. -/
def Parent.weight (toStart : Nat) : Parent → Nat
  | .adding => 5 * toStart + 4
  | .starting => 5 * toStart + 3
  | .waiting => 3
  | .closing => 2
  | .draining => 1
  | .returned => 0

/-- The steps of a job, and the one in which its report is received. -/
def Job.weight : Job α → Nat
  | .running _ => 3
  | .sent _ => 1
  | .done _ => 0

def State.weight (n : Nat) (s : State α) : Nat :=
  s.parent.weight (n - s.jobs.length) + (s.jobs.map Job.weight).sum + s.channel.length

/-- **Every step lowers the weight.** -/
theorem State.Inv.lowers (inv : s.Inv values) (taken : Moves capacity (values.map some) s next) :
    next.weight values.length < s.weight values.length := by
  have place := inv.parent
  unfold State.ParentInv at place
  unfold State.weight
  cases taken with
  | add at_ more =>
    simp only [at_, Parent.weight]
    omega
  | wait at_ all =>
    simp only [at_, Parent.weight]
    omega
  | start at_ here =>
    rw [at_] at place
    have more := place.2.2
    simp only [at_, Parent.weight, List.map_append, List.map_cons, List.map_nil, Job.weight,
      List.sum_append, List.sum_cons, List.sum_nil, List.length_append, List.length_singleton]
    omega
  | joined at_ zero =>
    simp only [at_, Parent.weight]
    omega
  | close at_ =>
    simp only [at_, Parent.weight]
    omega
  | receive at_ head =>
    simp only [head, List.length_cons]
    omega
  | ret at_ empty closed =>
    simp only [at_, Parent.weight]
    omega
  | crash at_ =>
    obtain ⟨value, is⟩ := inv.report_of_running at_
    cases is
  | late at_ closed =>
    have opened := (inv.open_of_pending at_ rfl).2
    rw [closed] at opened
    cases opened
  | send at_ opened room =>
    obtain ⟨before, after, split, -, replaced⟩ := exists_split at_
    simp only [List.length_set]
    rw [replaced, split]
    simp only [List.map_append, List.map_cons, Job.weight, List.sum_append, List.sum_cons,
      List.length_append, List.length_singleton]
    omega
  | finish at_ =>
    obtain ⟨before, after, split, -, replaced⟩ := exists_split at_
    simp only [List.length_set]
    rw [replaced, split]
    simp only [List.map_append, List.map_cons, Job.weight, List.sum_append, List.sum_cons]
    omega

/-- **The length of every run is bounded.** -/
theorem length_le {labels : List Goroutine}
    (run : Run (ofPartial (State.step capacity (values.map some))) State.init labels s) :
    labels.length ≤ 5 * values.length + 4 := by
  have start : (State.init : State α).Inv values := .init
  have bound := run.length_add_le (State.weight values.length) start
    (fun _ _ _ inv taken => State.Inv.moves inv (step_moves taken))
    (fun _ _ _ inv taken => State.Inv.lowers inv (step_moves taken))
  have weight : (State.init : State α).weight values.length = 5 * values.length + 4 := rfl
  omega

/-- **Some run returns**, and by `Inv.progress` every other one can be continued to a return. -/
theorem exists_returned (room : values.length ≤ capacity) :
    ∃ s : State α, Reachable (ofPartial (State.step capacity (values.map some))) State.init s ∧
      s.parent = .returned := by
  have start : (State.init : State α).Inv values := .init
  obtain ⟨s, reach, -, returned⟩ := exists_end (State.Inv values) (fun s => s.parent = .returned)
    (State.weight values.length)
    (fun _ _ _ inv taken => State.Inv.moves inv (step_moves taken))
    (fun _ _ _ inv taken => State.Inv.lowers inv (step_moves taken))
    (fun _ inv => inv.progress room) start
  exact ⟨s, reach, returned⟩

/-! ### What the parent has received -/

/-- **The channel is closed only after every job has reported** and counted down. -/
theorem State.Inv.done_of_closed (inv : s.Inv values) (closed : s.closed = true) :
    s.jobs.length = values.length ∧ ∀ job ∈ s.jobs, job.pending = 0 := by
  have place := inv.parent
  unfold State.ParentInv at place
  have counted : s.jobs.length = values.length ∧ s.counter = 0 := by
    split at place <;> simp_all
  refine ⟨counted.1, ?_⟩
  intro job member
  obtain ⟨i, here⟩ := List.getElem?_of_mem member
  cases job with
  | running report => exact absurd counted.2 (Int.ne_of_gt (inv.open_of_pending here rfl).1)
  | sent report => exact absurd counted.2 (Int.ne_of_gt (inv.open_of_pending here rfl).1)
  | done report => rfl

theorem filterMap_reported_of_done {jobs : List (Job α)} (done : ∀ job ∈ jobs, job.pending = 0) :
    (jobs.filterMap Job.reported).map some = jobs.map Job.report := by
  induction jobs with
  | nil => rfl
  | cons job jobs ih =>
    have rest := ih fun other member => done other (List.mem_cons_of_mem _ member)
    cases job with
    | running report => cases done _ List.mem_cons_self
    | sent report => cases done _ List.mem_cons_self
    | done report =>
      rw [filterMap_cons_toList, List.map_cons, ← rest]
      rfl

/-- **What the parent has received when it returns** is every report, once. -/
theorem State.Inv.perm_of_returned (inv : s.Inv values) (returned : s.parent = .returned) :
    s.received.Perm values := by
  have place := inv.parent
  unfold State.ParentInv at place
  rw [returned] at place
  obtain ⟨closed, -, -, empty⟩ := place
  obtain ⟨all, done⟩ := inv.done_of_closed closed
  have reported : s.jobs.filterMap Job.reported = values := by
    refine List.map_injective_iff.mpr (fun _ _ => Option.some.inj) ?_
    rw [filterMap_reported_of_done done, inv.started, all, List.take_length]
  have received := inv.reports
  rwa [empty, List.append_nil, reported] at received

end Runs

end FanIn
