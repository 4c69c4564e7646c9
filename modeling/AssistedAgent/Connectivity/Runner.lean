/-
**The connectivity check: `connectivityRunner.Run` and its hosts.**

`Run` starts one `ProcessHost` goroutine per host, receives one result per host over a channel that
has room for all of them, sorts by host ID and flattens the errors. A step of the whole system is a
step of one goroutine: the main one, or one of the goroutines of a host (`ProcessHost`).

**`run_collects_once`** — for every list of hosts, NICs and checkers: no state that some interleaving
reaches has panicked; no run is longer than a bound, and a state without a step has returned; and
what is returned is one `RemoteHost` per requested host. For each of them `Check` has been called
exactly as asked for, the reporters run are the non-nil values that these calls returned, followed by
the finalizers, and every error that a reporter returned is part of the returned error.
-/

import AssistedAgent.Connectivity.ProcessHost
import AssistedAgent.Lib.StableSort

namespace AssistedAgent.Connectivity

open Multierror Transition StableSort

variable {R : Type}

structure CheckedHostResult where
  checkedHost : RemoteHost
  err : Option Error

/-- Where `Run` is. -/
inductive Main
  | spawning (rest : List CheckHost)
  | receiving (i : Nat)
  | returned (remoteHosts : List RemoteHost) (err : Option Error)

structure RunState (R : Type) where
  main : Main
  hosts : List (HostState R)
  resultChan : List CheckedHostResult
  remoteHosts : List RemoteHost
  err : Option Error
  /-- The results received, in order. -/
  received : List CheckedHostResult

/-- The goroutines of the whole check. -/
inductive Goroutine
  | main
  | host (i : Nat) (t : Thread)

/-- The result of a host that has sent it. -/
def HostState.result (s : HostState R) : Option CheckedHostResult :=
  match s.stage with
  | .spawning _ => none
  | .collecting => none
  | .finalizing _ => none
  | .returned => some ⟨s.resultingHost, s.err⟩

section Steps

variable (d : Runner R) (params : List CheckHost) (outgoingNics : List OutgoingNic)

def RunState.init : RunState R := ⟨.spawning params, [], [], [], none, []⟩

/-- The next step of `Run`. -/
def RunState.stepMain (s : RunState R) : Option (RunState R) :=
  match s.main with
  | .spawning (checkHost :: rest) =>
    some { s with
      main := .spawning rest
      hosts := s.hosts ++ [HostState.init (calls d s.hosts.length checkHost outgoingNics) checkHost] }
  | .spawning [] => some { s with main := .receiving 0 }
  | .receiving i =>
    if i = params.length then
      some { s with main := .returned (sortBy (·.hostID) s.remoteHosts) (s.err.map GoError.flatten) }
    else
      match s.resultChan with
      | result :: rest =>
        some { s with
          main := .receiving (i + 1)
          resultChan := rest
          remoteHosts := s.remoteHosts ++ [result.checkedHost]
          err := match result.err with
            | some e => some (GoError.append s.err [e])
            | none => s.err
          received := s.received ++ [result] }
      | [] => none
  | .returned _ _ => none

/-- The deferred send of `ProcessHost`. -/
def RunState.sendResult (s : RunState R) (i : Nat) (h : HostState R) : Option (RunState R) :=
  match h.stage with
  | .finalizing [] =>
    if s.resultChan.length < params.length then
      some { s with
        hosts := s.hosts.set i { h with stage := .returned }
        resultChan := s.resultChan ++ [⟨h.resultingHost, h.err⟩] }
    else none
  | _ => none

def RunState.step (s : RunState R) : Goroutine → Option (RunState R)
  | .main => s.stepMain d params outgoingNics
  | .host i t =>
    match s.hosts[i]? with
    | none => none
    | some h =>
      match h.step d t with
      | some next => some { s with hosts := s.hosts.set i next }
      | none =>
        match t with
        | .process => s.sendResult params i h
        | .worker _ => none
        | .closer => none

/-! ### What a step does -/

/-- The steps of the whole check, by the statement that is run. -/
inductive RunMoves (s : RunState R) : RunState R → Prop
  | spawn {checkHost : CheckHost} {rest : List CheckHost} (at_ : s.main = .spawning (checkHost :: rest)) :
      RunMoves s { s with
        main := .spawning rest
        hosts := s.hosts ++ [HostState.init (calls d s.hosts.length checkHost outgoingNics) checkHost] }
  | start (at_ : s.main = .spawning []) : RunMoves s { s with main := .receiving 0 }
  | ret (at_ : s.main = .receiving params.length) :
      RunMoves s { s with
        main := .returned (sortBy (·.hostID) s.remoteHosts) (s.err.map GoError.flatten) }
  | receive {i : Nat} {result : CheckedHostResult} {rest : List CheckedHostResult}
      (at_ : s.main = .receiving i) (head : s.resultChan = result :: rest) :
      RunMoves s { s with
        main := .receiving (i + 1)
        resultChan := rest
        remoteHosts := s.remoteHosts ++ [result.checkedHost]
        err := GoError.collect s.err result.err.toList
        received := s.received ++ [result] }
  | host {i : Nat} {h next : HostState R} (at_ : s.hosts[i]? = some h) (taken : Moves d h next) :
      RunMoves s { s with hosts := s.hosts.set i next }
  | result {i : Nat} {h : HostState R} (at_ : s.hosts[i]? = some h) (last : h.stage = .finalizing []) :
      RunMoves s { s with
        hosts := s.hosts.set i { h with stage := .returned }
        resultChan := s.resultChan ++ [⟨h.resultingHost, h.err⟩] }

variable {d params outgoingNics}

theorem stepMain_moves {s next : RunState R} (taken : s.stepMain d params outgoingNics = some next) :
    RunMoves d params outgoingNics s next := by
  unfold RunState.stepMain at taken
  split at taken
  · rename_i at_
    cases taken
    exact .spawn at_
  · rename_i at_
    cases taken
    exact .start at_
  · rename_i i at_
    split at taken
    · rename_i all
      subst all
      cases taken
      exact .ret at_
    · split at taken
      · rename_i result rest head
        cases taken
        convert RunMoves.receive at_ head using 2
        cases result.err <;> rfl
      · cases taken
  · cases taken

theorem runStep_moves {s next : RunState R} {g : Goroutine}
    (taken : s.step d params outgoingNics g = some next) : RunMoves d params outgoingNics s next := by
  cases g with
  | main => exact stepMain_moves taken
  | host i t =>
    unfold RunState.step at taken
    simp only at taken
    split at taken
    · cases taken
    · rename_i h at_
      split at taken
      · rename_i moved
        cases taken
        exact .host at_ (step_moves moved)
      · split at taken
        · unfold RunState.sendResult at taken
          split at taken
          · rename_i last
            split at taken
            · cases taken
              exact .result at_ last
            · cases taken
          · cases taken
        · cases taken
        · cases taken

/-- A step of a host does not change the result it has sent. -/
theorem Moves.result {h next : HostState R} (taken : Moves d h next) : next.result = h.result := by
  cases taken <;> simp_all [HostState.result]

/-! ### The invariant -/

/-- What is known of `Run` by where it is. -/
def RunState.MainInv (params : List CheckHost) (s : RunState R) : Prop :=
  match s.main with
  | .spawning rest =>
    s.hosts.length ≤ params.length ∧ rest = params.drop s.hosts.length ∧ s.received = []
  | .receiving i => s.hosts.length = params.length ∧ i = s.received.length
  | .returned remoteHosts err =>
    s.hosts.length = params.length ∧ s.received.length = params.length ∧
      remoteHosts = sortBy (·.hostID) s.remoteHosts ∧ err = s.err.map GoError.flatten

structure RunState.Inv (d : Runner R) (params : List CheckHost) (outgoingNics : List OutgoingNic)
    (s : RunState R) : Prop where
  hosts : ∀ (i : Nat) (h : HostState R), s.hosts[i]? = some h →
    ∃ checkHost, params[i]? = some checkHost ∧ h.Inv d (calls d i checkHost outgoingNics) (newHost checkHost)
  main : s.MainInv params
  results : (s.received ++ s.resultChan).Perm (s.hosts.filterMap HostState.result)
  remoteHosts : s.remoteHosts = s.received.map (·.checkedHost)
  err : s.err = GoError.collect none (s.received.filterMap (·.err))

theorem RunState.Inv.init : (RunState.init params : RunState R).Inv d params outgoingNics where
  hosts := by simp [RunState.init]
  main := by simp [RunState.MainInv, RunState.init]
  results := .refl _
  remoteHosts := rfl
  err := rfl

/-- Replacing the state of one host by one that keeps its invariant keeps those of all. -/
theorem hosts_set {s : RunState R} (inv : s.Inv d params outgoingNics) {i : Nat} {h next : HostState R}
    (at_ : s.hosts[i]? = some h)
    (kept : ∀ calls start, h.Inv d calls start → next.Inv d calls start) :
    ∀ (j : Nat) (k : HostState R), (s.hosts.set i next)[j]? = some k →
      ∃ checkHost, params[j]? = some checkHost ∧
        k.Inv d (calls d j checkHost outgoingNics) (newHost checkHost) := by
  intro j k here
  by_cases same : i = j
  · subst same
    obtain ⟨checkHost, found, old⟩ := inv.hosts i h at_
    have replaced : (s.hosts.set i next)[i]? = some next := by
      rw [List.getElem?_set_self' , at_]
      rfl
    rw [replaced] at here
    cases here
    exact ⟨checkHost, found, kept _ _ old⟩
  · rw [List.getElem?_set_ne same] at here
    exact inv.hosts j k here

/-- A host that sends its result keeps its invariant. -/
theorem HostState.Inv.return {calls : List (Call R)} {start : RemoteHost} {h : HostState R}
    (inv : h.Inv d calls start) (last : h.stage = .finalizing []) :
    HostState.Inv d calls start { h with stage := .returned } := by
  have kept := inv.results
  have made := inv.made
  have spawning := inv.absent
  have left := inv.drained
  have phases := inv.phases
  rw [last] at kept made spawning left phases
  exact { inv with
    made := made, results := kept, absent := spawning, drained := left, phases := phases }

/-- **Every step keeps the invariant.** -/
theorem RunState.Inv.moves {s next : RunState R} (inv : s.Inv d params outgoingNics)
    (taken : RunMoves d params outgoingNics s next) : next.Inv d params outgoingNics := by
  have main := inv.main
  unfold RunState.MainInv at main
  cases taken with
  | @spawn checkHost rest at_ =>
    rw [at_] at main
    obtain ⟨le, drop, nothing⟩ := main
    have here : params[s.hosts.length]? = some checkHost := by
      have head := congrArg List.head? drop
      rw [List.head?_drop] at head
      exact head.symm
    have below : s.hosts.length < params.length := (List.getElem?_eq_some_iff.mp here).1
    refine { inv with hosts := ?_, main := ?_, results := ?_ }
    · intro j k found
      rw [List.getElem?_append] at found
      split at found
      · exact inv.hosts j k found
      · rename_i past
        have last : j = s.hosts.length := by
          have := (List.getElem?_eq_some_iff.mp found).1
          simp only [List.length_singleton] at this
          omega
        subst last
        rw [Nat.sub_self] at found
        cases found
        exact ⟨checkHost, here, HostState.Inv.init d _ checkHost⟩
    · refine ⟨?_, ?_, nothing⟩
      · rw [List.length_append, List.length_singleton]
        exact below
      · rw [List.length_append, List.length_singleton, ← List.tail_drop, ← drop, List.tail_cons]
    · rw [List.filterMap_append]
      simpa [HostState.init, HostState.result, filterMap_cons_toList] using inv.results
  | start at_ =>
    rw [at_] at main
    obtain ⟨le, drop, nothing⟩ := main
    refine { inv with main := ⟨?_, ?_⟩ }
    · exact le_antisymm le (List.drop_eq_nil_iff.mp drop.symm)
    · rw [nothing]
      rfl
  | ret at_ =>
    rw [at_] at main
    exact { inv with main := ⟨main.1, main.2.symm, rfl, rfl⟩ }
  | @receive i result rest at_ head =>
    rw [at_] at main
    have kept := inv.results
    rw [head] at kept
    refine { inv with main := ⟨main.1, ?_⟩, results := ?_, remoteHosts := ?_, err := ?_ }
    · simp [main.2]
    · simpa using kept
    · simp [inv.remoteHosts]
    · rw [inv.err, collect_collect, List.filterMap_append, filterMap_cons_toList]
      simp
  | @host i h moved at_ taken =>
    obtain ⟨before, after, split, -, replaced⟩ := exists_split at_
    refine { inv with hosts := ?_, main := ?_, results := ?_ }
    · exact hosts_set inv at_ fun calls start old => old.moves taken
    · simpa [RunState.MainInv] using inv.main
    · have kept := inv.results
      rw [split] at kept
      rw [replaced]
      simpa [filterMap_cons_toList, taken.result] using kept
  | @result i h at_ last =>
    obtain ⟨before, after, split, -, replaced⟩ := exists_split at_
    have before_ : h.result = none := by simp [HostState.result, last]
    refine { inv with hosts := ?_, main := ?_, results := ?_ }
    · exact hosts_set inv at_ fun calls start old => old.return last
    · simpa [RunState.MainInv] using inv.main
    · have kept := inv.results
      rw [split, List.filterMap_append, filterMap_cons_toList, before_] at kept
      rw [replaced, List.filterMap_append, filterMap_cons_toList, ← List.append_assoc]
      refine (kept.append_right _).trans ?_
      simp only [HostState.result, Option.toList_none, Option.toList_some, List.nil_append,
        List.cons_append]
      exact List.perm_append_singleton _ _ |>.trans List.perm_middle.symm

/-! ### Progress and termination -/

variable (d outgoingNics) in
def Main.weight : Main → Nat
  | .spawning rest =>
    (rest.map fun checkHost =>
      5 * (spawned d checkHost outgoingNics).length + d.checkers.length + 7).sum + 2
  | .receiving _ => 1
  | .returned _ _ => 0

variable (d outgoingNics) in
/-- The steps the check can still take, at most. -/
def RunState.weight (s : RunState R) : Nat :=
  s.main.weight d outgoingNics + (s.hosts.map (·.weight d)).sum + s.resultChan.length

theorem weight_init (h : Nat) (checkHost : CheckHost) :
    (HostState.init (calls d h checkHost outgoingNics) checkHost).weight d =
      5 * (spawned d checkHost outgoingNics).length + d.checkers.length + 6 := by
  simp [HostState.weight, HostState.init, Stage.weight, Closer.weight, calls]

/-- **Every step lowers the weight.** -/
theorem RunState.Inv.lowers {s next : RunState R} (inv : s.Inv d params outgoingNics)
    (taken : RunMoves d params outgoingNics s next) :
    next.weight d outgoingNics < s.weight d outgoingNics := by
  unfold RunState.weight
  cases taken with
  | spawn at_ =>
    simp only [at_, Main.weight, List.map_append, List.map_cons, List.map_nil, List.sum_append,
      List.sum_cons, List.sum_nil, weight_init]
    omega
  | start at_ =>
    simp only [at_, Main.weight, List.map_nil, List.sum_nil]
    omega
  | ret at_ =>
    simp only [at_, Main.weight]
    omega
  | receive at_ head =>
    simp only [at_, head, Main.weight, List.length_cons]
    omega
  | host at_ taken =>
    obtain ⟨before, after, split, -, replaced⟩ := exists_split at_
    obtain ⟨checkHost, -, host⟩ := inv.hosts _ _ at_
    have lower := host.lowers taken
    rw [replaced, split]
    simp only [List.map_append, List.map_cons, List.sum_append, List.sum_cons]
    omega
  | @result i h at_ last =>
    obtain ⟨before, after, split, -, replaced⟩ := exists_split at_
    have lower : HostState.weight d { h with stage := .returned } + 2 = h.weight d := by
      simp only [HostState.weight, last, Stage.weight, List.length_nil]
      omega
    rw [replaced, split]
    simp only [List.map_append, List.map_cons, List.sum_append, List.sum_cons, List.length_append,
      List.length_singleton]
    omega

/-- Results received and in the channel are results of different hosts. -/
theorem RunState.Inv.results_le {s : RunState R} (inv : s.Inv d params outgoingNics) :
    s.received.length + s.resultChan.length ≤ s.hosts.length := by
  have same := inv.results.length_eq
  rw [List.length_append] at same
  rw [same]
  exact List.length_filterMap_le _ _

/-- **A check that has not returned can move.** -/
theorem RunState.Inv.progress {s : RunState R} (inv : s.Inv d params outgoingNics)
    (notReturned : ∀ remoteHosts err, s.main ≠ .returned remoteHosts err) :
    ∃ g next, s.step d params outgoingNics g = some next := by
  have main := inv.main
  unfold RunState.MainInv at main
  have stepMain : (∃ next, s.stepMain d params outgoingNics = some next) →
      ∃ g next, s.step d params outgoingNics g = some next := fun ⟨next, taken⟩ => ⟨.main, next, taken⟩
  cases at_ : s.main with
  | spawning rest =>
    refine stepMain ?_
    unfold RunState.stepMain
    rw [at_]
    cases rest <;> exact ⟨_, rfl⟩
  | returned remoteHosts err => exact absurd at_ (notReturned remoteHosts err)
  | receiving i =>
    rw [at_] at main
    by_cases all : i = params.length
    · refine stepMain ?_
      unfold RunState.stepMain
      simp only [at_, all, if_true]
      exact ⟨_, rfl⟩
    · cases chan : s.resultChan with
      | cons result rest =>
        refine stepMain ?_
        unfold RunState.stepMain
        simp only [at_, all, if_false, chan]
        exact ⟨_, rfl⟩
      | nil =>
        -- Fewer results than hosts have been sent, so some host still has a step.
        have le := inv.results_le
        have fewer : (s.hosts.filterMap HostState.result).length < s.hosts.length := by
          rw [← inv.results.length_eq, List.length_append, chan, List.length_nil]
          rw [chan, List.length_nil] at le
          omega
        obtain ⟨h, member, unsent⟩ : ∃ h ∈ s.hosts, h.result = none := by
          by_contra every
          refine fewer.ne (List.filterMap_length_eq_length.mpr fun h member => ?_)
          rw [Option.isSome_iff_ne_none]
          exact fun unsent => every ⟨h, member, unsent⟩
        obtain ⟨j, here⟩ := List.getElem?_of_mem member
        obtain ⟨checkHost, -, host⟩ := inv.hosts j h here
        by_cases last : h.stage = .finalizing []
        · refine ⟨.host j .process, ?_⟩
          have stuck : h.step d .process = none := by
            unfold HostState.step HostState.process
            rw [last]
          have room : s.resultChan.length < params.length := by
            rw [chan, List.length_nil]
            omega
          unfold RunState.step RunState.sendResult
          simp only [here, stuck, last, room, if_true]
          exact ⟨_, rfl⟩
        · have notReturned : h.stage ≠ .returned := by
            intro returned
            simp [HostState.result, returned] at unsent
          obtain ⟨t, next, taken⟩ := host.progress last notReturned
          refine ⟨.host j t, ?_⟩
          unfold RunState.step
          simp only [here, taken]
          exact ⟨_, rfl⟩

/-! ### Exactly once -/

/-- What has been done for the `i`-th host when the check returns the error `err`. -/
structure Collected (d : Runner R) (outgoingNics : List OutgoingNic) (i : Nat) (checkHost : CheckHost)
    (err : Option Error) (h : HostState R) : Prop where
  /-- The calls of `Check` made in the run are those asked for. -/
  requested : (h.checked.map fun e => (e.call.checker, e.call.attributes)).Perm
    (requested d checkHost outgoingNics)
  /-- They are different calls, and calls for this host. -/
  distinct : (h.checked.map (·.call.id)).Nodup ∧ ∀ e ∈ h.checked, e.call.id.1 = i
  /-- Each returned what the checker returns for it. -/
  answers : ∀ e ∈ h.checked, e.reporter = e.call.checker.check e.call.id e.call.attributes
  /-- The reporters run are the non-nil values returned. -/
  reporters : (reporters h.log).Perm (h.checked.filterMap (·.reporter))
  /-- The finalizers run once each, after all reporters. -/
  finalized : h.log = (Connectivity.reporters h.log).map .reported ++ d.checkers.map .finalized
  /-- Nothing else has been done to the host. -/
  host : h.resultingHost = (replay d (newHost checkHost) h.log).1
  /-- The errors of the reporters are part of the error returned. -/
  errors : ∀ e ∈ (replay d (newHost checkHost) h.log).2,
    ∃ all, err = some all ∧ ∀ leaf ∈ e.leaves, leaf ∈ all.leaves

theorem calls_perm_requested (i : Nat) (checkHost : CheckHost) :
    ((calls d i checkHost outgoingNics).map fun c => (c.checker, c.attributes)).Perm
      (requested d checkHost outgoingNics) := by
  have same : ((calls d i checkHost outgoingNics).map fun c => (c.checker, c.attributes)) =
      spawned d checkHost outgoingNics := by
    refine List.ext_getElem? fun j => ?_
    simp [calls, Option.map_map, Function.comp_def]
  rw [same]
  exact spawned_perm_requested d checkHost outgoingNics

theorem mem_calls_id {i : Nat} {checkHost : CheckHost} {c : Call R}
    (member : c ∈ calls d i checkHost outgoingNics) : c.id.1 = i := by
  obtain ⟨j, -, rfl⟩ := List.mem_mapIdx.mp member
  rfl

theorem calls_id_nodup (i : Nat) (checkHost : CheckHost) :
    ((calls d i checkHost outgoingNics).map (·.id)).Nodup := by
  rw [List.nodup_iff_injective_getElem]
  intro j k same
  simp only [calls, List.getElem_map, List.getElem_mapIdx, Prod.mk.injEq, true_and] at same
  exact Fin.ext same

/-- When the check has returned, every host has sent its result and it has been received. -/
theorem RunState.Inv.all_sent {s : RunState R} (inv : s.Inv d params outgoingNics)
    {remoteHosts : List RemoteHost} {err : Option Error}
    (returned : s.main = .returned remoteHosts err) :
    (∀ h ∈ s.hosts, h.stage = .returned) ∧
      s.received.Perm (s.hosts.map fun h => ⟨h.resultingHost, h.err⟩) := by
  have main := inv.main
  unfold RunState.MainInv at main
  rw [returned] at main
  obtain ⟨len, all, -, -⟩ := main
  have le := inv.results_le
  have empty : s.resultChan = [] := List.eq_nil_of_length_eq_zero (by omega)
  have kept := inv.results
  rw [empty, List.append_nil] at kept
  have every : ∀ h ∈ s.hosts, h.result.isSome := by
    refine List.filterMap_length_eq_length.mp ?_
    rw [← kept.length_eq]
    omega
  have stages : ∀ h ∈ s.hosts, h.stage = .returned := by
    intro h member
    have sent := every h member
    unfold HostState.result at sent
    cases stage : h.stage with
    | returned => rfl
    | spawning rest => simp [stage] at sent
    | collecting => simp [stage] at sent
    | finalizing rest => simp [stage] at sent
  refine ⟨stages, ?_⟩
  have results : s.hosts.filterMap HostState.result =
      s.hosts.map fun h => ⟨h.resultingHost, h.err⟩ := by
    rw [← List.filterMap_eq_map]
    refine List.filterMap_congr fun h member => ?_
    simp [HostState.result, stages h member]
  rwa [results] at kept

/-- The error returned holds the errors of every host. -/
theorem RunState.Inv.errors_returned {s : RunState R} (inv : s.Inv d params outgoingNics)
    {remoteHosts : List RemoteHost} {err : Option Error}
    (returned : s.main = .returned remoteHosts err) {h : HostState R} (member : h ∈ s.hosts)
    {host : Error} (failed : h.err = some host) :
    ∃ all, err = some all ∧ ∀ leaf ∈ host.leaves, leaf ∈ all.leaves := by
  have main := inv.main
  unfold RunState.MainInv at main
  rw [returned] at main
  obtain ⟨-, -, -, flat⟩ := main
  have sent : host ∈ s.received.filterMap (·.err) := by
    refine List.mem_filterMap.mpr ⟨⟨h.resultingHost, h.err⟩, ?_, failed⟩
    exact (inv.all_sent returned).2.mem_iff.mpr (List.mem_map.mpr ⟨h, member, rfl⟩)
  have leaves := GoError.leaves_collect (s.received.filterMap (·.err))
  rw [← inv.err] at leaves
  cases total : s.err with
  | none =>
    have nothing := (GoError.collect_eq_none_iff _).mp (inv.err.symm.trans total)
    rw [nothing] at sent
    cases sent
  | some all =>
    rw [total] at flat leaves
    refine ⟨all.flatten, flat, fun leaf inside => ?_⟩
    rw [GoError.leaves_flatten]
    simp only [Option.toList_some, List.flatMap_singleton] at leaves
    rw [leaves]
    exact List.mem_flatMap.mpr ⟨host, sent, inside⟩

theorem RunState.Inv.collected {s : RunState R} (inv : s.Inv d params outgoingNics)
    {remoteHosts : List RemoteHost} {err : Option Error}
    (returned : s.main = .returned remoteHosts err) {i : Nat} {checkHost : CheckHost}
    (here : params[i]? = some checkHost) :
    ∃ h, s.hosts[i]? = some h ∧ Collected d outgoingNics i checkHost err h := by
  have main := inv.main
  unfold RunState.MainInv at main
  rw [returned] at main
  have below := (List.getElem?_eq_some_iff.mp here).1
  have found : s.hosts[i]? = some s.hosts[i] := List.getElem?_eq_getElem (by omega)
  generalize s.hosts[i] = h at found
  have member := List.mem_of_getElem? found
  have last := (inv.all_sent returned).1 h member
  have gone : h.stage.hasLeft = true := by rw [last]; rfl
  obtain ⟨other, there, host⟩ := inv.hosts i h found
  obtain rfl : checkHost = other := Option.some.inj (here.symm.trans there)
  obtain ⟨errors, replayed, errs⟩ := host.replayed
  refine ⟨h, found, ?_⟩
  exact {
    requested := by
      have made := ((host.all_made gone).map fun c => (c.checker, c.attributes)).trans
        (calls_perm_requested i checkHost)
      rwa [List.map_map] at made
    distinct := by
      refine ⟨?_, fun e made => ?_⟩
      · have ids := ((host.all_made gone).map (·.id)).nodup_iff.mpr (calls_id_nodup i checkHost)
        rwa [List.map_map] at ids
      · exact mem_calls_id ((host.all_made gone).subset (List.mem_map_of_mem made))
    answers := host.answers
    reporters := host.reporters_checked gone
    finalized := host.finalized (by rw [last]; rfl)
    host := by rw [replayed]
    errors := by
      intro e inside
      rw [replayed] at inside
      have leaves := GoError.leaves_collect errors
      rw [← errs] at leaves
      cases total : h.err with
      | none =>
        have nothing := (GoError.collect_eq_none_iff _).mp (errs.symm.trans total)
        simp [nothing] at inside
      | some all =>
        obtain ⟨whole, is, part⟩ := inv.errors_returned returned member total
        refine ⟨whole, is, fun leaf small => part leaf ?_⟩
        rw [total] at leaves
        simp only [Option.toList_some, List.flatMap_singleton] at leaves
        rw [leaves]
        exact List.mem_flatMap.mpr ⟨e, inside, small⟩ }

/-- The report is sorted, and has the host of every `ProcessHost`. -/
theorem RunState.Inv.report {s : RunState R} (inv : s.Inv d params outgoingNics)
    {remoteHosts : List RemoteHost} {err : Option Error}
    (returned : s.main = .returned remoteHosts err) :
    remoteHosts = sortBy (·.hostID) s.remoteHosts ∧
      remoteHosts.Perm (s.hosts.map (·.resultingHost)) := by
  have main := inv.main
  unfold RunState.MainInv at main
  rw [returned] at main
  refine ⟨main.2.2.1, ?_⟩
  rw [main.2.2.1]
  refine (sortBy_perm _ _).trans ?_
  rw [inv.remoteHosts]
  have all := (inv.all_sent returned).2.map CheckedHostResult.checkedHost
  simpa [List.map_map, Function.comp_def] using all

theorem reachable_inv {s : RunState R}
    (reach : Reachable (ofPartial (RunState.step d params outgoingNics)) (RunState.init params) s) :
    s.Inv d params outgoingNics :=
  reach.invariant RunState.Inv.init fun _ _ _ inv taken => inv.moves (runStep_moves taken)

/-- **Exactly-once collection.** -/
theorem run_collects_once (d : Runner R) (params : List CheckHost) (outgoingNics : List OutgoingNic) :
    let step := ofPartial (RunState.step d params outgoingNics)
    let start := RunState.init params
    (∀ s, Reachable step start s → ∀ h ∈ s.hosts, h.panicked = false) ∧
      (∃ bound, ∀ labels s, Run step start labels s → labels.length ≤ bound) ∧
      (∀ s, Reachable step start s →
        Enabled step s ∨ ∃ remoteHosts err, s.main = .returned remoteHosts err) ∧
      ∀ s remoteHosts err, Reachable step start s → s.main = .returned remoteHosts err →
        s.hosts.length = params.length ∧
          remoteHosts.Perm (s.hosts.map (·.resultingHost)) ∧
          ∀ i checkHost, params[i]? = some checkHost →
            ∃ h, s.hosts[i]? = some h ∧ Collected d outgoingNics i checkHost err h := by
  refine ⟨fun s reach h member => ?_, ?_, fun s reach => ?_,
    fun s remoteHosts err reach returned => ⟨?_, ?_, fun i checkHost here => ?_⟩⟩
  · obtain ⟨i, here⟩ := List.getElem?_of_mem member
    obtain ⟨checkHost, -, host⟩ := (reachable_inv reach).hosts i h here
    exact host.calm
  · refine ⟨(RunState.init params).weight d outgoingNics, fun labels s run => ?_⟩
    have bound := run.length_add_le (RunState.weight d outgoingNics) RunState.Inv.init
      (fun _ _ _ inv taken => inv.moves (runStep_moves taken))
      (fun _ _ _ inv taken => inv.lowers (runStep_moves taken))
    omega
  · by_cases ended : ∃ remoteHosts err, s.main = .returned remoteHosts err
    · exact Or.inr ended
    · refine Or.inl ((reachable_inv reach).progress fun remoteHosts err returned => ?_)
      exact ended ⟨remoteHosts, err, returned⟩
  · have main := (reachable_inv reach).main
    unfold RunState.MainInv at main
    rw [returned] at main
    exact main.1
  · exact ((reachable_inv reach).report returned).2
  · exact (reachable_inv reach).collected returned here

/-- Some interleaving returns. -/
theorem exists_returned (d : Runner R) (params : List CheckHost) (outgoingNics : List OutgoingNic) :
    ∃ s remoteHosts err, Reachable (ofPartial (RunState.step d params outgoingNics))
      (RunState.init params) s ∧ s.main = .returned remoteHosts err := by
  have ends : ∃ last, Reachable (ofPartial (RunState.step d params outgoingNics))
      (RunState.init params) last ∧ last.Inv d params outgoingNics ∧
      ∃ remoteHosts err, last.main = .returned remoteHosts err := by
    refine exists_end _ _ (RunState.weight d outgoingNics) ?_ ?_ ?_ RunState.Inv.init
    · exact fun s _ next inv taken => inv.moves (runStep_moves taken)
    · exact fun s _ next inv taken => inv.lowers (runStep_moves taken)
    · intro s inv
      by_cases ended : ∃ remoteHosts err, s.main = .returned remoteHosts err
      · exact Or.inl ended
      · exact Or.inr (inv.progress fun remoteHosts err returned =>
          ended ⟨remoteHosts, err, returned⟩)
  obtain ⟨s, reach, -, remoteHosts, err, returned⟩ := ends
  exact ⟨s, remoteHosts, err, reach, returned⟩

end Steps

/-! ### A check with reporters -/

/-- Reports every address. -/
def plainChecker : Checker String := ⟨remoteIPFeature, fun _ a => some a.remoteIPAddress, id⟩

/-- Reports every address from every NIC but the loopback. -/
def perNicChecker : Checker String where
  features := remoteIPFeature ||| outgoingNicFeature
  check _ a :=
    if a.outgoingNIC.name = "lo" then none else some (a.outgoingNIC.name ++ " " ++ a.remoteIPAddress)
  finalize := id

def sampleRunner : Runner String where
  checkers := [plainChecker, perNicChecker]
  report text host := (⟨host.hostID, host.l2Connectivity, host.l3Connectivity ++ [⟨0, "", 0, text, true⟩],
    host.mtuReport⟩, none)

def sampleHosts : List CheckHost := [⟨"a", [⟨["10.0.0.1/24", "", "10.0.0.2/24"], "", "eth7"⟩]⟩]

def sampleNics : List OutgoingNic := [⟨1500, "lo", true, true, []⟩, ⟨1500, "eth0", true, false, []⟩]

theorem check_of_mem_requested {checkHost : CheckHost} {outgoingNics : List OutgoingNic}
    {c : Checker String} {a : Attributes}
    (member : (c, a) ∈ requested sampleRunner checkHost outgoingNics) (id : CallId) :
    c.check id a = c.check (0, 0) a := by
  obtain ⟨c', checker, inside⟩ := List.mem_flatMap.mp member
  have same : c = c' := by
    obtain ⟨⟨remoteNic, ip⟩, -, made⟩ := List.mem_flatMap.mp inside
    simp only at made
    split at made
    · obtain ⟨nic, -, pair⟩ := List.mem_map.mp made
      exact (congrArg Prod.fst pair).symm
    · exact congrArg Prod.fst (List.mem_singleton.mp made)
  subst same
  rcases List.mem_cons.mp checker with rfl | checker
  · rfl
  · rw [List.mem_singleton.mp checker]
    rfl

/-- A run of six calls, four of which have a reporter. -/
theorem run_collects_once_sample :
    ∃ s remoteHosts err h, Reachable (ofPartial (RunState.step sampleRunner sampleHosts sampleNics))
      (RunState.init sampleHosts) s ∧ s.main = .returned remoteHosts err ∧ s.hosts[0]? = some h ∧
      h.checked.length = 6 ∧
      (reporters h.log).Perm ["10.0.0.1", "10.0.0.2", "eth0 10.0.0.1", "eth0 10.0.0.2"] := by
  obtain ⟨s, remoteHosts, err, reach, returned⟩ := exists_returned sampleRunner sampleHosts sampleNics
  obtain ⟨-, -, hosts⟩ :=
    (run_collects_once sampleRunner sampleHosts sampleNics).2.2.2 s remoteHosts err reach returned
  obtain ⟨h, here, collected⟩ := hosts 0 _ rfl
  refine ⟨s, remoteHosts, err, h, reach, returned, here, ?_, ?_⟩
  · have count := collected.requested.length_eq
    rw [List.length_map] at count
    rw [count]
    decide
  · have values : h.checked.filterMap (·.reporter) =
        (h.checked.map fun e => (e.call.checker, e.call.attributes)).filterMap
          fun call => call.1.check (0, 0) call.2 := by
      rw [List.filterMap_map]
      refine List.filterMap_congr fun e made => (collected.answers e made).trans ?_
      exact check_of_mem_requested (collected.requested.subset (List.mem_map_of_mem made)) _
    have run := collected.reporters
    rw [values] at run
    exact run.trans (collected.requested.filterMap _)

end AssistedAgent.Connectivity
