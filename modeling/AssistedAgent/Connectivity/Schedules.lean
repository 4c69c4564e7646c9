/-
**Every completion order has an interleaving.**

**`returns_of_orders`** — for every choice, for each host, of an order of its calls there is an
interleaving of the whole check in which the calls of each host are completed, and their reporters
run, in that order.

The interleaving starts the hosts one after the other. Each spawns its workers, lets them run one at
a time in the order chosen (`call_completes`, `calls_complete`), closes the channel and finalizes
(`host_ends`); how the check ends after that makes no difference to the hosts.
-/

import AssistedAgent.Connectivity.Runner

namespace AssistedAgent.Connectivity

open Multierror Transition StableSort

variable {R : Type} {d : Runner R}

/-! ### One worker -/

section Worker

variable {s : HostState R} {before after : List (Worker R)}

theorem split_getElem? (before after : List (Worker R)) (w : Worker R) :
    (before ++ w :: after)[before.length]? = some w := by
  simp

theorem split_set (before after : List (Worker R)) (w v : Worker R) :
    (before ++ w :: after).set before.length v = before ++ v :: after := by
  simp

theorem work_checking {call : Call R} (at_ : s.workers = before ++ .checking call :: after) :
    s.work before.length =
      some { s with
        workers := before ++ (match call.result with
          | some r => Worker.sending r
          | none => .finishing) :: after
        checked := s.checked ++ [⟨call, call.result⟩] } := by
  unfold HostState.work
  rw [at_, split_getElem?]
  simp only [split_set]
  cases call.result <;> rfl

theorem work_sending {r : R} (at_ : s.workers = before ++ .sending r :: after)
    (isOpen : s.closed = false) (room : s.reporterChan.length < chanCapacity) :
    s.work before.length =
      some { s with
        workers := before ++ .finishing :: after, reporterChan := s.reporterChan ++ [r] } := by
  unfold HostState.work
  rw [at_, split_getElem?]
  simp only [split_set, isOpen, Bool.false_eq_true, if_false, room, if_true]

theorem work_finishing (at_ : s.workers = before ++ .finishing :: after) (pos : s.wg ≠ 0) :
    s.work before.length =
      some { s with workers := before ++ .finished :: after, wg := s.wg - 1 } := by
  unfold HostState.work
  rw [at_, split_getElem?]
  simp only [split_set, pos, if_false]

theorem process_receive {r : R} {rest : List R} (at_ : s.stage = .collecting)
    (head : s.reporterChan = r :: rest) :
    ∃ next, s.process d = some next ∧ next.stage = .collecting ∧ next.reporterChan = rest ∧
      next.closed = s.closed ∧ next.closer = s.closer ∧ next.workers = s.workers ∧ next.wg = s.wg ∧
      next.log = s.log ++ [.reported r] := by
  unfold HostState.process
  rw [at_]
  simp only [head]
  exact ⟨_, rfl, rfl, rfl, rfl, rfl, rfl, rfl, rfl⟩

end Worker

/-- The state of a host between two calls: the channel is open and empty. -/
structure Ready (s : HostState R) (workers : List (Worker R)) (log : List (Effect R)) : Prop where
  stage : s.stage = .collecting
  chan : s.reporterChan = []
  closed : s.closed = false
  closer : s.closer = .waiting
  workers : s.workers = workers
  log : s.log = log

/-- **One call, from its check to `wg.Done`**, with nothing else in between. -/
theorem call_completes {calls : List (Call R)} {start : RemoteHost} {s : HostState R}
    (inv : s.Inv d calls start) {before after : List (Worker R)} {call : Call R}
    {log : List (Effect R)} (ready : Ready s (before ++ .checking call :: after) log) :
    ∃ last, Reachable (ofPartial (HostState.step d)) s last ∧
      Ready last (before ++ .finished :: after) (log ++ call.result.toList.map .reported) := by
  have running := inv.open_of_running (w := .checking call) (by simp [ready.workers]) rfl
  have first := work_checking ready.workers
  cases result : call.result with
  | none =>
    rw [result] at first
    let checked : HostState R := { s with
      workers := before ++ .finishing :: after, checked := s.checked ++ [⟨call, none⟩] }
    have second : checked.work before.length =
        some { checked with workers := before ++ .finished :: after, wg := checked.wg - 1 } :=
      work_finishing rfl running.2
    refine ⟨_, ⟨[.worker before.length, .worker before.length], .cons first (Run.single second)⟩, ?_⟩
    exact ⟨ready.stage, ready.chan, ready.closed, ready.closer, rfl, by simp [checked, ready.log]⟩
  | some r =>
    rw [result] at first
    let checked : HostState R := { s with
      workers := before ++ .sending r :: after, checked := s.checked ++ [⟨call, some r⟩] }
    have room : checked.reporterChan.length < chanCapacity := by
      show s.reporterChan.length < chanCapacity
      rw [ready.chan]
      exact (by decide : 0 < chanCapacity)
    have second := work_sending (s := checked) rfl running.1 room
    let sent : HostState R :=
      { checked with workers := before ++ .finishing :: after, reporterChan := s.reporterChan ++ [r] }
    have head : sent.reporterChan = [r] := by
      show s.reporterChan ++ [r] = [r]
      rw [ready.chan, List.nil_append]
    obtain ⟨received, third, stage, chan, closed, closer, workers, wg, log'⟩ :=
      process_receive (d := d) (s := sent) ready.stage head
    have fourth : received.work before.length =
        some { received with workers := before ++ .finished :: after, wg := received.wg - 1 } :=
      work_finishing workers (by rw [wg]; exact running.2)
    refine ⟨_, ⟨[.worker before.length, .worker before.length, .process, .worker before.length],
      .cons first (.cons second (.cons third (Run.single fourth)))⟩, ?_⟩
    refine ⟨stage, chan, closed.trans ready.closed, closer.trans ready.closer, rfl, ?_⟩
    show received.log = _
    rw [log', ← ready.log]
    rfl

/-! ### The workers of a host -/

/-- A worker is at its beginning or at its end. -/
def Worker.resting : Worker R → Prop
  | .checking _ => True
  | .sending _ => False
  | .finishing => False
  | .finished => True

/-- **The calls of a host, one at a time in any order.** -/
theorem calls_complete {calls : List (Call R)} {start : RemoteHost} :
    ∀ (order : List (Call R)) (s : HostState R) (workers : List (Worker R)) (log : List (Effect R)),
      s.Inv d calls start → Ready s workers log → (∀ w ∈ workers, w.resting) →
      order.Perm (workers.filterMap Worker.call) →
      ∃ last, Reachable (ofPartial (HostState.step d)) s last ∧
        Ready last last.workers (log ++ (order.filterMap Call.result).map .reported) ∧
        ∀ w ∈ last.workers, w = .finished := by
  intro order
  induction order with
  | nil =>
    intro s workers log inv ready resting perm
    refine ⟨s, Reachable.refl s, ?_, ?_⟩
    · exact ⟨ready.stage, ready.chan, ready.closed, ready.closer, rfl, by simpa using ready.log⟩
    · have none := List.filterMap_eq_nil_iff.mp (List.nil_perm.mp perm)
      intro w member
      rw [ready.workers] at member
      have made := none w member
      have rests := resting w member
      cases w with
      | checking call => cases made
      | sending r => cases rests
      | finishing => cases rests
      | finished => rfl
  | cons call order ih =>
    intro s workers log inv ready resting perm
    have member : call ∈ workers.filterMap Worker.call := perm.subset List.mem_cons_self
    obtain ⟨w, inside, made⟩ := List.mem_filterMap.mp member
    obtain rfl : w = .checking call := by
      cases w <;> simp_all [Worker.call]
    obtain ⟨before, after, rfl⟩ := List.append_of_mem inside
    obtain ⟨next, reach, ready'⟩ := call_completes inv ready
    have inv' : next.Inv d calls start := reach.invariant inv fun _ _ _ inv taken => inv.step taken
    have perm' : order.Perm ((before ++ .finished :: after).filterMap Worker.call) := by
      rw [List.filterMap_append, filterMap_cons_toList] at perm ⊢
      exact (perm.trans List.perm_middle).cons_inv
    have resting' : ∀ w ∈ before ++ .finished :: after, w.resting := by
      intro w member
      rcases List.mem_append.mp member with old | last
      · exact resting w (List.mem_append_left _ old)
      · rcases List.mem_cons.mp last with rfl | old
        · trivial
        · exact resting w (List.mem_append_right _ (List.mem_cons_of_mem _ old))
    obtain ⟨last, ⟨labels, run⟩, ready'', finished⟩ := ih next _ _ inv' ready' resting' perm'
    refine ⟨last, reach.trans run, ?_, finished⟩
    rw [filterMap_cons_toList, List.map_append, ← List.append_assoc]
    exact ready''

/-! ### A host from its beginning to its end -/

/-- The loops of `ProcessHost` to their end. -/
theorem host_spawns :
    ∀ (rest : List (Call R)) (s : HostState R), s.stage = .spawning rest →
      ∃ last, Reachable (ofPartial (HostState.step d)) s last ∧ last.stage = .collecting ∧
        last.reporterChan = s.reporterChan ∧ last.closed = s.closed ∧ last.closer = .waiting ∧
        last.workers = s.workers ++ rest.map .checking ∧ last.log = s.log := by
  intro rest
  induction rest with
  | nil =>
    intro s at_
    have taken : s.process d = some { s with stage := .collecting, closer := .waiting } := by
      unfold HostState.process
      rw [at_]
    exact ⟨_, ⟨[.process], Run.single taken⟩, rfl, rfl, rfl, rfl, by simp, rfl⟩
  | cons call rest ih =>
    intro s at_
    have taken : s.process d = some { s with
        stage := .spawning rest, wg := s.wg + 1, workers := s.workers ++ [.checking call] } := by
      unfold HostState.process
      rw [at_]
    obtain ⟨last, ⟨labels, run⟩, stage, chan, closed, closer, workers, log⟩ :=
      ih { s with stage := .spawning rest, wg := s.wg + 1, workers := s.workers ++ [.checking call] } rfl
    refine ⟨last, ⟨.process :: labels, .cons taken run⟩, stage, chan, closed, closer, ?_, log⟩
    rw [workers, List.append_assoc]
    rfl

/-- The finalizers to their end. -/
theorem host_finalizes :
    ∀ (rest : List (Checker R)) (s : HostState R), s.stage = .finalizing rest →
      ∃ last, Reachable (ofPartial (HostState.step d)) s last ∧ last.stage = .finalizing [] ∧
        last.log = s.log ++ rest.map .finalized := by
  intro rest
  induction rest with
  | nil => exact fun s at_ => ⟨s, Reachable.refl s, at_, by simp⟩
  | cons c rest ih =>
    intro s at_
    let next : HostState R := { s with
      stage := .finalizing rest
      resultingHost := c.finalize s.resultingHost
      log := s.log ++ [.finalized c] }
    have taken : s.process d = some next := by
      unfold HostState.process
      rw [at_]
    obtain ⟨last, ⟨labels, run⟩, stage, log⟩ := ih next rfl
    refine ⟨last, ⟨.process :: labels, .cons taken run⟩, stage, ?_⟩
    rw [log, List.append_assoc]
    rfl

/-- What is done to a host whose calls complete in the order given. -/
def logOf (d : Runner R) (order : List (Call R)) : List (Effect R) :=
  (order.filterMap Call.result).map .reported ++ d.checkers.map .finalized

/-- The channel is closed and left once all workers have finished. -/
theorem host_closes {calls : List (Call R)} {start : RemoteHost} {s : HostState R}
    (inv : s.Inv d calls start) {log : List (Effect R)} (ready : Ready s s.workers log)
    (finished : ∀ w ∈ s.workers, w = .finished) :
    ∃ last, Reachable (ofPartial (HostState.step d)) s last ∧ last.stage = .finalizing d.checkers ∧
      last.log = log := by
  have zero : s.wg = 0 := by
    rw [inv.count, List.countP_eq_zero]
    intro w member
    simp [finished w member]
  let woken : HostState R := { s with closer := .woken }
  let closed : HostState R := { woken with closed := true, closer := .finished }
  have wake : s.close = some woken := by
    unfold HostState.close
    rw [ready.closer]
    exact if_pos zero
  have close : woken.close = some closed := by
    unfold HostState.close
    simp only [woken, ready.closed, Bool.false_eq_true, if_false]
    rfl
  have leave : closed.process d = some { closed with stage := .finalizing d.checkers } := by
    unfold HostState.process
    simp only [closed, woken, ready.stage, ready.chan, if_true]
  exact ⟨_, ⟨[.closer, .closer, .process], .cons wake (.cons close (Run.single leave))⟩, rfl,
    ready.log⟩

/-- **A host in any completion order.** -/
theorem host_ends {calls order : List (Call R)} (perm : order.Perm calls) (checkHost : CheckHost) :
    ∃ last, Reachable (ofPartial (HostState.step d)) (HostState.init calls checkHost) last ∧
      last.stage = .finalizing [] ∧ last.log = logOf d order := by
  have inv := HostState.Inv.init d calls checkHost
  obtain ⟨first, reach, stage, chan, closed, closer, workers, log⟩ :=
    host_spawns (d := d) calls (HostState.init calls checkHost) rfl
  have inv₁ := reach.invariant inv fun _ _ _ inv taken => inv.step taken
  have made : (calls.map Worker.checking).filterMap Worker.call = calls := by
    rw [List.filterMap_map]
    exact List.filterMap_some
  obtain ⟨second, ⟨labels₂, run₂⟩, ready₂, finished⟩ :=
    calls_complete order first (calls.map .checking) [] inv₁
      ⟨stage, chan, closed, closer, workers, log⟩ (by simp [Worker.resting]) (by rwa [made])
  have inv₂ := run₂.invariant inv₁ fun _ _ _ inv taken => inv.step taken
  obtain ⟨third, ⟨labels₃, run₃⟩, stage₃, log₃⟩ := host_closes inv₂ ready₂ finished
  obtain ⟨last, ⟨labels₄, run₄⟩, stage₄, log₄⟩ := host_finalizes d.checkers third stage₃
  refine ⟨last, ((reach.trans run₂).trans run₃).trans run₄, stage₄, ?_⟩
  rw [log₄, log₃, List.nil_append]
  rfl

/-! ### The whole check -/

section Check

variable {params : List CheckHost} {outgoingNics : List OutgoingNic}

/-- `Run` can return the report. -/
def Returns (d : Runner R) (params : List CheckHost) (outgoingNics : List OutgoingNic)
    (remoteHosts : List RemoteHost) : Prop :=
  ∃ s err, Reachable (ofPartial (RunState.step d params outgoingNics)) (RunState.init params) s ∧
    s.main = .returned remoteHosts err

/-- A run of a host is a run of the check. -/
theorem host_run_lifts {h last : HostState R} {labels : List Thread}
    (run : Run (ofPartial (HostState.step d)) h labels last) {s : RunState R} {i : Nat}
    (at_ : s.hosts[i]? = some h) :
    Reachable (ofPartial (RunState.step d params outgoingNics)) s
      { s with hosts := s.hosts.set i last } := by
  induction run generalizing s with
  | nil h =>
    have same : s.hosts.set i h = s.hosts := by
      obtain ⟨before, after, split, -, replaced⟩ := exists_split at_
      rw [replaced, split]
    rw [same]
    exact Reachable.refl s
  | @cons h next last t labels taken _ ih =>
    have moved : s.step d params outgoingNics (.host i t) =
        some { s with hosts := s.hosts.set i next } := by
      unfold RunState.step
      have taken : h.step d t = some next := taken
      simp only [at_, taken]
    have here : (s.hosts.set i next)[i]? = some next := by
      rw [List.getElem?_set_self', at_]
      rfl
    obtain ⟨rest, run⟩ := ih (s := { s with hosts := s.hosts.set i next }) here
    refine ⟨.host i t :: rest, .cons moved ?_⟩
    simpa using run

/-- What the `i`-th host is when its calls complete in the order given. -/
def finalHost (d : Runner R) (checkHost : CheckHost) (order : List (Call R)) : RemoteHost :=
  (replay d (newHost checkHost) (logOf d order)).1

/-- The hosts have run their finalizers, and are the ones given. -/
def Settled (finals : List RemoteHost) (s : RunState R) : Prop :=
  s.hosts.map (·.resultingHost) = finals ∧
    ∀ h ∈ s.hosts, h.stage = .finalizing [] ∨ h.stage = .returned

/-- Start the hosts one after the other, each to its last finalizer. -/
theorem hosts_settle (order : Nat → List (Call R)) :
    ∀ (rest : List CheckHost) (s : RunState R) (finals : List RemoteHost),
      s.main = .spawning rest → Settled finals s →
      (∀ j checkHost, rest[j]? = some checkHost →
        (order (s.hosts.length + j)).Perm (calls d (s.hosts.length + j) checkHost outgoingNics)) →
      ∃ last, Reachable (ofPartial (RunState.step d params outgoingNics)) s last ∧
        last.main = .spawning [] ∧
        Settled (finals ++ rest.mapIdx fun j checkHost =>
          finalHost d checkHost (order (s.hosts.length + j))) last := by
  intro rest
  induction rest with
  | nil =>
    intro s finals at_ settled _
    exact ⟨s, Reachable.refl s, at_, by simpa using settled⟩
  | cons checkHost rest ih =>
    intro s finals at_ settled perm
    have first := perm 0 checkHost rfl
    obtain ⟨h, ⟨labels, run⟩, stage, log⟩ := host_ends (d := d) first checkHost
    have inv := run.invariant (HostState.Inv.init d _ checkHost) fun _ _ _ inv taken => inv.step taken
    have final : h.resultingHost = finalHost d checkHost (order s.hosts.length) := by
      obtain ⟨errors, replayed, -⟩ := inv.replayed
      rw [log] at replayed
      rw [finalHost, show order s.hosts.length = order (s.hosts.length + 0) from rfl, replayed]
    let begun : RunState R := { s with
      main := .spawning rest
      hosts := s.hosts ++ [HostState.init (calls d s.hosts.length checkHost outgoingNics) checkHost] }
    have spawn : s.step d params outgoingNics .main = some begun := by
      unfold RunState.step RunState.stepMain
      rw [at_]
    have lifted : Reachable (ofPartial (RunState.step d params outgoingNics)) begun
        { begun with hosts := begun.hosts.set s.hosts.length h } :=
      host_run_lifts run (by simp [begun])
    obtain ⟨labels', run'⟩ := lifted
    have ended : begun.hosts.set s.hosts.length h = s.hosts ++ [h] := by
      simp [begun]
    rw [ended] at run'
    have settled' : Settled (finals ++ [finalHost d checkHost (order s.hosts.length)])
        { begun with hosts := s.hosts ++ [h] } := by
      refine ⟨?_, ?_⟩
      · simp [settled.1, final]
      · intro k member
        rcases List.mem_append.mp member with old | new
        · exact settled.2 k old
        · rw [List.mem_singleton.mp new]
          exact Or.inl stage
    have length : ({ begun with hosts := s.hosts ++ [h] } : RunState R).hosts.length =
        s.hosts.length + 1 := by simp
    have shift : ∀ j, s.hosts.length + 1 + j = s.hosts.length + (j + 1) := fun j => by omega
    obtain ⟨last, ⟨rest', run''⟩, main, settled''⟩ := ih { begun with hosts := s.hosts ++ [h] }
      _ rfl settled' (by
        intro j other here
        rw [length, shift]
        exact perm (j + 1) other here)
    refine ⟨last, ⟨.main :: (labels' ++ rest'), .cons spawn (run'.append run'')⟩, main, ?_⟩
    simp only [length, shift, List.append_assoc, List.singleton_append] at settled''
    rw [List.mapIdx_cons]
    exact settled''

/-- A host that has run its finalizers stays as it is. -/
theorem Moves.settled {h next : HostState R} (taken : Moves d h next)
    (settled : h.stage = .finalizing [] ∨ h.stage = .returned) :
    next.stage = h.stage ∧ next.resultingHost = h.resultingHost := by
  cases taken <;> simp_all

theorem Settled.set {finals : List RemoteHost} {s : RunState R} (settled : Settled finals s) {i : Nat}
    {h next : HostState R} (at_ : s.hosts[i]? = some h)
    (stage : next.stage = .finalizing [] ∨ next.stage = .returned)
    (same : next.resultingHost = h.resultingHost) :
    (s.hosts.set i next).map (·.resultingHost) = finals ∧
      ∀ k ∈ s.hosts.set i next, k.stage = .finalizing [] ∨ k.stage = .returned := by
  obtain ⟨before, after, split, -, replaced⟩ := exists_split at_
  have finals' := settled.1
  rw [split] at finals'
  refine ⟨?_, fun k member => ?_⟩
  · rw [replaced]
    simpa [same] using finals'
  · rcases List.mem_or_eq_of_mem_set member with old | rfl
    · exact settled.2 k old
    · exact stage

/-- Nothing that happens once all hosts have run their finalizers changes them. -/
theorem Settled.moves {finals : List RemoteHost} {s next : RunState R}
    (settled : Settled finals s) (inv : s.Inv d params outgoingNics)
    (all : s.hosts.length = params.length) (taken : RunMoves d params outgoingNics s next) :
    Settled finals next ∧ next.hosts.length = params.length := by
  cases taken with
  | @spawn checkHost rest at_ =>
    have main := inv.main
    unfold RunState.MainInv at main
    rw [at_] at main
    have none := main.2.1
    rw [all, List.drop_length] at none
    cases none
  | start at_ => exact ⟨settled, all⟩
  | ret at_ => exact ⟨settled, all⟩
  | receive at_ head => exact ⟨settled, all⟩
  | @host i h moved at_ taken =>
    have same := taken.settled (settled.2 h (List.mem_of_getElem? at_))
    refine ⟨settled.set at_ ?_ same.2, ?_⟩
    · rw [same.1]
      exact settled.2 h (List.mem_of_getElem? at_)
    · rwa [List.length_set]
  | result at_ last =>
    refine ⟨settled.set at_ (Or.inr rfl) rfl, ?_⟩
    rwa [List.length_set]

/-- **Every completion order has an interleaving.** -/
theorem returns_of_orders (order : Nat → List (Call R))
    (perm : ∀ i checkHost, params[i]? = some checkHost →
      (order i).Perm (calls d i checkHost outgoingNics)) :
    ∃ remoteHosts, Returns d params outgoingNics remoteHosts ∧
      remoteHosts.Perm (params.mapIdx fun i checkHost => finalHost d checkHost (order i)) := by
  have begin_ : Settled [] (RunState.init params : RunState R) := ⟨rfl, by simp [RunState.init]⟩
  have settles : ∃ last, Reachable (ofPartial (RunState.step d params outgoingNics))
      (RunState.init params) last ∧ last.main = .spawning [] ∧
      Settled ([] ++ params.mapIdx fun j checkHost => finalHost d checkHost (order (0 + j))) last :=
    hosts_settle order params (RunState.init params) [] rfl begin_
      (by simpa [RunState.init] using perm)
  obtain ⟨middle, reach, main, settled⟩ := settles
  simp only [Nat.zero_add, List.nil_append] at settled
  have all : middle.hosts.length = params.length := by
    simpa using congrArg List.length settled.1
  -- Any way to the end will do: the hosts no longer change.
  have ends : ∃ last, Reachable (ofPartial (RunState.step d params outgoingNics)) middle last ∧
      (last.Inv d params outgoingNics ∧
        Settled (params.mapIdx fun i checkHost => finalHost d checkHost (order i)) last ∧
        last.hosts.length = params.length) ∧
      ∃ remoteHosts err, last.main = .returned remoteHosts err := by
    refine exists_end _ _ (RunState.weight d outgoingNics) ?_ ?_ ?_
      ⟨reachable_inv reach, settled, all⟩
    · rintro s _ next ⟨inv, settled, all⟩ taken
      exact ⟨inv.moves (runStep_moves taken), settled.moves inv all (runStep_moves taken)⟩
    · rintro s _ next ⟨inv, -, -⟩ taken
      exact inv.lowers (runStep_moves taken)
    · rintro s ⟨inv, -, -⟩
      by_cases ended : ∃ remoteHosts err, s.main = .returned remoteHosts err
      · exact Or.inl ended
      · exact Or.inr (inv.progress fun remoteHosts err returned =>
          ended ⟨remoteHosts, err, returned⟩)
  obtain ⟨last, ⟨labels, run⟩, ⟨inv, settled', -⟩, remoteHosts, err, returned⟩ := ends
  refine ⟨remoteHosts, ⟨last, err, reach.trans run, returned⟩, ?_⟩
  rw [← settled'.1]
  exact (inv.report returned).2

end Check

end AssistedAgent.Connectivity
