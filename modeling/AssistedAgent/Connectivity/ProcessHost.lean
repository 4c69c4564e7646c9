/-
**The connectivity check of one host: `ProcessHost` and its goroutines.**

`ProcessHost` spawns one goroutine per call of a checker, collects their reporters over a channel of
capacity 10, and finalizes. Its state is that of the goroutines it consists of, a label of a step is
the goroutine that takes it:

* `process` — `ProcessHost` itself: the loops that spawn, the start of the closer, the `range` over
  the channel, the finalizers;
* `worker i` — the `i`-th goroutine of `spawnChecker`: the call of `Check`, the send, `wg.Done`;
* `closer` — `wg.Wait` and `close`.

A send on a closed channel, a second `close` and a negative wait group set `panicked`.

* **`HostState.Inv`** links the wait group to the running workers, the calls of `Check` made to those
  asked for, and the reporters run, in the channel and outstanding to what the calls returned; every
  step keeps it (`Inv.step`).
* `step_lowers` — a measure every step lowers; `Inv.progress` — a host that is not finished can move.
* **`Inv.collected`** — at the end every call has been made, once, and the reporters run are, as a
  multiset, the non-nil values that these calls returned.
-/

import AssistedAgent.Lib.GoNet
import AssistedAgent.Lib.Multierror
import AssistedAgent.Lib.Transition
import Mathlib.Algebra.BigOperators.Group.List.Basic

namespace AssistedAgent.Connectivity

open GoNet Multierror Transition

abbrev Error := GoError String

/-! ### Hosts and attributes -/

/-- A `float64`, by its bits. -/
abbrev Float64 := UInt64

/-- `models.L2Connectivity`. -/
structure L2Connectivity where
  outgoingIPAddress : String
  outgoingNic : String
  remoteIPAddress : String
  remoteMac : String
  successful : Bool
deriving DecidableEq, Repr

/-- `models.L3Connectivity`. -/
structure L3Connectivity where
  averageRTTMs : Float64
  outgoingNic : String
  packetLossPercentage : Float64
  remoteIPAddress : String
  successful : Bool
deriving DecidableEq, Repr

/-- `models.MtuReport`. -/
structure MtuReport where
  mtuSuccessful : Bool
  outgoingNic : String
  remoteIPAddress : String
deriving DecidableEq, Repr

/-- `models.ConnectivityRemoteHost`. -/
structure RemoteHost where
  hostID : String
  l2Connectivity : List L2Connectivity
  l3Connectivity : List L3Connectivity
  mtuReport : List MtuReport
deriving DecidableEq, Repr

/-- `models.ConnectivityCheckNic`. -/
structure CheckNic where
  ipAddresses : List String
  mac : String
  name : String
deriving DecidableEq, Repr

/-- `models.ConnectivityCheckHost`. -/
structure CheckHost where
  hostID : String
  nics : List CheckNic
deriving DecidableEq, Repr

/-- A `net.Addr`: an `*net.IPNet`, or a value of another type with its text. -/
inductive NetAddr
  | ipNet (net : IPNet)
  | other (text : String)
deriving DecidableEq, Repr

structure OutgoingNic where
  mtu : Int
  name : String
  hasIpv4Addresses : Bool
  hasIpv6Addresses : Bool
  addresses : List NetAddr
deriving DecidableEq, Repr

/-- `OutgoingNic{}`, the value of an attribute that is not set. -/
def OutgoingNic.zero : OutgoingNic := ⟨0, "", false, false, []⟩

structure Attributes where
  remoteIPAddress : String
  remoteMACAddress : String
  outgoingNIC : OutgoingNic
  remoteMACAddresses : List String
deriving DecidableEq, Repr

/-! ### Checkers and their calls -/

def remoteIPFeature : Nat := 1

def outgoingNicFeature : Nat := 2

def remoteMACFeature : Nat := 4

/-- Which call of `Check` it is: the position of the host and of the call in the host's loops. -/
abbrev CallId := Nat × Nat

/-- A checker with reporters in `R`. What a call of `Check` returns may depend on the call; `none`
is the nil reporter. -/
structure Checker (R : Type) where
  features : Nat
  check : CallId → Attributes → Option R
  finalize : RemoteHost → RemoteHost

/-- `connectivityRunner`, with what `Report` does on the host and the error it returns. -/
structure Runner (R : Type) where
  checkers : List (Checker R)
  report : R → RemoteHost → RemoteHost × Option Error

variable {R : Type}

/-- `c.Features()&OutgoingNicFeature != 0`. -/
def Checker.usesOutgoingNic (c : Checker R) : Bool := c.features &&& outgoingNicFeature ≠ 0

/-- One call of the function that `spawnChecker` returns. -/
structure Call (R : Type) where
  id : CallId
  checker : Checker R
  attributes : Attributes

def Call.result (c : Call R) : Option R := c.checker.check c.id c.attributes

def getIPAddressFromCIDR (cidr : String) : String :=
  match cidr.toList.splitOn '/' with
  | part :: _ => String.ofList part
  | [] => ""

def getAllMacAddresses (checkHost : CheckHost) : List String := checkHost.nics.map (·.mac)

/-- The calls of the loops of `ProcessHost`, in order. -/
def spawned (d : Runner R) (checkHost : CheckHost) (outgoingNics : List OutgoingNic) :
    List (Checker R × Attributes) :=
  checkHost.nics.flatMap fun remoteNic =>
    remoteNic.ipAddresses.flatMap fun cidr =>
      let ipAddress := getIPAddressFromCIDR cidr
      if ipAddress = "" then []
      else
        (outgoingNics.flatMap fun outgoingNIC =>
          (d.checkers.filter (·.usesOutgoingNic)).map fun c =>
            (c, ⟨ipAddress, remoteNic.mac, outgoingNIC, getAllMacAddresses checkHost⟩)) ++
        (d.checkers.filter (! ·.usesOutgoingNic)).map fun c =>
          (c, ⟨ipAddress, remoteNic.mac, OutgoingNic.zero, getAllMacAddresses checkHost⟩)

/-- The calls for the host at position `h`, numbered. -/
def calls (d : Runner R) (h : Nat) (checkHost : CheckHost) (outgoingNics : List OutgoingNic) :
    List (Call R) :=
  (spawned d checkHost outgoingNics).mapIdx fun i (c, attributes) => ⟨(h, i), c, attributes⟩

/-- The non-empty addresses of the remote NICs. -/
def remoteAddresses (checkHost : CheckHost) : List (CheckNic × String) :=
  checkHost.nics.flatMap fun remoteNic =>
    ((remoteNic.ipAddresses.map getIPAddressFromCIDR).filter (· ≠ "")).map fun ip => (remoteNic, ip)

/-- What is asked for, checker by checker: a checker that uses outgoing NICs once for every address
and outgoing NIC, any other one once for every address. -/
def requested (d : Runner R) (checkHost : CheckHost) (outgoingNics : List OutgoingNic) :
    List (Checker R × Attributes) :=
  d.checkers.flatMap fun c =>
    (remoteAddresses checkHost).flatMap fun (remoteNic, ip) =>
      if c.usesOutgoingNic then
        outgoingNics.map fun nic => (c, ⟨ip, remoteNic.mac, nic, getAllMacAddresses checkHost⟩)
      else [(c, ⟨ip, remoteNic.mac, OutgoingNic.zero, getAllMacAddresses checkHost⟩)]

theorem flatMap_swap {α β γ : Type} (l : List α) (m : List β) (f : α → β → List γ) :
    (l.flatMap fun a => m.flatMap (f a)).Perm (m.flatMap fun b => l.flatMap fun a => f a b) := by
  induction l with
  | nil => simp
  | cons a l ih =>
    simp only [List.flatMap_cons]
    exact (ih.append_left _).trans (List.flatMap_append_perm m _ _)

theorem flatMap_filter_eq {α β : Type} (p : α → Bool) (l : List α) (f : α → List β) :
    (l.filter p).flatMap f = l.flatMap fun a => if p a then f a else [] := by
  induction l with
  | nil => rfl
  | cons a l ih => cases here : p a <;> simp [here, ih]

/-- The two filtered loops over the checkers are one loop that asks for the feature. -/
theorem loops_perm {α β γ : Type} (checkers : List α) (p : α → Bool) (nics : List β)
    (outgoing : β → α → γ) (plain : α → γ) :
    ((nics.flatMap fun nic => (checkers.filter p).map (outgoing nic)) ++
        (checkers.filter (! p ·)).map plain).Perm
      (checkers.flatMap fun c => if p c then nics.map (outgoing · c) else [plain c]) := by
  have first : (nics.flatMap fun nic => (checkers.filter p).map (outgoing nic)).Perm
      (checkers.flatMap fun c => if p c then nics.map (outgoing · c) else []) := by
    rw [← flatMap_filter_eq]
    simp only [List.map_eq_flatMap]
    exact flatMap_swap nics (checkers.filter p) fun nic c => [outgoing nic c]
  have second : (checkers.filter (! p ·)).map plain =
      checkers.flatMap fun c => if (! p c) then [plain c] else [] := by
    rw [← flatMap_filter_eq, List.map_eq_flatMap]
  rw [second]
  refine (first.append_right _).trans ((List.flatMap_append_perm checkers _ _).trans ?_)
  refine List.Perm.of_eq (congrArg (checkers.flatMap ·) ?_)
  funext c
  cases p c <;> simp

/-- **The loops of `ProcessHost` make exactly the calls asked for.** -/
theorem spawned_perm_requested (d : Runner R) (checkHost : CheckHost)
    (outgoingNics : List OutgoingNic) :
    (spawned d checkHost outgoingNics).Perm (requested d checkHost outgoingNics) := by
  have blocks : spawned d checkHost outgoingNics =
      (remoteAddresses checkHost).flatMap fun (remoteNic, ip) =>
        (outgoingNics.flatMap fun outgoingNIC =>
          (d.checkers.filter (·.usesOutgoingNic)).map fun c =>
            (c, ⟨ip, remoteNic.mac, outgoingNIC, getAllMacAddresses checkHost⟩)) ++
        (d.checkers.filter (! ·.usesOutgoingNic)).map fun c =>
          (c, ⟨ip, remoteNic.mac, OutgoingNic.zero, getAllMacAddresses checkHost⟩) := by
    rw [spawned, remoteAddresses, List.flatMap_assoc]
    refine congrArg (checkHost.nics.flatMap ·) ?_
    funext remoteNic
    rw [List.flatMap_map, flatMap_filter_eq, List.flatMap_map]
    refine congrArg (remoteNic.ipAddresses.flatMap ·) ?_
    funext cidr
    by_cases empty : getIPAddressFromCIDR cidr = "" <;> simp [empty]
  rw [blocks, requested]
  refine List.Perm.trans ?_ (flatMap_swap _ _ _)
  refine List.Perm.flatMap_left _ fun address _ => ?_
  exact loops_perm _ _ _ _ _

/-! ### The goroutines of a host -/

/-- A goroutine of `spawnChecker`. -/
inductive Worker (R : Type)
  | checking (call : Call R)
  | sending (reporter : R)
  | finishing
  | finished

/-- The call a worker has still to make. -/
@[simp] def Worker.call : Worker R → Option (Call R)
  | .checking call => some call
  | .sending _ => none
  | .finishing => none
  | .finished => none

/-- A call of `Check` that has been made, and the reporter it returned. -/
structure Checked (R : Type) where
  call : Call R
  reporter : Option R

/-- The goroutine that closes the channel. -/
inductive Closer
  | absent
  | waiting
  | woken
  | finished
deriving DecidableEq

/-- Where `ProcessHost` is. -/
inductive Stage (R : Type)
  | spawning (rest : List (Call R))
  | collecting
  | finalizing (rest : List (Checker R))
  | returned

/-- What has been done to `resultingHost`. -/
inductive Effect (R : Type)
  | reported (reporter : R)
  | finalized (checker : Checker R)

structure HostState (R : Type) where
  stage : Stage R
  workers : List (Worker R)
  wg : Nat
  reporterChan : List R
  closed : Bool
  closer : Closer
  resultingHost : RemoteHost
  err : Option Error
  /-- The calls of `Check` made, in order. -/
  checked : List (Checked R)
  /-- What has been done to `resultingHost`, in order. -/
  log : List (Effect R)
  panicked : Bool

/-- The goroutines of a host. -/
inductive Thread
  | process
  | worker (i : Nat)
  | closer
deriving DecidableEq

def chanCapacity : Nat := 10

/-- `resultingHost` at the start. -/
def newHost (checkHost : CheckHost) : RemoteHost := ⟨checkHost.hostID, [], [], []⟩

def HostState.init (calls : List (Call R)) (checkHost : CheckHost) : HostState R :=
  ⟨.spawning calls, [], 0, [], false, .absent, newHost checkHost, none, [], [], false⟩

/-- The next step of `ProcessHost`. The deferred send of the result is a step of `Run`. -/
def HostState.process (d : Runner R) (s : HostState R) : Option (HostState R) :=
  match s.stage with
  | .spawning (call :: rest) =>
    some { s with stage := .spawning rest, wg := s.wg + 1, workers := s.workers ++ [.checking call] }
  | .spawning [] => some { s with stage := .collecting, closer := .waiting }
  | .collecting =>
    match s.reporterChan with
    | r :: rest =>
      let (host, e) := d.report r s.resultingHost
      some { s with
        reporterChan := rest
        resultingHost := host
        err := match e with
          | some e => some (GoError.append s.err [e])
          | none => s.err
        log := s.log ++ [.reported r] }
    | [] => if s.closed then some { s with stage := .finalizing d.checkers } else none
  | .finalizing (c :: rest) =>
    some { s with
      stage := .finalizing rest
      resultingHost := c.finalize s.resultingHost
      log := s.log ++ [.finalized c] }
  | .finalizing [] => none
  | .returned => none

/-- The next step of the `i`-th worker. -/
def HostState.work (s : HostState R) (i : Nat) : Option (HostState R) :=
  match s.workers[i]? with
  | some (.checking call) =>
    let checked := s.checked ++ [⟨call, call.result⟩]
    match call.result with
    | some r => some { s with workers := s.workers.set i (.sending r), checked }
    | none => some { s with workers := s.workers.set i .finishing, checked }
  | some (.sending r) =>
    if s.closed then some { s with panicked := true }
    else if s.reporterChan.length < chanCapacity then
      some { s with workers := s.workers.set i .finishing, reporterChan := s.reporterChan ++ [r] }
    else none
  | some .finishing =>
    if s.wg = 0 then some { s with panicked := true }
    else some { s with workers := s.workers.set i .finished, wg := s.wg - 1 }
  | some .finished => none
  | none => none

/-- The next step of the closer. -/
def HostState.close (s : HostState R) : Option (HostState R) :=
  match s.closer with
  | .absent => none
  | .waiting => if s.wg = 0 then some { s with closer := .woken } else none
  | .woken =>
    if s.closed then some { s with panicked := true }
    else some { s with closed := true, closer := .finished }
  | .finished => none

def HostState.step (d : Runner R) (s : HostState R) : Thread → Option (HostState R)
  | .process => s.process d
  | .worker i => s.work i
  | .closer => s.close

/-! ### What a step does -/

/-- The steps of a host, by the statement that is run. -/
inductive Moves (d : Runner R) (s : HostState R) : HostState R → Prop
  | spawn {call : Call R} {rest : List (Call R)} (at_ : s.stage = .spawning (call :: rest)) :
      Moves d s { s with
        stage := .spawning rest, wg := s.wg + 1, workers := s.workers ++ [.checking call] }
  | start (at_ : s.stage = .spawning []) :
      Moves d s { s with stage := .collecting, closer := .waiting }
  | receive {r : R} {rest : List R} (at_ : s.stage = .collecting) (head : s.reporterChan = r :: rest) :
      Moves d s { s with
        reporterChan := rest
        resultingHost := (d.report r s.resultingHost).1
        err := GoError.collect s.err (d.report r s.resultingHost).2.toList
        log := s.log ++ [.reported r] }
  | leave (at_ : s.stage = .collecting) (empty : s.reporterChan = []) (closed : s.closed = true) :
      Moves d s { s with stage := .finalizing d.checkers }
  | finalize {c : Checker R} {rest : List (Checker R)} (at_ : s.stage = .finalizing (c :: rest)) :
      Moves d s { s with
        stage := .finalizing rest
        resultingHost := c.finalize s.resultingHost
        log := s.log ++ [.finalized c] }
  | check {before after : List (Worker R)} {call : Call R} {r : R}
      (at_ : s.workers = before ++ .checking call :: after) (result : call.result = some r) :
      Moves d s { s with
        workers := before ++ .sending r :: after, checked := s.checked ++ [⟨call, some r⟩] }
  | skip {before after : List (Worker R)} {call : Call R}
      (at_ : s.workers = before ++ .checking call :: after) (result : call.result = none) :
      Moves d s { s with
        workers := before ++ .finishing :: after, checked := s.checked ++ [⟨call, none⟩] }
  | send {before after : List (Worker R)} {r : R} (at_ : s.workers = before ++ .sending r :: after)
      (isOpen : s.closed = false) (room : s.reporterChan.length < chanCapacity) :
      Moves d s { s with
        workers := before ++ .finishing :: after, reporterChan := s.reporterChan ++ [r] }
  | sendClosed {before after : List (Worker R)} {r : R}
      (at_ : s.workers = before ++ .sending r :: after) (closed : s.closed = true) :
      Moves d s { s with panicked := true }
  | done {before after : List (Worker R)} (at_ : s.workers = before ++ .finishing :: after)
      (pos : s.wg ≠ 0) :
      Moves d s { s with workers := before ++ .finished :: after, wg := s.wg - 1 }
  | doneZero {before after : List (Worker R)} (at_ : s.workers = before ++ .finishing :: after)
      (zero : s.wg = 0) : Moves d s { s with panicked := true }
  | wake (at_ : s.closer = .waiting) (zero : s.wg = 0) : Moves d s { s with closer := .woken }
  | close (at_ : s.closer = .woken) (isOpen : s.closed = false) :
      Moves d s { s with closed := true, closer := .finished }
  | closeClosed (at_ : s.closer = .woken) (closed : s.closed = true) :
      Moves d s { s with panicked := true }

theorem process_moves {d : Runner R} {s next : HostState R} (taken : s.process d = some next) :
    Moves d s next := by
  unfold HostState.process at taken
  split at taken
  · rename_i stage
    cases taken
    exact .spawn stage
  · rename_i stage
    cases taken
    exact .start stage
  · rename_i stage
    split at taken
    · rename_i chan
      cases taken
      convert Moves.receive stage chan using 2
      cases (d.report _ s.resultingHost).2 <;> rfl
    · rename_i chan
      split at taken
      · rename_i closed
        cases taken
        exact .leave stage chan closed
      · cases taken
  · rename_i stage
    cases taken
    exact .finalize stage
  · cases taken
  · cases taken

theorem work_moves {d : Runner R} {s next : HostState R} {i : Nat} (taken : s.work i = some next) :
    Moves d s next := by
  unfold HostState.work at taken
  split at taken
  · rename_i call here
    obtain ⟨before, after, at_, -, replaced⟩ := exists_split here
    simp only [replaced] at taken
    cases result : call.result with
    | some r =>
      rw [result] at taken
      cases taken
      exact .check at_ result
    | none =>
      rw [result] at taken
      cases taken
      exact .skip at_ result
  · rename_i r here
    obtain ⟨before, after, at_, -, replaced⟩ := exists_split here
    rw [replaced] at taken
    split at taken
    · rename_i closed
      cases taken
      exact .sendClosed at_ closed
    · rename_i isOpen
      split at taken
      · rename_i room
        cases taken
        exact .send at_ (Bool.not_eq_true _ ▸ isOpen) room
      · cases taken
  · rename_i here
    obtain ⟨before, after, at_, -, replaced⟩ := exists_split here
    rw [replaced] at taken
    split at taken
    · rename_i zero
      cases taken
      exact .doneZero at_ zero
    · rename_i pos
      cases taken
      exact .done at_ pos
  · cases taken
  · cases taken

theorem close_moves {d : Runner R} {s next : HostState R} (taken : s.close = some next) :
    Moves d s next := by
  unfold HostState.close at taken
  split at taken
  · cases taken
  · rename_i waiting
    split at taken
    · rename_i zero
      cases taken
      exact .wake waiting zero
    · cases taken
  · rename_i woken
    split at taken
    · rename_i closed
      cases taken
      exact .closeClosed woken closed
    · rename_i isOpen
      cases taken
      exact .close woken (Bool.not_eq_true _ ▸ isOpen)
  · cases taken

theorem step_moves {d : Runner R} {s next : HostState R} {t : Thread}
    (taken : s.step d t = some next) : Moves d s next := by
  cases t with
  | process => exact process_moves taken
  | worker i => exact work_moves taken
  | closer => exact close_moves taken

/-! ### The invariant -/

/-- The reporter a worker has still to send. -/
@[simp] def Worker.outstanding : Worker R → Option R
  | .checking call => call.result
  | .sending r => some r
  | .finishing => none
  | .finished => none

/-- The worker has still to call `wg.Done`. -/
@[simp] def Worker.running : Worker R → Bool
  | .checking _ => true
  | .sending _ => true
  | .finishing => true
  | .finished => false

@[simp] def Stage.unspawned : Stage R → List (Call R)
  | .spawning rest => rest
  | .collecting => []
  | .finalizing _ => []
  | .returned => []

/-- The finalizers still to run. -/
@[simp] def Stage.unfinalized (d : Runner R) : Stage R → List (Checker R)
  | .spawning _ => d.checkers
  | .collecting => d.checkers
  | .finalizing rest => rest
  | .returned => []

@[simp] def Stage.isSpawning : Stage R → Bool
  | .spawning _ => true
  | .collecting => false
  | .finalizing _ => false
  | .returned => false

/-- The `range` over the channel has ended. -/
@[simp] def Stage.hasLeft : Stage R → Bool
  | .spawning _ => false
  | .collecting => false
  | .finalizing _ => true
  | .returned => true

@[simp] def Effect.reporter : Effect R → Option R
  | .reported r => some r
  | .finalized _ => none

/-- The reporters of a log. -/
def reporters (log : List (Effect R)) : List R := log.filterMap Effect.reporter

/-- What an effect does to the host and to the errors returned so far. -/
def Effect.apply (d : Runner R) (state : RemoteHost × List Error) : Effect R → RemoteHost × List Error
  | .reported r => ((d.report r state.1).1, state.2 ++ (d.report r state.1).2.toList)
  | .finalized c => (c.finalize state.1, state.2)

/-- The host after a log, and the errors its reporters have returned. -/
def replay (d : Runner R) (start : RemoteHost) (log : List (Effect R)) : RemoteHost × List Error :=
  log.foldl (Effect.apply d) (start, [])

theorem replay_concat (d : Runner R) (start : RemoteHost) (log : List (Effect R)) (e : Effect R) :
    replay d start (log ++ [e]) = e.apply d (replay d start log) := by
  rw [replay, List.foldl_append]
  rfl

theorem collect_collect (first : List Error) (second : Option Error) :
    GoError.collect (GoError.collect none first) second.toList =
      GoError.collect none (first ++ second.toList) := by
  cases second with
  | none => simp
  | some e =>
    rw [Option.toList_some, GoError.collect_concat]
    rfl

/-- **The invariant of a host**, for the calls `calls` and the host `start` at the beginning. -/
structure HostState.Inv (d : Runner R) (calls : List (Call R)) (start : RemoteHost)
    (s : HostState R) : Prop where
  calm : s.panicked = false
  count : s.wg = s.workers.countP Worker.running
  made : (s.checked.map (·.call) ++ s.workers.filterMap Worker.call ++ s.stage.unspawned).Perm calls
  answers : ∀ e ∈ s.checked, e.reporter = e.call.checker.check e.call.id e.call.attributes
  results : (reporters s.log ++ s.reporterChan ++ s.workers.filterMap Worker.outstanding ++
    s.stage.unspawned.filterMap Call.result).Perm (calls.filterMap Call.result)
  absent : s.closer = .absent ↔ s.stage.isSpawning = true
  woken : s.closer = .woken ∨ s.closer = .finished → s.wg = 0
  closed : s.closed = true ↔ s.closer = .finished
  drained : s.stage.hasLeft = true → s.closed = true ∧ s.reporterChan = []
  phases : ∃ (reported : List R) (finalized : List (Checker R)),
    s.log = reported.map .reported ++ finalized.map .finalized ∧
      finalized ++ s.stage.unfinalized d = d.checkers
  replayed : ∃ errors, replay d start s.log = (s.resultingHost, errors) ∧
    s.err = GoError.collect none errors

theorem HostState.Inv.init (d : Runner R) (calls : List (Call R)) (checkHost : CheckHost) :
    (HostState.init calls checkHost).Inv d calls (newHost checkHost) where
  calm := rfl
  count := rfl
  made := .refl _
  answers := by simp [HostState.init]
  results := .refl _
  absent := by simp [HostState.init, Stage.isSpawning]
  woken := by simp [HostState.init]
  closed := by simp [HostState.init]
  drained := by simp [HostState.init, Stage.hasLeft]
  phases := ⟨[], [], rfl, rfl⟩
  replayed := ⟨[], rfl, rfl⟩

section Invariant

variable {d : Runner R} {calls : List (Call R)} {start : RemoteHost} {s next : HostState R}

/-- Before the `range` has ended no finalizer has run. -/
theorem HostState.Inv.unfinalized (inv : s.Inv d calls start)
    (all : s.stage.unfinalized d = d.checkers) :
    ∃ reported : List R, s.log = reported.map .reported := by
  obtain ⟨reported, finalized, log, parts⟩ := inv.phases
  rw [all] at parts
  have none : finalized = [] := by simpa using congrArg List.length parts
  refine ⟨reported, ?_⟩
  rw [log, none, List.map_nil, List.append_nil]

/-- A worker that runs keeps the channel open. -/
theorem HostState.Inv.open_of_running (inv : s.Inv d calls start) {w : Worker R}
    (member : w ∈ s.workers) (running : w.running = true) : s.closed = false ∧ s.wg ≠ 0 := by
  have pos : s.wg ≠ 0 := by
    rw [inv.count]
    exact (List.countP_pos_iff.mpr ⟨w, member, running⟩).ne'
  refine ⟨?_, pos⟩
  rw [← Bool.not_eq_true, inv.closed]
  exact fun finished => pos (inv.woken (Or.inr finished))

/-- While the channel is open the `range` over it goes on. -/
theorem HostState.Inv.not_left (inv : s.Inv d calls start) (isOpen : s.closed = false) :
    ¬ s.stage.hasLeft = true := by
  intro gone
  rw [(inv.drained gone).1] at isOpen
  cases isOpen

/-- The call of a worker moves from the workers to the calls made. -/
theorem made_concat {checked : List (Checked R)} {before after : List (Worker R)} {call : Call R}
    {w : Worker R} {reporter : Option R} {rest : List (Call R)} (called : w.call = none)
    (made : (checked.map (·.call) ++ (before ++ .checking call :: after).filterMap Worker.call ++
      rest).Perm calls) :
    ((checked ++ [Checked.mk call reporter]).map (·.call) ++
      (before ++ w :: after).filterMap Worker.call ++ rest).Perm calls := by
  have calling : (Worker.checking call).call = some call := rfl
  refine List.Perm.trans ?_ made
  simp only [List.map_append, List.map_singleton, List.filterMap_append, filterMap_cons_toList, called,
    calling, Option.toList_none, Option.toList_some, List.append_assoc, List.nil_append,
    List.cons_append]
  refine List.Perm.append_left _ ?_
  exact List.perm_middle.symm

/-- **Every step keeps the invariant.** -/
theorem HostState.Inv.moves (inv : s.Inv d calls start) (taken : Moves d s next) :
    next.Inv d calls start := by
  have kept := inv.results
  have made := inv.made
  have spawning := inv.absent
  have left := inv.drained
  have phases := inv.phases
  cases taken with
  | @spawn call rest at_ =>
    rw [at_] at kept made spawning phases
    have absent := spawning.mpr rfl
    refine { inv with
      count := ?_, made := ?_, results := ?_, absent := ?_, woken := ?_, drained := ?_,
      phases := phases }
    · simp [inv.count]
    · simpa [filterMap_cons_toList] using made
    · simpa [filterMap_cons_toList] using kept
    · simpa using absent
    · simp [absent]
    · simp
  | start at_ =>
    rw [at_] at kept made spawning phases
    have absent := spawning.mpr rfl
    refine { inv with
      made := made, results := kept, absent := ?_, woken := ?_, closed := ?_, drained := ?_,
      phases := phases }
    · simp
    · simp
    · simpa [absent] using inv.closed
    · simp
  | @receive r rest at_ head =>
    rw [head] at kept
    obtain ⟨reported, log⟩ := inv.unfinalized (by rw [at_]; rfl)
    obtain ⟨errors, host, err⟩ := inv.replayed
    refine { inv with results := ?_, drained := ?_, phases := ?_, replayed := ?_ }
    · simpa [reporters] using kept
    · simp [at_]
    · refine ⟨reported ++ [r], [], ?_, ?_⟩
      · simp [log]
      · simp [at_]
    · refine ⟨errors ++ (d.report r s.resultingHost).2.toList, ?_, ?_⟩
      · rw [replay_concat, host, Effect.apply]
      · rw [err, collect_collect]
  | leave at_ empty closed =>
    rw [at_] at kept made spawning phases
    refine { inv with
      made := made, results := kept, absent := spawning, drained := ?_, phases := phases }
    exact fun _ => ⟨closed, empty⟩
  | @finalize c rest at_ =>
    rw [at_] at kept made spawning left phases
    obtain ⟨reported, finalized, log, parts⟩ := phases
    obtain ⟨errors, host, err⟩ := inv.replayed
    refine { inv with
      made := made, results := ?_, absent := spawning, drained := left, phases := ?_, replayed := ?_ }
    · simpa [reporters, filterMap_cons_toList] using kept
    · refine ⟨reported, finalized ++ [c], ?_, ?_⟩
      · simp [log]
      · simpa using parts
    · refine ⟨errors, ?_, err⟩
      rw [replay_concat, host, Effect.apply]
  | check at_ result =>
    refine { inv with count := ?_, made := ?_, answers := ?_, results := ?_ }
    · simp [inv.count, at_, List.countP_cons]
    · rw [at_] at made
      exact made_concat (w := .sending _) rfl made
    · exact List.forall_mem_append.mpr ⟨inv.answers, List.forall_mem_singleton.mpr result.symm⟩
    · simpa [at_, result, filterMap_cons_toList] using kept
  | skip at_ result =>
    refine { inv with count := ?_, made := ?_, answers := ?_, results := ?_ }
    · simp [inv.count, at_, List.countP_cons]
    · rw [at_] at made
      exact made_concat (w := .finishing) rfl made
    · exact List.forall_mem_append.mpr ⟨inv.answers, List.forall_mem_singleton.mpr result.symm⟩
    · simpa [at_, result, filterMap_cons_toList] using kept
  | @send before after r at_ isOpen room =>
    rw [at_, List.filterMap_append, filterMap_cons_toList] at kept
    refine { inv with count := ?_, made := ?_, results := ?_, drained := ?_ }
    · simp [inv.count, at_, List.countP_cons]
    · simpa [at_, filterMap_cons_toList] using made
    · refine List.Perm.trans ?_ kept
      simp only [List.filterMap_append, filterMap_cons_toList, Worker.outstanding, Option.toList_none,
        Option.toList_some, List.append_assoc, List.nil_append, List.cons_append]
      refine List.Perm.append_left _ (List.Perm.append_left _ ?_)
      exact List.perm_middle.symm
    · exact fun gone => absurd gone (inv.not_left isOpen)
  | @sendClosed before after r at_ closed =>
    have running := inv.open_of_running (w := .sending r) (by simp [at_]) rfl
    rw [closed] at running
    cases running.1
  | done at_ pos =>
    refine { inv with count := ?_, made := ?_, results := ?_, woken := ?_ }
    · simp [inv.count, at_, List.countP_cons]
    · simpa [at_, filterMap_cons_toList] using made
    · simpa [at_, filterMap_cons_toList] using kept
    · exact fun woken => absurd (inv.woken woken) pos
  | doneZero at_ zero =>
    have running := inv.open_of_running (w := .finishing) (by simp [at_]) rfl
    exact absurd zero running.2
  | wake at_ zero =>
    rw [at_] at spawning
    refine { inv with absent := ?_, woken := ?_, closed := ?_ }
    · simpa using spawning
    · exact fun _ => zero
    · simpa [at_] using inv.closed
  | close at_ isOpen =>
    rw [at_] at spawning
    refine { inv with absent := ?_, woken := ?_, closed := ?_, drained := ?_ }
    · simpa using spawning
    · exact fun _ => inv.woken (Or.inl at_)
    · simp
    · exact fun gone => absurd gone (inv.not_left isOpen)
  | closeClosed at_ closed =>
    rw [inv.closed, at_] at closed
    cases closed

theorem HostState.Inv.step (inv : s.Inv d calls start) {t : Thread} (taken : s.step d t = some next) :
    next.Inv d calls start :=
  inv.moves (step_moves taken)

/-! ### Progress and termination -/

def Worker.weight : Worker R → Nat
  | .checking _ => 4
  | .sending _ => 3
  | .finishing => 1
  | .finished => 0

def Closer.weight : Closer → Nat
  | .absent => 2
  | .waiting => 2
  | .woken => 1
  | .finished => 0

def Stage.weight (d : Runner R) : Stage R → Nat
  | .spawning rest => 5 * rest.length + d.checkers.length + 4
  | .collecting => d.checkers.length + 3
  | .finalizing rest => rest.length + 2
  | .returned => 0

/-- The steps a host can still take, at most. -/
def HostState.weight (d : Runner R) (s : HostState R) : Nat :=
  s.stage.weight d + (s.workers.map Worker.weight).sum + s.reporterChan.length + s.closer.weight

/-- **Every step lowers the weight.** -/
theorem HostState.Inv.lowers (inv : s.Inv d calls start) (taken : Moves d s next) :
    next.weight d < s.weight d := by
  unfold HostState.weight
  cases taken with
  | spawn at_ =>
    simp only [at_, Stage.weight, List.length_cons, List.map_append, List.map_singleton,
      List.sum_append, List.sum_singleton, Worker.weight]
    omega
  | start at_ =>
    simp only [at_, Stage.weight, inv.absent.mpr (by rw [at_]; rfl), Closer.weight,
      List.length_nil]
    omega
  | receive at_ head =>
    simp only [head, List.length_cons]
    omega
  | leave at_ empty closed =>
    simp only [at_, Stage.weight]
    omega
  | finalize at_ =>
    simp only [at_, Stage.weight, List.length_cons]
    omega
  | check at_ result =>
    simp only [at_, List.map_append, List.map_cons, List.sum_append, List.sum_cons, Worker.weight]
    omega
  | skip at_ result =>
    simp only [at_, List.map_append, List.map_cons, List.sum_append, List.sum_cons, Worker.weight]
    omega
  | send at_ isOpen room =>
    simp only [at_, List.map_append, List.map_cons, List.sum_append, List.sum_cons, Worker.weight,
      List.length_append, List.length_singleton]
    omega
  | @sendClosed before after r at_ closed =>
    have running := inv.open_of_running (w := .sending r) (by simp [at_]) rfl
    rw [closed] at running
    cases running.1
  | done at_ pos =>
    simp only [at_, List.map_append, List.map_cons, List.sum_append, List.sum_cons, Worker.weight]
    omega
  | doneZero at_ zero =>
    have running := inv.open_of_running (w := .finishing) (by simp [at_]) rfl
    exact absurd zero running.2
  | wake at_ zero =>
    simp only [at_, Closer.weight]
    omega
  | close at_ isOpen =>
    simp only [at_, Closer.weight]
    omega
  | closeClosed at_ closed =>
    rw [inv.closed, at_] at closed
    cases closed

/-- While a worker runs and the channel is empty, some worker can move. -/
theorem HostState.Inv.worker_moves (inv : s.Inv d calls start) (empty : s.reporterChan = [])
    (running : s.wg ≠ 0) : ∃ i next, s.work i = some next := by
  rw [inv.count] at running
  obtain ⟨w, member, runs⟩ := List.countP_pos_iff.mp (Nat.pos_of_ne_zero running)
  obtain ⟨i, here⟩ := List.getElem?_of_mem member
  have isOpen := inv.open_of_running member runs
  refine ⟨i, ?_⟩
  unfold HostState.work
  rw [here]
  cases w with
  | checking call =>
    simp only
    cases call.result <;> exact ⟨_, rfl⟩
  | sending r =>
    simp only [isOpen.1, empty, Bool.false_eq_true, if_false]
    exact ⟨_, rfl⟩
  | finishing =>
    simp only [isOpen.2, if_false]
    exact ⟨_, rfl⟩
  | finished => cases runs

/-- **A host that has not run its last finalizer can move.** -/
theorem HostState.Inv.progress (inv : s.Inv d calls start) (notDone : s.stage ≠ .finalizing [])
    (notReturned : s.stage ≠ .returned) : ∃ t next, s.step d t = some next := by
  have process : (∃ next, s.process d = some next) → ∃ t next, s.step d t = some next :=
    fun ⟨next, taken⟩ => ⟨.process, next, taken⟩
  cases stage : s.stage with
  | spawning rest =>
    refine process ?_
    unfold HostState.process
    rw [stage]
    cases rest <;> exact ⟨_, rfl⟩
  | finalizing rest =>
    refine process ?_
    unfold HostState.process
    rw [stage]
    cases rest with
    | nil => exact absurd stage notDone
    | cons c rest => exact ⟨_, rfl⟩
  | returned => exact absurd stage notReturned
  | collecting =>
    cases chan : s.reporterChan with
    | cons r rest =>
      refine process ?_
      unfold HostState.process
      rw [stage, chan]
      exact ⟨_, rfl⟩
    | nil =>
      cases closer : s.closer with
      | absent =>
        have := inv.absent.mp closer
        rw [stage] at this
        cases this
      | finished =>
        refine process ?_
        unfold HostState.process
        simp only [stage, chan, inv.closed.mpr closer, if_true]
        exact ⟨_, rfl⟩
      | woken =>
        refine ⟨.closer, ?_⟩
        unfold HostState.step HostState.close
        rw [closer]
        simp only
        split <;> exact ⟨_, rfl⟩
      | waiting =>
        by_cases zero : s.wg = 0
        · refine ⟨.closer, ?_⟩
          unfold HostState.step HostState.close
          simp only [closer, zero, if_true]
          exact ⟨_, rfl⟩
        · obtain ⟨i, next, taken⟩ := inv.worker_moves chan zero
          exact ⟨.worker i, next, taken⟩

/-! ### The end of a host -/

/-- Once the `range` has ended, no worker runs and none is still to be spawned. -/
theorem HostState.Inv.idle (inv : s.Inv d calls start) (gone : s.stage.hasLeft = true) :
    s.reporterChan = [] ∧ (∀ w ∈ s.workers, w = .finished) ∧ s.stage.unspawned = [] := by
  obtain ⟨closed, empty⟩ := inv.drained gone
  have idle := inv.woken (Or.inr (inv.closed.mp closed))
  rw [inv.count, List.countP_eq_zero] at idle
  refine ⟨empty, fun w member => ?_, ?_⟩
  · have stopped := idle w member
    cases w with
    | checking call => exact absurd rfl stopped
    | sending r => exact absurd rfl stopped
    | finishing => exact absurd rfl stopped
    | finished => rfl
  · cases stage : s.stage with
    | spawning rest =>
      rw [stage] at gone
      cases gone
    | collecting => rfl
    | finalizing rest => rfl
    | returned => rfl

/-- **Every call asked for has been made, once.** -/
theorem HostState.Inv.all_made (inv : s.Inv d calls start) (gone : s.stage.hasLeft = true) :
    (s.checked.map (·.call)).Perm calls := by
  obtain ⟨-, finished, unspawned⟩ := inv.idle gone
  have none : s.workers.filterMap Worker.call = [] :=
    List.filterMap_eq_nil_iff.mpr fun w member => by rw [finished w member]; rfl
  have made := inv.made
  rwa [none, unspawned, List.append_nil, List.append_nil] at made

/-- **No reporter is lost and none is run twice**: once the `range` has ended, the reporters run are
the non-nil results. -/
theorem HostState.Inv.collected (inv : s.Inv d calls start) (gone : s.stage.hasLeft = true) :
    (reporters s.log).Perm (calls.filterMap Call.result) := by
  obtain ⟨empty, finished, unspawned⟩ := inv.idle gone
  have none : s.workers.filterMap Worker.outstanding = [] :=
    List.filterMap_eq_nil_iff.mpr fun w member => by rw [finished w member]; rfl
  have kept := inv.results
  rw [empty, none, unspawned] at kept
  simpa using kept

/-- The reporters run are those that the calls made have returned. -/
theorem HostState.Inv.reporters_checked (inv : s.Inv d calls start) (gone : s.stage.hasLeft = true) :
    (reporters s.log).Perm (s.checked.filterMap (·.reporter)) := by
  have returned : s.checked.filterMap (·.reporter) =
      (s.checked.map (·.call)).filterMap Call.result := by
    rw [List.filterMap_map]
    exact List.filterMap_congr inv.answers
  rw [returned]
  exact (inv.collected gone).trans ((inv.all_made gone).filterMap Call.result).symm

/-- At the end every finalizer has run, once, after all reporters. -/
theorem HostState.Inv.finalized (inv : s.Inv d calls start) (all : s.stage.unfinalized d = []) :
    s.log = (reporters s.log).map .reported ++ d.checkers.map .finalized := by
  obtain ⟨reported, finalized, log, parts⟩ := inv.phases
  rw [all, List.append_nil] at parts
  have same : reporters s.log = reported := by
    rw [log, reporters, List.filterMap_append]
    simp [List.filterMap_map, Function.comp_def]
  rw [same, log, parts]

end Invariant

end AssistedAgent.Connectivity
