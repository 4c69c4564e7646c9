/-
**When an allocation that succeeds has two leases.**

Every run of `leaseAllocate`, whatever the dependencies answer:

* `leaseVIP_runs` — `LeaseVIP` leases the interface first and deletes it last, once; it returns nil
  only if no call has failed.
* `leaseByMac_cases` — a name fails with a call of it, or reads a lease of its own interface, or reads
  a lease of another interface and returns two empty texts and no error.
* **`leaseAllocate_real_iff`** — exit code 0 stands for real leases, and every leased interface is
  deleted, exactly when no lease file answers with another interface or something else fails.
  `leaseAllocate_empty` is a run with exit code 0 and no address.
-/

import AssistedAgent.DhcpLease.Lease

namespace AssistedAgent.DhcpLease

open GoMac GoPath GoRegexp Interaction

abbrev Events := List (Event Answer)

/-! ### Calls that fail -/

/-- The answer of a call is one that its caller takes for a failure. -/
def Fails : Event Answer → Prop
  | ⟨.execute _ _, (_, _, exitCode)⟩ => exitCode ≠ 0
  | ⟨.writeFile _ _ _, err⟩ => err ≠ none
  | ⟨.readFile _, (content, err)⟩ => err ≠ none ∨ lastLease content = none
  | ⟨.getLastLeaseFromFile _, (_, _, err)⟩ => err ≠ none
  | ⟨.leaseInterface _ _ _, (iface, err)⟩ => err ≠ none ∨ iface = none
  | ⟨.linkByName _, _⟩ => False
  | ⟨.linkDel _, _⟩ => False
  | ⟨.mkdirAll _ _, err⟩ => err ≠ none

/-- What `GetLastLeaseFromFile` answers along a run, with the files. -/
def lastLeases (events : Events) : List (String × String × String × Option String) :=
  events.filterMap fun
    | ⟨.getLastLeaseFromFile fileName, answer⟩ => some (fileName, answer)
    | _ => none

/-- Calls other than those on interfaces and on the last lease. -/
def Plain : Call → Prop
  | .execute _ _ => True
  | .writeFile _ _ _ => True
  | .readFile _ => True
  | _ => False

theorem lastLeases_append (first second : Events) :
    lastLeases (first ++ second) = lastLeases first ++ lastLeases second :=
  List.filterMap_append

theorem lastLeases_eq_nil {events : Events}
    (other : ∀ e ∈ events, ∀ fileName, e.call ≠ .getLastLeaseFromFile fileName) :
    lastLeases events = [] := by
  refine List.filterMap_eq_nil_iff.mpr fun e member => ?_
  have ne := other e member
  obtain ⟨call, answer⟩ := e
  cases call <;> first | rfl | exact absurd rfl (ne _)

section Rules

variable {α β : Type}

/-- **The runs of `ifOk`.** -/
theorem runs_ifOk {p : Prog Answer (Result α)} {next : α → Prog Answer (Result β)} {events : Events}
    {result : Result β} (run : Runs (ifOk p next) events result) :
    (∃ value first second, events = first ++ second ∧ Runs p first (.ok value) ∧
        Runs (next value) second result) ∨
      ∃ failed, (∀ value, failed ≠ .ok value) ∧ (∀ value, result ≠ .ok value) ∧
        Runs p events failed := by
  obtain ⟨value, first, second, rfl, left, right⟩ := runs_bind.mp run
  cases value with
  | ok value => exact Or.inl ⟨value, first, second, rfl, left, right⟩
  | err message =>
    obtain ⟨rfl, rfl⟩ := runs_pure.mp right
    rw [List.append_nil]
    exact Or.inr ⟨.err message, by simp, by simp, left⟩
  | panic =>
    obtain ⟨rfl, rfl⟩ := runs_pure.mp right
    rw [List.append_nil]
    exact Or.inr ⟨.panic, by simp, by simp, left⟩

end Rules

/-! ### `LeaseVIP` -/

theorem deleteInterface_calls (name : String) :
    Calls (fun call => call = .linkByName name ∨ ∃ link, call = .linkDel link)
      (deleteInterface name) := by
  refine Calls.bind ((calls_request _).mpr (Or.inl rfl)) ?_
  rintro ⟨iface, err⟩
  cases err with
  | none => exact Calls.bind ((calls_request _).mpr (Or.inr ⟨iface, rfl⟩)) fun _ => calls_pure ()
  | some err => exact calls_pure ()

theorem runDhclient_calls (leaseFile name : String) (mac : HardwareAddr) (contents iface : String) :
    Calls Plain (runDhclient leaseFile name mac contents iface) := by
  unfold runDhclient
  refine Calls.bind ?_ ?_
  · unfold saveLeaseFile
    split
    · exact (calls_request _).mpr trivial
    · exact calls_pure _
  · rintro (_ | err)
    · refine Calls.bind ((calls_request _).mpr trivial) ?_
      rintro ⟨stdout, stderr, exitCode⟩
      dsimp only
      split
      · exact calls_pure _
      · split <;> exact calls_pure _
    · exact calls_pure _

/-- `dhclient` has exited with code 0 for a name and a lease file. -/
def DhclientDone (leaseFile name : String) (mac : HardwareAddr) (events : Events) : Prop :=
  ∃ iface stdout stderr,
    (⟨.execute "timeout" (dhclientArgs (formatHostname (hardwareString mac) name) leaseFile iface),
      (stdout, stderr, 0)⟩ : Event Answer) ∈ events

theorem runDhclient_cases {leaseFile name contents iface : String} {mac : HardwareAddr}
    {events : Events} {result : Result Unit}
    (run : Runs (runDhclient leaseFile name mac contents iface) events result) :
    (result = .ok () ∧ (∀ e ∈ events, ¬ Fails e) ∧ DhclientDone leaseFile name mac events) ∨
      ((∀ value, result ≠ .ok value) ∧ ∃ e ∈ events, Fails e) := by
  unfold runDhclient at run
  obtain ⟨err, first, second, rfl, write, rest⟩ := runs_bind.mp run
  unfold saveLeaseFile at write
  have written : ∀ e ∈ first, ¬ Fails e ∨ err ≠ none := by
    intro e member
    split at write
    · obtain rfl := runs_request.mp write
      obtain rfl := List.mem_singleton.mp member
      by_cases none_ : err = none
      · exact Or.inl fun failed => failed none_
      · exact Or.inr none_
    · obtain ⟨rfl, rfl⟩ := runs_pure.mp write
      cases member
  cases err with
  | some err =>
    obtain ⟨rfl, rfl⟩ := runs_pure.mp rest
    refine Or.inr ⟨by simp, ?_⟩
    split at write
    · obtain rfl := runs_request.mp write
      exact ⟨_, List.mem_append_left _ List.mem_cons_self, Option.some_ne_none err⟩
    · cases (runs_pure.mp write).2
  | none =>
    obtain ⟨⟨stdout, stderr, exitCode⟩, rest, rfl, last⟩ := runs_request_bind.mp rest
    dsimp only at last
    split at last
    · rename_i zero
      obtain ⟨rfl, rfl⟩ := runs_pure.mp last
      subst zero
      refine Or.inl ⟨rfl, ?_, iface, stdout, stderr, List.mem_append_right _ List.mem_cons_self⟩
      intro e member
      rcases List.mem_append.mp member with member | member
      · exact (written e member).resolve_right (by simp)
      · obtain rfl := List.mem_singleton.mp member
        exact fun failed => failed rfl
    · rename_i nonzero
      refine Or.inr ⟨?_, _, List.mem_append_right _ List.mem_cons_self, nonzero⟩
      split at last <;> (obtain ⟨-, rfl⟩ := runs_pure.mp last; simp)

/-- **`LeaseVIP` leases the interface first and deletes it last.** -/
theorem leaseVIP_runs {leaseFile masterDevice name contents : String} {mac : HardwareAddr}
    {events : Events} {result : Result Unit}
    (run : Runs (leaseVIP leaseFile masterDevice name mac contents) events result) :
    ∃ answer middle deletion,
      events = ⟨.leaseInterface masterDevice name mac, answer⟩ :: (middle ++ deletion) ∧
      Runs (deleteInterface name) deletion () ∧ (∀ e ∈ middle, Plain e.call) ∧
      ((result = .ok () ∧ (∀ e ∈ events, ¬ Fails e) ∧ DhclientDone leaseFile name mac events) ∨
        ((∀ value, result ≠ .ok value) ∧ ∃ e ∈ events, Fails e)) := by
  obtain ⟨⟨iface, err⟩, rest, rfl, after⟩ := runs_request_bind.mp run
  obtain ⟨middle, deletion, rfl, body, deleted⟩ := runs_deferring.mp after
  have quiet : ∀ e ∈ deletion, ¬ Fails e := by
    intro e member
    obtain ⟨call, answer⟩ := e
    rcases (deleteInterface_calls name).of_runs deleted _ member with rfl | ⟨link, rfl⟩ <;> exact id
  refine ⟨(iface, err), middle, deletion, rfl, deleted, ?_⟩
  cases err with
  | some err =>
    obtain ⟨rfl, rfl⟩ := runs_pure.mp body
    exact ⟨fun e member => absurd member List.not_mem_nil,
      Or.inr ⟨by simp, _, List.mem_cons_self, Or.inl (Option.some_ne_none err)⟩⟩
  | none =>
    cases iface with
    | none =>
      obtain ⟨rfl, rfl⟩ := runs_pure.mp body
      exact ⟨fun e member => absurd member List.not_mem_nil,
        Or.inr ⟨by simp, _, List.mem_cons_self, Or.inr rfl⟩⟩
    | some iface =>
      refine ⟨(runDhclient_calls _ _ _ _ _).of_runs body, ?_⟩
      rcases runDhclient_cases body with ⟨done, fine, iface', stdout, stderr, exited⟩ |
        ⟨failed, e, member, fails⟩
      · refine Or.inl ⟨done, ?_, iface', stdout, stderr, ?_⟩
        · intro e member
          rcases List.mem_cons.mp member with rfl | member
          · rintro (failed | failed)
            · exact failed rfl
            · cases failed
          · rcases List.mem_append.mp member with member | member
            · exact fine e member
            · exact quiet e member
        · exact List.mem_cons_of_mem _ (List.mem_append_left _ exited)
      · exact Or.inr ⟨failed, e, List.mem_cons_of_mem _ (List.mem_append_left _ member), fails⟩

/-! ### One name -/

/-- The lease file of a name. -/
def leaseFileOf (name : String) : String := getLeaseFile ((Path.clean configPath).join [name]) name

/-- **A real lease**: `dhclient` has exited with 0, the lease file has answered the interface of the
name with this address, and its last lease is this one. -/
structure RealLease (name vip lease : String) (events : Events) : Prop where
  dhclient : ∃ mac, DhclientDone (leaseFileOf name) name mac events
  last : (⟨.getLastLeaseFromFile (leaseFileOf name), (name, vip, none)⟩ : Event Answer) ∈ events
  text : ∃ content, (⟨.readFile (leaseFileOf name), (content, none)⟩ : Event Answer) ∈ events ∧
    lastLease content = some lease

theorem RealLease.mono {name vip lease : String} {events more : Events}
    (real : RealLease name vip lease events) (sub : ∀ e ∈ events, e ∈ more) :
    RealLease name vip lease more := by
  obtain ⟨⟨mac, iface, stdout, stderr, exited⟩, last, content, read, found⟩ := real
  exact ⟨⟨mac, iface, stdout, stderr, sub _ exited⟩, sub _ last, content, sub _ read, found⟩

theorem extractLastLease_runs {leaseFile : String} {events : Events} {result : Result String}
    (run : Runs (extractLastLease leaseFile) events result) :
    ∃ content err, events = [⟨.readFile leaseFile, (content, err)⟩] ∧
      ((err = none ∧ ∃ lease, lastLease content = some lease ∧ result = .ok lease) ∨
        ((∀ value, result ≠ .ok value) ∧ (err ≠ none ∨ lastLease content = none))) := by
  obtain ⟨⟨content, err⟩, rest, rfl, after⟩ := runs_request_bind.mp run
  refine ⟨content, err, ?_⟩
  cases err with
  | some err =>
    obtain ⟨rfl, rfl⟩ := runs_pure.mp after
    exact ⟨rfl, Or.inr ⟨by simp, Or.inl (Option.some_ne_none err)⟩⟩
  | none =>
    dsimp only at after
    split at after
    · rename_i missing
      obtain ⟨rfl, rfl⟩ := runs_pure.mp after
      exact ⟨rfl, Or.inr ⟨by simp, Or.inr missing⟩⟩
    · rename_i lease found
      obtain ⟨rfl, rfl⟩ := runs_pure.mp after
      exact ⟨rfl, Or.inl ⟨rfl, lease, found, rfl⟩⟩

/-- **The reading of a lease**, by what the lease file answers. -/
theorem readLease_runs {leaseFile name : String} {events : Events} {result : Result (String × String)}
    (run : Runs (readLease leaseFile name) events result) :
    ∃ iface ip err rest, events = ⟨.getLastLeaseFromFile leaseFile, (iface, ip, err)⟩ :: rest ∧
      (∀ e ∈ rest, Plain e.call) ∧
      (((∀ value, result ≠ .ok value) ∧ ∃ e ∈ events, Fails e) ∨
        (err = none ∧ (∀ e ∈ events, ¬ Fails e) ∧
          ((iface ≠ name ∧ result = .ok ("", "")) ∨
            (iface = name ∧ ∃ content lease, lastLease content = some lease ∧
              rest = [⟨.readFile leaseFile, (content, none)⟩] ∧ result = .ok (ip, lease))))) := by
  obtain ⟨⟨iface, ip, err⟩, rest, rfl, after⟩ := runs_request_bind.mp run
  refine ⟨iface, ip, err, rest, rfl, ?_⟩
  have head : err = none → ¬ Fails ⟨.getLastLeaseFromFile leaseFile, (iface, ip, err)⟩ :=
    fun absent failed => failed absent
  cases err with
  | some err =>
    obtain ⟨rfl, rfl⟩ := runs_pure.mp after
    exact ⟨fun e member => absurd member List.not_mem_nil,
      Or.inl ⟨by simp, _, List.mem_cons_self, Option.some_ne_none err⟩⟩
  | none =>
    dsimp only at after
    split at after
    · rename_i other
      obtain ⟨rfl, rfl⟩ := runs_pure.mp after
      refine ⟨fun e member => absurd member List.not_mem_nil, Or.inr ⟨rfl, ?_, Or.inl ⟨other, rfl⟩⟩⟩
      intro e member
      obtain rfl := List.mem_singleton.mp member
      exact head rfl
    · rename_i same
      rcases runs_ifOk after with ⟨lease, first, second, rfl, read, done⟩ | ⟨failed, notOk, notOk', read⟩
      · obtain ⟨rfl, rfl⟩ := runs_pure.mp done
        obtain ⟨content, err, rfl, ⟨rfl, lease', found, eq⟩ | ⟨failed, -⟩⟩ := extractLastLease_runs read
        · obtain rfl : lease = lease' := Result.ok.inj eq
          refine ⟨?_, Or.inr ⟨rfl, ?_, Or.inr ⟨not_not.mp same, content, lease, found, rfl, rfl⟩⟩⟩
          · intro e member
            obtain rfl := List.mem_singleton.mp member
            trivial
          · intro e member
            rcases List.mem_cons.mp member with rfl | member
            · exact head rfl
            · obtain rfl := List.mem_singleton.mp member
              rintro (failed | missing)
              · exact failed rfl
              · rw [missing] at found
                cases found
        · exact absurd rfl (failed lease)
      · obtain ⟨content, err, rfl, ⟨-, lease, -, rfl⟩ | ⟨-, fails⟩⟩ := extractLastLease_runs read
        · exact absurd rfl (notOk lease)
        · refine ⟨?_, Or.inl ⟨notOk', _, List.mem_cons_of_mem _ List.mem_cons_self, fails⟩⟩
          intro e member
          obtain rfl := List.mem_singleton.mp member
          trivial

theorem lastLeases_plain {events : Events} (plain : ∀ e ∈ events, Plain e.call) :
    lastLeases events = [] := by
  refine lastLeases_eq_nil fun e member fileName same => ?_
  have here := plain e member
  rw [same] at here
  exact here

theorem lastLeases_leaseVIP {leaseFile masterDevice name contents : String} {mac : HardwareAddr}
    {events : Events} {result : Result Unit}
    (run : Runs (leaseVIP leaseFile masterDevice name mac contents) events result) :
    lastLeases events = [] := by
  obtain ⟨answer, middle, deletion, rfl, deleted, plain, -⟩ := leaseVIP_runs run
  have gone : lastLeases deletion = [] := by
    refine lastLeases_eq_nil fun e member fileName same => ?_
    rcases (deleteInterface_calls name).of_runs deleted e member with here | ⟨link, here⟩ <;>
      cases here.symm.trans same
  show lastLeases (middle ++ deletion) = []
  rw [lastLeases_append, lastLeases_plain plain, gone]
  rfl

/-- **One name of an allocation** fails with a call of it, or reads the last lease of its file once;
it returns no error then, on whatever interface that lease is. -/
theorem leaseByMac_cases {masterDevice name macString contents : String} {events : Events}
    {result : Result (String × String)}
    (run : Runs (leaseByMac configPath masterDevice name macString contents) events result) :
    ((∀ value, result ≠ .ok value) ∧
        ((∃ err, parseMAC macString = .error err) ∨ ∃ e ∈ events, Fails e)) ∨
      ((∃ mac, parseMAC macString = .ok mac) ∧ (∀ e ∈ events, ¬ Fails e) ∧
        ∃ iface ip, lastLeases events = [(leaseFileOf name, iface, ip, none)] ∧
          ((iface ≠ name ∧ result = .ok ("", "")) ∨
            (iface = name ∧ ∃ lease, result = .ok (ip, lease) ∧ RealLease name ip lease events))) := by
  unfold leaseByMac at run
  split at run
  · rename_i err invalid
    obtain ⟨rfl, rfl⟩ := runs_pure.mp run
    exact Or.inl ⟨by simp, Or.inl ⟨err, invalid⟩⟩
  · rename_i mac valid
    rcases runs_ifOk run with ⟨_, first, second, rfl, vip, read⟩ | ⟨failed, notOk, notOk', vip⟩
    · obtain ⟨-, -, -, -, -, -, ⟨-, fine, done⟩ | ⟨notOk, -⟩⟩ := leaseVIP_runs vip
      swap
      · exact absurd rfl (notOk ())
      obtain ⟨iface, ip, err, rest, rfl, plain, ⟨notOk, e, member, fails⟩ | ⟨rfl, fine', which⟩⟩ :=
        readLease_runs read
      · exact Or.inl ⟨notOk, Or.inr ⟨e, List.mem_append_right _ member, fails⟩⟩
      · refine Or.inr ⟨⟨mac, valid⟩, ?_, iface, ip, ?_, ?_⟩
        · intro e member
          rcases List.mem_append.mp member with member | member
          · exact fine e member
          · exact fine' e member
        · rw [lastLeases_append, lastLeases_leaseVIP vip]
          show [] ++ (leaseFileOf name, iface, ip, none) :: lastLeases rest = _
          rw [lastLeases_plain plain]
          rfl
        · rcases which with other | ⟨rfl, content, lease, found, rfl, ok⟩
          · exact Or.inl other
          · obtain ⟨client, stdout, stderr, exited⟩ := done
            exact Or.inr ⟨rfl, lease, ok, ⟨mac, client, stdout, stderr, List.mem_append_left _ exited⟩,
              List.mem_append_right _ List.mem_cons_self, content,
              List.mem_append_right _ (List.mem_cons_of_mem _ List.mem_cons_self), found⟩
    · obtain ⟨-, -, -, -, -, -, ⟨rfl, -, -⟩ | ⟨-, fails⟩⟩ := leaseVIP_runs vip
      · exact absurd rfl (notOk ())
      · exact Or.inl ⟨notOk', Or.inr fails⟩

/-! ### Deletion -/

/-- **Every leased interface is deleted, once**, by the last calls of the `LeaseVIP` that leased it.
`deleteInterface` starts with `LinkByName`, which nothing else calls. -/
def DeletesAfter (events : Events) : Prop :=
  ∀ before masterDevice name mac answer after,
    events = before ++ ⟨.leaseInterface masterDevice name mac, answer⟩ :: after →
    ∃ leaseFile contents result middle deletion rest,
      after = middle ++ deletion ++ rest ∧
      Runs (leaseVIP leaseFile masterDevice name mac contents)
        (⟨.leaseInterface masterDevice name mac, answer⟩ :: (middle ++ deletion)) result ∧
      Runs (deleteInterface name) deletion () ∧
      ∀ e ∈ middle ++ rest, e.call ≠ .linkByName name

/-- The calls on interfaces are those of one name. -/
def OwnLinks (name : String) : Call → Prop
  | .leaseInterface _ leased _ => leased = name
  | .linkByName link => link = name
  | _ => True

/-- No call on an interface but `LinkDel`. -/
def NoLinks : Call → Prop
  | .leaseInterface _ _ _ => False
  | .linkByName _ => False
  | _ => True

theorem NoLinks.of_plain {call : Call} (plain : Plain call) : NoLinks call := by
  cases call <;> trivial

theorem NoLinks.own {call : Call} (none_ : NoLinks call) (name : String) : OwnLinks name call := by
  cases call <;> trivial

theorem DeletesAfter.of_noLinks {events : Events} (none_ : ∀ e ∈ events, NoLinks e.call) :
    DeletesAfter events := by
  rintro before masterDevice name mac answer after rfl
  exact (none_ _ (List.mem_append_right _ List.mem_cons_self)).elim

/-- **Two segments**, the second of which does not touch the interfaces of the first. -/
theorem DeletesAfter.append {first second : Events} (left : DeletesAfter first)
    (right : DeletesAfter second)
    (apart : ∀ masterDevice name mac answer,
      (⟨.leaseInterface masterDevice name mac, answer⟩ : Event Answer) ∈ first →
      ∀ e ∈ second, e.call ≠ .linkByName name) :
    DeletesAfter (first ++ second) := by
  intro before masterDevice name mac answer after split
  rcases List.append_eq_append_iff.mp split with ⟨more, rfl, cut⟩ | ⟨more, rfl, cut⟩
  · exact right more masterDevice name mac answer after cut
  · cases more with
    | nil => exact right [] masterDevice name mac answer after cut.symm
    | cons e more =>
      obtain ⟨rfl, rfl⟩ := List.cons.inj cut
      obtain ⟨leaseFile, contents, result, middle, deletion, rest, rfl, vip, deleted, others⟩ :=
        left before masterDevice name mac answer more rfl
      refine ⟨leaseFile, contents, result, middle, deletion, rest ++ second, by simp, vip, deleted, ?_⟩
      intro e member
      rw [← List.append_assoc, List.mem_append] at member
      rcases member with member | member
      · exact others e member
      · exact apart masterDevice name mac answer
          (List.mem_append_right _ List.mem_cons_self) e member

theorem DeletesAfter.mkdir {events : Events} (deletes : DeletesAfter events) {path : String}
    {perm : Nat} {err : Option String} : DeletesAfter (⟨.mkdirAll path perm, err⟩ :: events) := by
  have first : DeletesAfter [⟨.mkdirAll path perm, err⟩] :=
    DeletesAfter.of_noLinks fun e member => by
      obtain rfl := List.mem_singleton.mp member
      trivial
  refine first.append deletes fun masterDevice name mac answer member => ?_
  cases List.mem_singleton.mp member

theorem leaseVIP_deletes {leaseFile masterDevice name contents : String} {mac : HardwareAddr}
    {events : Events} {result : Result Unit}
    (run : Runs (leaseVIP leaseFile masterDevice name mac contents) events result) :
    DeletesAfter events ∧ ∀ e ∈ events, OwnLinks name e.call := by
  obtain ⟨answer, middle, deletion, rfl, deleted, plain, -⟩ := leaseVIP_runs run
  have links : ∀ e ∈ deletion, OwnLinks name e.call ∧
      ∀ masterDevice leased mac, e.call ≠ .leaseInterface masterDevice leased mac := by
    intro e member
    rcases (deleteInterface_calls name).of_runs deleted e member with here | ⟨link, here⟩ <;>
      rw [here] <;> exact ⟨by trivial, by simp⟩
  have others : ∀ e ∈ middle ++ deletion, OwnLinks name e.call ∧
      ∀ masterDevice leased mac, e.call ≠ .leaseInterface masterDevice leased mac := by
    intro e member
    rcases List.mem_append.mp member with member | member
    · refine ⟨(NoLinks.of_plain (plain e member)).own name, fun masterDevice leased mac same => ?_⟩
      have here := plain e member
      rw [same] at here
      exact here
    · exact links e member
  refine ⟨?_, ?_⟩
  · intro before masterDevice' name' mac' answer' after split
    cases before with
    | cons e before =>
      obtain ⟨-, cut⟩ := List.cons.inj split
      exact absurd rfl ((others ⟨.leaseInterface masterDevice' name' mac', answer'⟩
        (cut ▸ List.mem_append_right _ List.mem_cons_self)).2 masterDevice' name' mac')
    | nil =>
      obtain ⟨same, rfl⟩ := List.cons.inj split
      cases same
      refine ⟨leaseFile, contents, result, middle, deletion, [], (List.append_nil _).symm, run, deleted,
        ?_⟩
      intro e member same
      rw [List.append_nil] at member
      have here := plain e member
      rw [same] at here
      exact here
  · intro e member
    rcases List.mem_cons.mp member with rfl | member
    · rfl
    · exact (others e member).1

theorem readLease_noLinks {leaseFile name : String} {events : Events}
    {result : Result (String × String)} (run : Runs (readLease leaseFile name) events result) :
    ∀ e ∈ events, NoLinks e.call := by
  obtain ⟨iface, ip, err, rest, rfl, plain, -⟩ := readLease_runs run
  intro e member
  rcases List.mem_cons.mp member with rfl | member
  · trivial
  · exact NoLinks.of_plain (plain e member)

theorem leaseByMac_deletes {masterDevice name macString contents : String} {events : Events}
    {result : Result (String × String)}
    (run : Runs (leaseByMac configPath masterDevice name macString contents) events result) :
    DeletesAfter events ∧ ∀ e ∈ events, OwnLinks name e.call := by
  unfold leaseByMac at run
  split at run
  · obtain ⟨rfl, rfl⟩ := runs_pure.mp run
    exact ⟨DeletesAfter.of_noLinks fun e member => absurd member List.not_mem_nil,
      fun e member => absurd member List.not_mem_nil⟩
  · rcases runs_ifOk run with ⟨_, first, second, rfl, vip, read⟩ | ⟨failed, -, -, vip⟩
    · obtain ⟨deletes, own⟩ := leaseVIP_deletes vip
      have none_ := readLease_noLinks read
      refine ⟨deletes.append (DeletesAfter.of_noLinks none_) ?_, ?_⟩
      · intro _ _ _ _ _ e member same
        have here := none_ e member
        rw [same] at here
        exact here
      · intro e member
        rcases List.mem_append.mp member with member | member
        · exact own e member
        · exact (none_ e member).own name
    · exact leaseVIP_deletes vip

/-! ### An allocation -/

/-- **The leases of a request**: the first name, and the second one if the first has not failed. -/
theorem leases_runs {req : DhcpAllocationRequest} {interface apiMac ingressMac : String}
    (present : req.interface = some interface) (api : req.apiVipMac = some apiMac)
    (ingress : req.ingressVipMac = some ingressMac) {events : Events}
    {result : Result DhcpAllocationResponse} (run : Runs (leases req) events result) :
    ∃ first second apiResult, events = first ++ second ∧
      Runs (leaseByMac configPath interface "api" apiMac req.apiVipLease) first apiResult ∧
      ((second = [] ∧ (∀ value, apiResult ≠ .ok value) ∧ ∀ value, result ≠ .ok value) ∨
        ∃ apiValue ingressResult, apiResult = .ok apiValue ∧
          Runs (leaseByMac configPath interface "ingress" ingressMac req.ingressVipLease) second
            ingressResult ∧
          (((∀ value, ingressResult ≠ .ok value) ∧ ∀ value, result ≠ .ok value) ∨
            ∃ ingressValue, ingressResult = .ok ingressValue ∧
              result = .ok ⟨apiValue.1, apiValue.2, ingressValue.1, ingressValue.2⟩)) := by
  unfold leases at run
  rw [present, api, ingress] at run
  rcases runs_ifOk run with ⟨apiValue, first, second, rfl, left, right⟩ | ⟨failed, notOk, notOk', left⟩
  · refine ⟨first, second, _, rfl, left, Or.inr ?_⟩
    rcases runs_ifOk right with
      ⟨ingressValue, third, last, rfl, ran, done⟩ | ⟨failed, notOk, notOk', ran⟩
    · obtain ⟨rfl, rfl⟩ := runs_pure.mp done
      rw [List.append_nil]
      exact ⟨apiValue, _, rfl, ran, Or.inr ⟨ingressValue, rfl, rfl⟩⟩
    · exact ⟨apiValue, failed, rfl, ran, Or.inl ⟨notOk, notOk'⟩⟩
  · exact ⟨events, [], failed, (List.append_nil _).symm, left, Or.inl ⟨rfl, notOk, notOk'⟩⟩

theorem leases_deletes {req : DhcpAllocationRequest} {interface apiMac ingressMac : String}
    (present : req.interface = some interface) (api : req.apiVipMac = some apiMac)
    (ingress : req.ingressVipMac = some ingressMac) {events : Events}
    {result : Result DhcpAllocationResponse} (run : Runs (leases req) events result) :
    DeletesAfter events := by
  obtain ⟨first, second, apiResult, rfl, left, rest⟩ := leases_runs present api ingress run
  obtain ⟨deletes, own⟩ := leaseByMac_deletes left
  rcases rest with ⟨rfl, -, -⟩ | ⟨apiValue, ingressResult, -, right, -⟩
  · rw [List.append_nil]
    exact deletes
  · obtain ⟨deletes', own'⟩ := leaseByMac_deletes right
    refine deletes.append deletes' ?_
    rintro masterDevice name mac answer leased e member same
    obtain rfl : name = "api" := own _ leased
    have here := own' e member
    rw [same] at here
    exact absurd (show "api" = "ingress" from here) (by decide)

/-- Exit code 0 stands for two real leases. -/
def ReportsReal (output : Option Output) (events : Events) : Prop :=
  ∀ out, output = some out → out.exitCode = 0 →
    ∃ response, out.stdout = marshal response ∧
      RealLease "api" response.apiVipAddress response.apiVipLease events ∧
      RealLease "ingress" response.ingressVipAddress response.ingressVipLease events

/-- No lease file answers, without an error, with the interface of another name. -/
def NamesMatch (events : Events) : Prop :=
  ∀ name ∈ ["api", "ingress"], ∀ iface ip,
    (⟨.getLastLeaseFromFile (leaseFileOf name), (iface, ip, none)⟩ : Event Answer) ∈ events →
    iface = name

theorem mem_lastLeases {events : Events} {fileName : String}
    {answer : String × String × Option String} :
    (fileName, answer) ∈ lastLeases events ↔
      (⟨.getLastLeaseFromFile fileName, answer⟩ : Event Answer) ∈ events := by
  constructor
  · intro member
    obtain ⟨⟨call, given⟩, here, eq⟩ := List.mem_filterMap.mp member
    cases call with
    | getLastLeaseFromFile other =>
      cases eq
      exact here
    | _ => cases eq
  · exact fun member => List.mem_filterMap.mpr ⟨_, member, rfl⟩

theorem leaseFileOf_ne : leaseFileOf "api" ≠ leaseFileOf "ingress" := by decide

/-- **The two leases that have been read** decide whether the names match. -/
theorem namesMatch_iff {events : Events} {apiIface apiIp ingressIface ingressIp : String}
    (read : lastLeases events = [(leaseFileOf "api", apiIface, apiIp, none),
      (leaseFileOf "ingress", ingressIface, ingressIp, none)]) :
    NamesMatch events ↔ apiIface = "api" ∧ ingressIface = "ingress" := by
  unfold NamesMatch
  simp only [← mem_lastLeases, read, List.mem_cons, List.not_mem_nil, or_false, Prod.mk.injEq]
  constructor
  · intro names
    exact ⟨names "api" (Or.inl rfl) apiIface apiIp (Or.inl ⟨rfl, rfl, rfl, trivial⟩),
      names "ingress" (Or.inr rfl) ingressIface ingressIp (Or.inr ⟨rfl, rfl, rfl, trivial⟩)⟩
  · rintro ⟨rfl, rfl⟩ name (rfl | rfl) iface ip (⟨file, rfl, -⟩ | ⟨file, rfl, -⟩)
    · rfl
    · exact absurd file leaseFileOf_ne
    · exact absurd file.symm leaseFileOf_ne
    · rfl

/-- Real leases have been read from the interfaces of their names. -/
theorem RealLease.names {events : Events} {apiIface apiIp ingressIface ingressIp : String}
    (read : lastLeases events = [(leaseFileOf "api", apiIface, apiIp, none),
      (leaseFileOf "ingress", ingressIface, ingressIp, none)])
    {apiVip apiLease ingressVip ingressLease : String} (api : RealLease "api" apiVip apiLease events)
    (ingress : RealLease "ingress" ingressVip ingressLease events) :
    apiIface = "api" ∧ ingressIface = "ingress" := by
  have apiRead := mem_lastLeases.mpr api.last
  have ingressRead := mem_lastLeases.mpr ingress.last
  simp only [read, List.mem_cons, List.not_mem_nil, or_false, Prod.mk.injEq] at apiRead ingressRead
  refine ⟨?_, ?_⟩
  · rcases apiRead with ⟨-, same, -⟩ | ⟨file, -⟩
    · exact same.symm
    · exact absurd file leaseFileOf_ne
  · rcases ingressRead with ⟨file, -⟩ | ⟨-, same, -⟩
    · exact absurd file.symm leaseFileOf_ne
    · exact same.symm

/-- **A response reports real leases exactly when they were read from the interfaces of the names.** -/
theorem reportsReal_iff {events : Events} {apiIface apiIp ingressIface ingressIp : String}
    (read : lastLeases events = [(leaseFileOf "api", apiIface, apiIp, none),
      (leaseFileOf "ingress", ingressIface, ingressIp, none)])
    {response : DhcpAllocationResponse}
    (real : apiIface = "api" → ingressIface = "ingress" →
      RealLease "api" response.apiVipAddress response.apiVipLease events ∧
      RealLease "ingress" response.ingressVipAddress response.ingressVipLease events) :
    ReportsReal (some ⟨marshal response, "", 0⟩) events ↔
      apiIface = "api" ∧ ingressIface = "ingress" := by
  constructor
  · intro reports
    obtain ⟨response', -, apiReal, ingressReal⟩ := reports _ rfl rfl
    exact RealLease.names read apiReal ingressReal
  · rintro ⟨apiName, ingressName⟩ out ⟨rfl⟩ -
    exact ⟨response, rfl, real apiName ingressName⟩

section Allocation

variable {unmarshal : String → Except String DhcpAllocationRequest} {text : String}
  {req : DhcpAllocationRequest} {interface apiMac ingressMac : String}

/-- **The leases of a request** fail with a call or an address, or have read both files. -/
theorem leases_cases (present : req.interface = some interface) (api : req.apiVipMac = some apiMac)
    (ingress : req.ingressVipMac = some ingressMac) {events : Events}
    {result : Result DhcpAllocationResponse} (run : Runs (leases req) events result) :
    ((∀ response, result ≠ .ok response) ∧
        ((∃ e ∈ events, Fails e) ∨ ∃ mac ∈ [apiMac, ingressMac], ∃ err, parseMAC mac = .error err)) ∨
      ((∀ e ∈ events, ¬ Fails e) ∧ (∀ mac ∈ [apiMac, ingressMac], ∀ err, parseMAC mac ≠ .error err) ∧
        ∃ response apiIface apiIp ingressIface ingressIp, result = .ok response ∧
          lastLeases events = [(leaseFileOf "api", apiIface, apiIp, none),
            (leaseFileOf "ingress", ingressIface, ingressIp, none)] ∧
          (apiIface = "api" → ingressIface = "ingress" →
            RealLease "api" response.apiVipAddress response.apiVipLease events ∧
            RealLease "ingress" response.ingressVipAddress response.ingressVipLease events)) := by
  obtain ⟨first, second, apiResult, rfl, left, rest⟩ := leases_runs present api ingress run
  rcases leaseByMac_cases left with
    ⟨apiFails, because⟩ | ⟨⟨apiAddr, apiOk⟩, apiFine, apiIface, apiIp, apiRead, apiWhich⟩
  · -- The first name fails, so there is no second one.
    rcases rest with ⟨rfl, -, notOk⟩ | ⟨apiValue, -, rfl, -, -⟩
    · refine Or.inl ⟨notOk, ?_⟩
      rw [List.append_nil]
      rcases because with ⟨err, invalid⟩ | fails
      · exact Or.inr ⟨apiMac, List.mem_cons_self, err, invalid⟩
      · exact Or.inl fails
    · exact absurd rfl (apiFails apiValue)
  · rcases rest with ⟨rfl, notOk, -⟩ | ⟨apiValue, ingressResult, same, right, rest⟩
    · rcases apiWhich with ⟨-, ok⟩ | ⟨-, lease, ok, -⟩ <;> exact absurd ok (notOk _)
    rcases leaseByMac_cases right with ⟨ingressFails, because⟩ |
      ⟨⟨ingressAddr, ingressOk⟩, ingressFine, ingressIface, ingressIp, ingressRead, ingressWhich⟩
    · rcases rest with ⟨-, notOk⟩ | ⟨ingressValue, rfl, -⟩
      · refine Or.inl ⟨notOk, ?_⟩
        rcases because with ⟨err, invalid⟩ | ⟨e, member, fails⟩
        · exact Or.inr ⟨ingressMac, List.mem_cons_of_mem _ List.mem_cons_self, err, invalid⟩
        · exact Or.inl ⟨e, List.mem_append_right _ member, fails⟩
      · exact absurd rfl (ingressFails ingressValue)
    · rcases rest with ⟨notOk, -⟩ | ⟨ingressValue, same', rfl⟩
      · rcases ingressWhich with ⟨-, ok⟩ | ⟨-, lease, ok, -⟩ <;> exact absurd ok (notOk _)
      refine Or.inr ⟨?_, ?_, _, apiIface, apiIp, ingressIface, ingressIp, rfl, ?_, ?_⟩
      · intro e member
        rcases List.mem_append.mp member with member | member
        · exact apiFine e member
        · exact ingressFine e member
      · intro mac member err invalid
        rcases List.mem_cons.mp member with rfl | member
        · cases apiOk.symm.trans invalid
        · obtain rfl := List.mem_singleton.mp member
          cases ingressOk.symm.trans invalid
      · rw [lastLeases_append, apiRead, ingressRead]
        rfl
      · rintro rfl rfl
        obtain ⟨-, apiLease, apiEq, apiReal⟩ := apiWhich.resolve_left fun other => other.1 rfl
        obtain ⟨-, ingressLease, ingressEq, ingressReal⟩ :=
          ingressWhich.resolve_left fun other => other.1 rfl
        obtain rfl : apiValue = (apiIp, apiLease) := Result.ok.inj (same.symm.trans apiEq)
        obtain rfl : ingressValue = (ingressIp, ingressLease) :=
          Result.ok.inj (same'.symm.trans ingressEq)
        exact ⟨apiReal.mono fun e => List.mem_append_left _,
          ingressReal.mono fun e => List.mem_append_right _⟩

/-- **Exit code 0 stands for real leases exactly when no lease is one of another interface**, or some
call fails, or a hardware address is not one; and every leased interface is deleted. -/
theorem leaseAllocate_real_iff (decoded : unmarshal text = .ok req)
    (present : req.interface = some interface) (api : req.apiVipMac = some apiMac)
    (ingress : req.ingressVipMac = some ingressMac) {events : Events} {output : Option Output}
    (run : Runs (leaseAllocate unmarshal text) events output) :
    (ReportsReal output events ∧ DeletesAfter events) ↔
      (NamesMatch events ∨ (∃ e ∈ events, Fails e) ∨
        ∃ mac ∈ [apiMac, ingressMac], ∃ err, parseMAC mac = .error err) := by
  unfold leaseAllocate at run
  rw [decoded] at run
  obtain ⟨err, rest, rfl, after⟩ := runs_request_bind.mp run
  cases err with
  | some err =>
    obtain ⟨rfl, rfl⟩ := runs_pure.mp after
    refine iff_of_true ⟨?_, DeletesAfter.of_noLinks ?_⟩
      (Or.inr (Or.inl ⟨_, List.mem_cons_self, Option.some_ne_none err⟩))
    · rintro out ⟨rfl⟩ zero
      cases zero
    · intro e member
      obtain rfl := List.mem_singleton.mp member
      trivial
  | none =>
    obtain ⟨result, first, second, rfl, leased, done⟩ := runs_bind.mp after
    obtain ⟨rfl, rfl⟩ := runs_pure.mp done
    rw [List.append_nil]
    have deletes : DeletesAfter (⟨.mkdirAll configPath modePerm, none⟩ :: first) :=
      (leases_deletes present api ingress leased).mkdir
    rcases leases_cases present api ingress leased with ⟨notOk, because⟩ |
      ⟨fine, valid, response, apiIface, apiIp, ingressIface, ingressIp, rfl, read, real⟩
    · refine iff_of_true ⟨?_, deletes⟩ (Or.inr ?_)
      · intro out is zero
        cases result with
        | ok response => exact absurd rfl (notOk response)
        | err message =>
          obtain rfl := Option.some.inj is
          cases zero
        | panic => cases is
      · rcases because with ⟨e, member, fails⟩ | invalid
        · exact Or.inl ⟨e, List.mem_cons_of_mem _ member, fails⟩
        · exact Or.inr invalid
    · -- No call has failed, so that both sides come down to the two interfaces.
      have read' : lastLeases (⟨.mkdirAll configPath modePerm, none⟩ :: first) = _ := read
      have fine' : ∀ e ∈ (⟨.mkdirAll configPath modePerm, none⟩ :: first : Events), ¬ Fails e := by
        intro e member
        rcases List.mem_cons.mp member with rfl | member
        · exact fun failed => failed rfl
        · exact fine e member
      have reports := reportsReal_iff read' fun apiName ingressName =>
        (real apiName ingressName).imp (·.mono fun e => List.mem_cons_of_mem _)
          (·.mono fun e => List.mem_cons_of_mem _)
      have others : ¬ ((∃ e ∈ (⟨.mkdirAll configPath modePerm, none⟩ :: first : Events), Fails e) ∨
          ∃ mac ∈ [apiMac, ingressMac], ∃ err, parseMAC mac = .error err) := by
        rintro (⟨e, member, fails⟩ | ⟨mac, member, err, invalid⟩)
        · exact fine' e member fails
        · exact valid mac member err invalid
      rw [or_iff_left others, namesMatch_iff read', ← reports]
      exact and_iff_left deletes

end Allocation

/-- Dependencies that lease every interface and report a lease of `iface name` for every name. -/
def plainAnswers (iface : String → String) : (call : Call) → Answer call
  | .execute _ _ => ("", "", 0)
  | .writeFile _ _ _ => none
  | .readFile _ => ("lease \x7b a; \x7d\n", none)
  | .getLastLeaseFromFile fileName =>
    (if fileName = leaseFileOf "api" then iface "api" else iface "ingress", "1.2.3.4", none)
  | .leaseInterface _ name _ => (some name, none)
  | .linkByName _ => (7, none)
  | .linkDel _ => none
  | .mkdirAll _ _ => none

def plainRequest : DhcpAllocationRequest :=
  ⟨"", some "80:32:53:4f:cf:d6", "", some "52:54:00:09:de:93", some "eth0"⟩

/-- The run of the allocation for these dependencies. -/
def plainRun (iface : String → String) : Events × Option Output :=
  exec (plainAnswers iface) (leaseAllocate (fun _ => .ok plainRequest) "")

theorem runs_plainRun (iface : String → String) :
    Runs (leaseAllocate (fun _ => .ok plainRequest) "") (plainRun iface).1 (plainRun iface).2 :=
  runs_exec _ _

theorem leaseAllocate_real_plain :
    (plainRun id).2.map (·.exitCode) = some 0 ∧
      ReportsReal (plainRun id).2 (plainRun id).1 ∧ DeletesAfter (plainRun id).1 := by
  have read : lastLeases (plainRun id).1 = [(leaseFileOf "api", "api", "1.2.3.4", none),
      (leaseFileOf "ingress", "ingress", "1.2.3.4", none)] := by decide +kernel
  exact ⟨by decide +kernel, (leaseAllocate_real_iff rfl rfl rfl rfl (runs_plainRun id)).mpr
    (Or.inl ((namesMatch_iff read).mpr ⟨rfl, rfl⟩))⟩

/-- **A lease of another interface is reported as success**: exit code 0, no address and no lease. -/
theorem leaseAllocate_empty :
    Runs (leaseAllocate (fun _ => .ok plainRequest) "") (plainRun fun _ => "eth0").1
        (plainRun fun _ => "eth0").2 ∧
      (plainRun fun _ => "eth0").2 = some ⟨marshal ⟨"", "", "", ""⟩, "", 0⟩ ∧
      ¬ ReportsReal (plainRun fun _ => "eth0").2 (plainRun fun _ => "eth0").1 := by
  have read : lastLeases (plainRun fun _ => "eth0").1 =
      [(leaseFileOf "api", "eth0", "1.2.3.4", none),
        (leaseFileOf "ingress", "eth0", "1.2.3.4", none)] := by decide +kernel
  have output : (plainRun fun _ => "eth0").2 = some ⟨marshal ⟨"", "", "", ""⟩, "", 0⟩ := by
    decide +kernel
  refine ⟨runs_plainRun _, output, fun reports => ?_⟩
  obtain ⟨response, -, api, ingress⟩ := reports _ output rfl
  exact absurd (RealLease.names read api ingress).1 (by decide)

end AssistedAgent.DhcpLease
