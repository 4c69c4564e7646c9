/-
**Which trace the completion order leaves in the report.**

Reporters append in completion order, `Finalize` sorts stably by a key, `Run` sorts by host ID.

* `replay_production` — a host is the sorted concatenation of what its calls reported.
* **`run_deterministic_iff`** — for hosts with different IDs, the report is the same for all
  interleavings exactly if no two entries for a host agree in the sort key and differ otherwise
  (`Untied`). Entries of several outgoing NICs for one remote address do: the key of an MTU report is
  the remote address, and the key of an L2 entry the remote address and MAC address.
-/

import AssistedAgent.Connectivity.Checkers
import AssistedAgent.Connectivity.Schedules

namespace AssistedAgent.Connectivity

open GoNet StableSort Util

/-- The host that the reporters `rs`, in their order, and the finalizers make. -/
def sortedHost (checkHost : CheckHost) (rs : List Reporter) : RemoteHost where
  hostID := checkHost.hostID
  l2Connectivity := sortBy l2Key (rs.flatMap Reporter.l2Entries)
  l3Connectivity := sortBy (·.remoteIPAddress) (rs.flatMap Reporter.l3Entries)
  mtuReport := sortBy (·.remoteIPAddress) (rs.flatMap Reporter.mtuEntries)

section Replay

variable (t : Tools) (world : CallId → World)

theorem replay_reports (start : RemoteHost) (rs : List Reporter) :
    replay (production t world) start (rs.map .reported) =
      (⟨start.hostID, start.l2Connectivity ++ rs.flatMap Reporter.l2Entries,
        start.l3Connectivity ++ rs.flatMap Reporter.l3Entries,
        start.mtuReport ++ rs.flatMap Reporter.mtuEntries⟩, []) := by
  induction rs using List.reverseRecOn with
  | nil => simp [replay]
  | append_singleton rs r ih =>
    rw [List.map_append, List.map_singleton, replay_concat, ih]
    cases r <;>
      simp [Effect.apply, production, Reporter.report, Reporter.l2Entries, Reporter.l3Entries,
        Reporter.mtuEntries]

/-- **A host is the sorted concatenation of what its calls reported.** -/
theorem replay_production (checkHost : CheckHost) (rs : List Reporter) :
    (replay (production t world) (newHost checkHost)
      (rs.map .reported ++ (production t world).checkers.map .finalized)).1 =
      sortedHost checkHost rs := by
  have reports := replay_reports t world (newHost checkHost) rs
  unfold replay at reports ⊢
  rw [List.foldl_append, reports]
  rfl

end Replay

/-! ### Ties -/

/-- No two entries of the results agree in the sort key and differ otherwise. -/
structure Untied (rs : List Reporter) : Prop where
  l2 : ∀ a ∈ rs.flatMap Reporter.l2Entries, ∀ b ∈ rs.flatMap Reporter.l2Entries,
    l2Key a = l2Key b → a = b
  l3 : ∀ a ∈ rs.flatMap Reporter.l3Entries, ∀ b ∈ rs.flatMap Reporter.l3Entries,
    a.remoteIPAddress = b.remoteIPAddress → a = b
  mtu : ∀ a ∈ rs.flatMap Reporter.mtuEntries, ∀ b ∈ rs.flatMap Reporter.mtuEntries,
    a.remoteIPAddress = b.remoteIPAddress → a = b

/-- Without ties the order of the reporters leaves no trace. -/
theorem sortedHost_eq_of_perm (checkHost : CheckHost) {rs rs' : List Reporter} (same : rs.Perm rs')
    (untied : Untied rs) : sortedHost checkHost rs = sortedHost checkHost rs' := by
  unfold sortedHost
  rw [sortBy_eq_of_perm l2Key (same.flatMap_right _) untied.l2,
    sortBy_eq_of_perm _ (same.flatMap_right _) untied.l3,
    sortBy_eq_of_perm _ (same.flatMap_right _) untied.mtu]

/-- **A tie between two reporters shows in the order of the two**: if swapping them makes no
difference, their entries of one key are equal. -/
theorem entries_eq_of_swap {α : Type} {entries : Reporter → List α} {key : α → String}
    {r r' : Reporter} {rest : List Reporter} (distinct : ((entries r).map key).Nodup)
    (distinct' : ((entries r').map key).Nodup)
    (same : sortBy key ((r :: r' :: rest).flatMap entries) =
      sortBy key ((r' :: r :: rest).flatMap entries))
    {a b : α} (ha : a ∈ entries r) (hb : b ∈ entries r') (keys : key a = key b) : a = b := by
  have filtered := congrArg (List.filter fun y => key y = key a) same
  rw [filter_sortBy, filter_sortBy] at filtered
  simp only [List.flatMap_cons, List.filter_append] at filtered
  rw [filter_key_of_nodup key distinct ha, keys, filter_key_of_nodup key distinct' hb] at filtered
  exact (List.cons.inj filtered).1

/-! ### The report -/

section Report

variable {t : Tools} {world : CallId → World} {params : List CheckHost}
  {outgoingNics : List OutgoingNic}

/-- The results of the calls for the host at position `i`, in the order of the loops. -/
def results (t : Tools) (world : CallId → World) (outgoingNics : List OutgoingNic) (i : Nat)
    (checkHost : CheckHost) : List Reporter :=
  (calls (production t world) i checkHost outgoingNics).filterMap Call.result

/-- **What `Run` returns**: its hosts sorted by ID, each made from its results in some order. -/
theorem returns_sorted {remoteHosts : List RemoteHost}
    (returns : Returns (production t world) params outgoingNics remoteHosts) :
    ∃ l hosts : List RemoteHost, remoteHosts = sortBy (·.hostID) l ∧ l.Perm hosts ∧
      hosts.length = params.length ∧
      ∀ i checkHost, params[i]? = some checkHost →
        ∃ rs, rs.Perm (results t world outgoingNics i checkHost) ∧
          hosts[i]? = some (sortedHost checkHost rs) := by
  obtain ⟨s, err, reach, returned⟩ := returns
  have inv := reachable_inv reach
  obtain ⟨sorted, perm⟩ := inv.report returned
  have main := inv.main
  unfold RunState.MainInv at main
  rw [returned] at main
  refine ⟨s.remoteHosts, s.hosts.map (·.resultingHost), sorted, ?_, ?_, ?_⟩
  · rw [sorted] at perm
    exact (sortBy_perm _ _).symm.trans perm
  · rw [List.length_map, main.1]
  · intro i checkHost here
    obtain ⟨h, found, collected⟩ := inv.collected returned here
    obtain ⟨other, there, host⟩ := inv.hosts i h found
    obtain rfl : checkHost = other := Option.some.inj (here.symm.trans there)
    have gone : h.stage.hasLeft = true := by
      rw [(inv.all_sent returned).1 h (List.mem_of_getElem? found)]
      rfl
    refine ⟨reporters h.log, host.collected gone, ?_⟩
    rw [List.getElem?_map, found, Option.map_some, collected.host, collected.finalized,
      replay_production]
    have own : reporters ((reporters h.log).map .reported ++
        (production t world).checkers.map .finalized) = reporters h.log := by
      rw [← collected.finalized]
    rw [own]

/-- Hosts with the IDs of the request, in its order, have different IDs if the request has. -/
theorem host_unique (distinct : (params.map (·.hostID)).Nodup) {rs : Nat → CheckHost → List Reporter}
    {a b : RemoteHost} (ha : a ∈ params.mapIdx fun i checkHost => sortedHost checkHost (rs i checkHost))
    (hb : b ∈ params.mapIdx fun i checkHost => sortedHost checkHost (rs i checkHost))
    (same : a.hostID = b.hostID) : a = b := by
  have ids : (params.mapIdx fun i checkHost => sortedHost checkHost (rs i checkHost)).map (·.hostID) =
      params.map (·.hostID) := by
    refine List.ext_getElem? fun j => ?_
    simp [Option.map_map, Function.comp_def, sortedHost]
  exact List.inj_on_of_nodup_map (ids ▸ distinct) ha hb same

/-- **Without ties there is one report.** -/
theorem report_unique (distinct : (params.map (·.hostID)).Nodup)
    (untied : ∀ i checkHost, params[i]? = some checkHost →
      Untied (results t world outgoingNics i checkHost))
    {remoteHosts : List RemoteHost}
    (returns : Returns (production t world) params outgoingNics remoteHosts) :
    remoteHosts = sortBy (·.hostID)
      (params.mapIdx fun i checkHost => sortedHost checkHost (results t world outgoingNics i checkHost)) := by
  obtain ⟨l, hosts, rfl, perm, len, each⟩ := returns_sorted returns
  have canonical : hosts = params.mapIdx fun i checkHost =>
      sortedHost checkHost (results t world outgoingNics i checkHost) := by
    refine List.ext_getElem? fun i => ?_
    rw [List.getElem?_mapIdx]
    cases here : params[i]? with
    | none =>
      rw [List.getElem?_eq_none_iff] at here
      simpa [len] using here
    | some checkHost =>
      obtain ⟨rs, same, found⟩ := each i checkHost here
      have same' := sortedHost_eq_of_perm checkHost same.symm (untied i checkHost here)
      rw [found, Option.map_some, same']
  rw [canonical] at perm
  refine sortBy_eq_of_perm _ perm fun a ha b hb same => ?_
  exact host_unique distinct (perm.mem_iff.mp ha) (perm.mem_iff.mp hb) same

/-- The calls of the host at position `i` in the order `first`, those of the others as they come. -/
def orderOf (t : Tools) (world : CallId → World) (params : List CheckHost)
    (outgoingNics : List OutgoingNic) (i : Nat) (first : List (Call Reporter)) (j : Nat) :
    List (Call Reporter) :=
  if j = i then first
  else
    match params[j]? with
    | some checkHost => calls (production t world) j checkHost outgoingNics
    | none => []

/-- Some report has the host at position `i` as the order `first` of its calls makes it. -/
theorem exists_returns_order {i : Nat} {checkHost : CheckHost} (here : params[i]? = some checkHost)
    {first : List (Call Reporter)}
    (perm : first.Perm (calls (production t world) i checkHost outgoingNics)) :
    ∃ remoteHosts, Returns (production t world) params outgoingNics remoteHosts ∧
      sortedHost checkHost (first.filterMap Call.result) ∈ remoteHosts ∧
      remoteHosts.Perm (params.mapIdx fun j other => sortedHost other
        ((orderOf t world params outgoingNics i first j).filterMap Call.result)) := by
  have orders : ∀ j other, params[j]? = some other →
      (orderOf t world params outgoingNics i first j).Perm
        (calls (production t world) j other outgoingNics) := by
    intro j other there
    unfold orderOf
    split
    · rename_i same
      subst same
      obtain rfl : checkHost = other := Option.some.inj (here.symm.trans there)
      exact perm
    · rw [there]
  obtain ⟨remoteHosts, returns, hosts⟩ := returns_of_orders _ orders
  have finals : ∀ (other : CheckHost) (order : List (Call Reporter)),
      finalHost (production t world) other order = sortedHost other (order.filterMap Call.result) :=
    fun other order => replay_production t world other _
  simp only [finals] at hosts
  refine ⟨remoteHosts, returns, ?_, hosts⟩
  refine hosts.mem_iff.mpr (List.mem_of_getElem? (i := i) ?_)
  rw [List.getElem?_mapIdx, here, Option.map_some, orderOf, if_pos rfl]

/-- **Two calls of a host that complete in either order** leave the same host if the report is the
same for all interleavings. -/
theorem sortedHost_swap (distinct : (params.map (·.hostID)).Nodup)
    (same : ∀ first second, Returns (production t world) params outgoingNics first →
      Returns (production t world) params outgoingNics second → first = second)
    {i : Nat} {checkHost : CheckHost} (here : params[i]? = some checkHost)
    {c c' : Call Reporter} {others : List (Call Reporter)}
    (perm : (c :: c' :: others).Perm (calls (production t world) i checkHost outgoingNics)) :
    sortedHost checkHost ((c :: c' :: others).filterMap Call.result) =
      sortedHost checkHost ((c' :: c :: others).filterMap Call.result) := by
  obtain ⟨first, returns, member, -⟩ := exists_returns_order here perm
  obtain ⟨second, returns', member', hosts⟩ :=
    exists_returns_order here ((List.Perm.swap c c' others).trans perm)
  rw [same first second returns returns'] at member
  exact host_unique distinct (hosts.mem_iff.mp member) (hosts.mem_iff.mp member') rfl

/-- Two different members of a list come first in some order of it. -/
theorem exists_perm_pair {α : Type} {l : List α} {a b : α} (ha : a ∈ l) (hb : b ∈ l) (ne : a ≠ b) :
    ∃ others, (a :: b :: others).Perm l := by
  obtain ⟨before, after, rfl⟩ := List.append_of_mem ha
  have rest : b ∈ before ++ after := by
    rcases List.mem_append.mp hb with left | right
    · exact List.mem_append_left _ left
    · rcases List.mem_cons.mp right with rfl | right
      · exact absurd rfl ne
      · exact List.mem_append_right _ right
  obtain ⟨before', after', split⟩ := List.append_of_mem rest
  refine ⟨before' ++ after', ?_⟩
  refine List.Perm.trans ?_ List.perm_middle.symm
  rw [split]
  exact List.Perm.cons a List.perm_middle.symm

theorem checker_mem {d : Runner Reporter} {i : Nat} {checkHost : CheckHost} {c : Call Reporter}
    (member : c ∈ calls d i checkHost outgoingNics) : c.checker ∈ d.checkers := by
  have pair : (c.checker, c.attributes) ∈ requested d checkHost outgoingNics :=
    (calls_perm_requested i checkHost).mem_iff.mp (List.mem_map.mpr ⟨c, member, rfl⟩)
  obtain ⟨checker, inside, rest⟩ := List.mem_flatMap.mp pair
  obtain ⟨⟨remoteNic, ip⟩, -, last⟩ := List.mem_flatMap.mp rest
  simp only at last
  split at last
  · obtain ⟨nic, -, eq⟩ := List.mem_map.mp last
    rw [← (Prod.mk.inj eq).1]
    exact inside
  · rw [(Prod.mk.inj (List.mem_singleton.mp last)).1]
    exact inside

/-- **Entries of one key are equal** if the report is the same for all interleavings. -/
theorem untied_of_same (distinct : (params.map (·.hostID)).Nodup)
    (same : ∀ first second, Returns (production t world) params outgoingNics first →
      Returns (production t world) params outgoingNics second → first = second)
    {i : Nat} {checkHost : CheckHost} (here : params[i]? = some checkHost) {α : Type}
    {entries : Reporter → List α} {key : α → String} (list : RemoteHost → List α)
    (lists : ∀ rs, list (sortedHost checkHost rs) = sortBy key (rs.flatMap entries))
    (keys : ∀ r, r.Distinct → ((entries r).map key).Nodup) :
    ∀ a ∈ (results t world outgoingNics i checkHost).flatMap entries,
      ∀ b ∈ (results t world outgoingNics i checkHost).flatMap entries, key a = key b → a = b := by
  intro a ha b hb sameKey
  obtain ⟨r, hr, ha⟩ := List.mem_flatMap.mp ha
  obtain ⟨r', hr', hb⟩ := List.mem_flatMap.mp hb
  obtain ⟨c, hc, result⟩ := List.mem_filterMap.mp hr
  obtain ⟨c', hc', result'⟩ := List.mem_filterMap.mp hr'
  have nodup := keys r (result_distinct (checker_mem hc) result)
  have nodup' := keys r' (result_distinct (checker_mem hc') result')
  by_cases one : c = c'
  · obtain rfl : r = r' := Option.some.inj (result.symm.trans (one ▸ result'))
    exact List.inj_on_of_nodup_map nodup ha hb sameKey
  · obtain ⟨others, perm⟩ := exists_perm_pair hc hc' one
    have swapped := congrArg list (sortedHost_swap distinct same here perm)
    rw [lists, lists] at swapped
    simp only [List.filterMap_cons, result, result'] at swapped
    exact entries_eq_of_swap nodup nodup' swapped ha hb sameKey

/-- **The report is the same for all interleavings exactly if no two entries for a host tie.** It is about
runs that return: a call of arping that panics (`arpingCheck_eq_none_iff`) has no result in them. -/
theorem run_deterministic_iff (t : Tools) (world : CallId → World) (params : List CheckHost)
    (outgoingNics : List OutgoingNic) (distinct : (params.map (·.hostID)).Nodup) :
    (∀ first second, Returns (production t world) params outgoingNics first →
        Returns (production t world) params outgoingNics second → first = second) ↔
      ∀ i checkHost, params[i]? = some checkHost →
        Untied (results t world outgoingNics i checkHost) := by
  constructor
  · intro same i checkHost here
    exact {
      l2 := untied_of_same distinct same here RemoteHost.l2Connectivity (fun _ => rfl)
        fun _ d => d.l2
      l3 := untied_of_same distinct same here RemoteHost.l3Connectivity (fun _ => rfl)
        fun _ d => d.l3
      mtu := untied_of_same distinct same here RemoteHost.mtuReport (fun _ => rfl)
        fun _ d => d.mtu }
  · intro untied first second returns returns'
    rw [report_unique distinct untied returns, report_unique distinct untied returns']

end Report

/-! ### One and two outgoing NICs -/

def remote : CheckHost := ⟨"h", [⟨["10.0.0.2/24"], "52:54:00:00:00:02", "ens3"⟩]⟩

/-- A NIC with jumbo frames. -/
def jumbo (name : String) : OutgoingNic :=
  ⟨9000, name, true, false, [.ipNet ⟨[10, 0, 0, 1], [255, 255, 255, 0]⟩]⟩

theorem run_deterministic_jumbo :
    results asciiTools (fun _ => quietWorld) [jumbo "ens3"] 0 remote =
        [.mtu ⟨true, "ens3", "10.0.0.2"⟩, .l3 ⟨0, "", 0, "10.0.0.2", false⟩] ∧
      ∀ first second,
        Returns (production asciiTools fun _ => quietWorld) [remote] [jumbo "ens3"] first →
        Returns (production asciiTools fun _ => quietWorld) [remote] [jumbo "ens3"] second →
        first = second := by
  have list : results asciiTools (fun _ => quietWorld) [jumbo "ens3"] 0 remote =
      [.mtu ⟨true, "ens3", "10.0.0.2"⟩, .l3 ⟨0, "", 0, "10.0.0.2", false⟩] := by decide
  refine ⟨list, (run_deterministic_iff asciiTools (fun _ => quietWorld) [remote] [jumbo "ens3"]
    (List.nodup_singleton _)).mpr ?_⟩
  intro i checkHost here
  obtain ⟨rfl, rfl⟩ : i = 0 ∧ checkHost = remote := by
    rcases i with _ | i
    · exact ⟨rfl, (Option.some.inj here).symm⟩
    · cases here
  rw [list]
  constructor <;> simp [Reporter.l2Entries, Reporter.l3Entries, Reporter.mtuEntries]

/-- **With two outgoing NICs the order of completion shows in the report.** -/
theorem run_order_visible :
    ∃ first second,
      Returns (production asciiTools fun _ => quietWorld) [remote] [jumbo "ens3", jumbo "ens4"] first ∧
      Returns (production asciiTools fun _ => quietWorld) [remote] [jumbo "ens3", jumbo "ens4"] second ∧
      first ≠ second := by
  by_contra none
  have same : ∀ first second,
      Returns (production asciiTools fun _ => quietWorld) [remote] [jumbo "ens3", jumbo "ens4"] first →
      Returns (production asciiTools fun _ => quietWorld) [remote] [jumbo "ens3", jumbo "ens4"] second →
      first = second := by
    intro first second returns returns'
    by_contra different
    exact none ⟨first, second, returns, returns', different⟩
  have one : ([remote].map (·.hostID)).Nodup := List.nodup_singleton _
  have tied := untied_of_same one same (i := 0) rfl RemoteHost.mtuReport
    (fun _ => rfl) (fun _ distinct => distinct.mtu)
    ⟨true, "ens3", "10.0.0.2"⟩ (by decide) ⟨true, "ens4", "10.0.0.2"⟩ (by decide) rfl
  exact absurd tied (by decide)

end AssistedAgent.Connectivity
