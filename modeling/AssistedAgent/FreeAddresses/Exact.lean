/-
**The free-address scan is exact, and where it does not end.**

For an IPv4 network text that both checks of `scanNetwork` accept, with prefix length `n`, base
address `base` and sub-networks of prefix length `m = max n 22`:

* **`scanNetwork_exact`** — for `1 ≤ n`, whatever `nmap` answers, the scan returns. If every run of
  `nmap` exits with 0 and prints a report (`Reports`), it returns exit code 0 after the first `k`
  sub-networks in ascending order, with the addresses of exactly these that no report has in use
  (`inUse`), where `k` is the least number of sub-networks that gives `AddressLimit` addresses or is
  all of them. At a run of `nmap` that fails it returns its code and runs no further one.
* **`scanNetwork_ends_iff`** — for every `n`, also `0`: the scan returns with no sub-network scanned
  twice and no address listed twice exactly if `n ≠ 0` or the scan is stopped, by a failure or by
  the limit, within the first `2 ^ 22` sub-networks. The counter of a `/0` wraps to the base address
  and the membership test never fails.
-/

import AssistedAgent.FreeAddresses.Scan
import Mathlib.Data.List.Nodup

namespace AssistedAgent.FreeAddresses

open Bytes GoNet Util

/-! ### Rounds until the scan stops -/

section Run

variable (s : Scanner) (network : String) {base m : Nat}

/-- The scan goes past round `i`: there is room, and `nmap` succeeds. -/
def Passes (base m i : Nat) : Prop :=
  (collected s base m i).length < addressLimit ∧ ∃ run, s.scan i (subnetText base m i) = .ok run

/-- **Rounds that pass lead to the next one.** -/
theorem scanLoop_run {cidr : IPNet} {inner : Nat} (pos : 1 ≤ m) (le : m ≤ 32)
    (aligned : 2 ^ (32 - m) ∣ base) (enough : 2 ^ (32 - m) < inner) {k : Nat}
    (lt : ∀ i < k, base + i * 2 ^ (32 - m) < 2 ^ 32)
    (inside : ∀ i < k, contains cidr (toBytes 4 (base + i * 2 ^ (32 - m))) = true)
    (passes : ∀ i < k, Passes s base m i) (fuel : Nat) :
    scanLoop s inner network cidr m (k + fuel) (toBytes 4 base) [] [] =
      scanLoop s inner network cidr m fuel (toBytes 4 (base + k * 2 ^ (32 - m)))
        (collected s base m k) (firstCalls base m k) := by
  induction k generalizing fuel with
  | zero => simp [collected, firstCalls]
  | succ k ih =>
    obtain ⟨room, run, ok⟩ := passes k (Nat.lt_succ_self k)
    rw [Nat.add_assoc, Nat.add_comm 1 fuel,
      ih (fun i small => lt i (by omega)) (fun i small => inside i (by omega))
        (fun i small => passes i (by omega)) (fuel + 1)]
    exact scanLoop_ok s network pos le aligned (lt k (by omega)) enough (inside k (by omega)) room ok

/-- The first round that does not pass, among the first `count`. -/
theorem exists_first_stop (base m count : Nat) :
    ∃ k ≤ count, (∀ i < k, Passes s base m i) ∧ (k < count → ¬ Passes s base m k) := by
  classical
  by_cases stops : ∃ k, k < count ∧ ¬ Passes s base m k
  · obtain ⟨below, stop⟩ := Nat.find_spec stops
    refine ⟨Nat.find stops, below.le, fun i small => ?_, fun _ => stop⟩
    by_contra fails
    exact Nat.find_min stops small ⟨by omega, fails⟩
  · refine ⟨count, le_refl count, fun i small => ?_, fun small => absurd small (lt_irrefl count)⟩
    by_contra fails
    exact stops ⟨i, small, fails⟩

end Run

/-! ### What is collected -/

section Collected

variable (s : Scanner)

/-- The text of the address `x` above the base. -/
def addressText (base x : Nat) : String := ipString (toBytes 4 (base + x))

theorem subnetAddresses_eq (base m i : Nat) :
    subnetAddresses base m i =
      (List.range' (i * 2 ^ (32 - m)) (2 ^ (32 - m))).map (addressText base) := by
  unfold subnetAddresses addressText
  rw [List.range'_eq_map_range, List.map_map]
  refine List.map_congr_left fun j _ => ?_
  rw [Function.comp_apply, Nat.add_assoc]

/-- **What `k` scans collect** is a part, in order, of the addresses from the base on. -/
theorem collected_sublist (base m k : Nat) :
    (collected s base m k).Sublist ((List.range (k * 2 ^ (32 - m))).map (addressText base)) := by
  induction k with
  | zero => simp [collected]
  | succ k ih =>
    have split : List.range ((k + 1) * 2 ^ (32 - m)) =
        List.range (k * 2 ^ (32 - m)) ++ List.range' (k * 2 ^ (32 - m)) (2 ^ (32 - m)) := by
      rw [List.range_eq_range', List.range_eq_range', Nat.add_mul, Nat.one_mul,
        ← List.range'_append_1, Nat.zero_add]
    rw [split, List.map_append, collected]
    refine ih.append ?_
    rw [← subnetAddresses_eq]
    split
    · exact List.filter_sublist
    · exact List.nil_sublist _

theorem addressText_injective {base x y : Nat} (hx : base + x < 2 ^ 32) (hy : base + y < 2 ^ 32)
    (same : addressText base x = addressText base y) : x = y := by
  have bytes := ipString_injective (length_toBytes 4 _) (length_toBytes 4 _) same
  have numbers := congrArg beNat bytes
  rw [beNat_toBytes, beNat_toBytes, show (256 : Nat) ^ 4 = 2 ^ 32 by rfl, Nat.mod_eq_of_lt hx,
    Nat.mod_eq_of_lt hy] at numbers
  omega

theorem nodup_collected {base m k : Nat} (small : base + k * 2 ^ (32 - m) ≤ 2 ^ 32) :
    (collected s base m k).Nodup := by
  refine List.Nodup.sublist (collected_sublist s base m k) ?_
  refine List.Nodup.map_on ?_ List.nodup_range
  intro x hx y hy same
  rw [List.mem_range] at hx hy
  exact addressText_injective (by omega) (by omega) same

theorem nodup_firstCalls {base m k : Nat} (le : m ≤ 32) (small : base + k * 2 ^ (32 - m) ≤ 2 ^ 32) :
    (firstCalls base m k).Nodup := by
  refine List.Nodup.map_on ?_ List.nodup_range
  intro i hi j hj same
  rw [List.mem_range] at hi hj
  have texts : subnetText base m i = subnetText base m j := by simpa [nmapCommand] using same
  have size : 0 < 2 ^ (32 - m) := Nat.pow_pos (by decide)
  have below : ∀ i < k, base + i * 2 ^ (32 - m) < 2 ^ 32 := by
    intro i hi
    have := Nat.mul_lt_mul_of_pos_right hi size
    omega
  have bytes := (cidrText_injective (length_toBytes 4 _) (length_toBytes 4 _) le le texts).1
  have numbers := congrArg beNat bytes
  rw [beNat_toBytes, beNat_toBytes, show (256 : Nat) ^ 4 = 2 ^ 32 by rfl,
    Nat.mod_eq_of_lt (below i hi), Nat.mod_eq_of_lt (below j hj)] at numbers
  exact Nat.eq_of_mul_eq_mul_right size (by omega)

/-- One more scan collects at most one sub-network. -/
theorem length_collected_succ_le (base m k : Nat) :
    (collected s base m (k + 1)).length ≤ (collected s base m k).length + 2 ^ (32 - m) := by
  rw [collected, List.length_append]
  refine Nat.add_le_add_left ?_ _
  split
  · refine le_trans (List.length_filter_le _ _) ?_
    simp [subnetAddresses]
  · simp

end Collected

/-! ### Accepted networks -/

/-- **What the two checks of `scanNetwork` leave**: an IPv4 network they accept starts at an address
whose bits below the prefix are zero. -/
theorem accepted_network {network : String} {ip : IP} {cidr : IPNet}
    (parsed : parseCIDR network = .ok (ip, cidr)) (canonical : netString cidr = network)
    (v4 : (maskSize cidr.mask).2 = 32) :
    ∃ base n, base < 2 ^ 32 ∧ n ≤ 32 ∧ 2 ^ (32 - n) ∣ base ∧
      ip = v4InV6Prefix ++ toBytes 4 base ∧ cidr = ⟨toBytes 4 base, prefixMask 4 n⟩ ∧
      maskSize cidr.mask = (n, 32) ∧ beNat cidr.ip = base := by
  have four : cidr.mask.length = 4 := by
    unfold maskSize at v4
    split at v4
    · omega
    · cases v4
  obtain ⟨bytes, n, len, le, aligned, rfl, rfl, -⟩ := parseCIDR_canonical parsed four canonical
  have isBytes : toBytes 4 (beNat bytes) = bytes := by
    rw [← len, toBytes_beNat]
  have block := beNat_and_prefixMask bytes (n := n) (by rw [len]; omega)
  rw [len, aligned] at block
  refine ⟨beNat bytes, n, ?_, le, Dvd.intro_left _ block.symm, ?_, ?_, ?_, rfl⟩
  · have := beNat_lt bytes
    rwa [len] at this
  · rw [isBytes]
  · rw [isBytes]
  · exact maskSize_prefixMask (l := 4) le

theorem scanNetwork_accepted (s : Scanner) (fuel : Nat) {network : String} {base n : Nat}
    (parsed : parseCIDR network =
      .ok (v4InV6Prefix ++ toBytes 4 base, ⟨toBytes 4 base, prefixMask 4 n⟩))
    (canonical : netString ⟨toBytes 4 base, prefixMask 4 n⟩ = network) (le : n ≤ 32) :
    scanNetwork s fuel network =
      scanLoop s fuel network ⟨toBytes 4 base, prefixMask 4 n⟩ (max n minSubnetMaskSize) fuel
        (toBytes 4 base) [] [] := by
  have mask : (if n < minSubnetMaskSize then minSubnetMaskSize else n) = max n minSubnetMaskSize := by
    split <;> omega
  unfold scanNetwork
  rw [parsed]
  simp only [canonical, ne_eq, not_true_eq_false, if_false,
    maskSize_prefixMask (show n ≤ 8 * 4 by omega), mask, to4_as16 (length_toBytes 4 base)]

section Accepted

variable (s : Scanner) {network : String} {base n : Nat}

/-- The sub-networks of prefix length `max n 22` fill the network. -/
theorem subnets_fill (le : n ≤ 32) :
    2 ^ (max n minSubnetMaskSize - n) * 2 ^ (32 - max n minSubnetMaskSize) = 2 ^ (32 - n) := by
  have least : minSubnetMaskSize = 22 := rfl
  rw [← pow_add]
  congr 1
  omega

/-- The `i`-th sub-network starts inside the network. -/
theorem subnet_inside (lt : base < 2 ^ 32) (le : n ≤ 32) (aligned : 2 ^ (32 - n) ∣ base) {i : Nat}
    (small : i < 2 ^ (max n minSubnetMaskSize - n)) :
    base + i * 2 ^ (32 - max n minSubnetMaskSize) < 2 ^ 32 ∧
      contains ⟨toBytes 4 base, prefixMask 4 n⟩
        (toBytes 4 (base + i * 2 ^ (32 - max n minSubnetMaskSize))) = true := by
  refine contains_of_lt le aligned lt ?_
  rw [← subnets_fill le]
  exact Nat.mul_lt_mul_of_pos_right small (Nat.pow_pos (by decide))

theorem network_end_le (lt : base < 2 ^ 32) (le : n ≤ 32) (aligned : 2 ^ (32 - n) ∣ base) {k : Nat}
    (small : k ≤ 2 ^ (max n minSubnetMaskSize - n)) :
    base + k * 2 ^ (32 - max n minSubnetMaskSize) ≤ 2 ^ 32 := by
  obtain ⟨q, rfl, below, whole⟩ := block_split le aligned lt
  calc q * 2 ^ (32 - n) + k * 2 ^ (32 - max n minSubnetMaskSize)
      ≤ q * 2 ^ (32 - n) + 2 ^ (32 - n) := by
        rw [← subnets_fill le]
        exact Nat.add_le_add_left (Nat.mul_le_mul_right _ small) _
    _ = (q + 1) * 2 ^ (32 - n) := by ring
    _ ≤ 2 ^ n * 2 ^ (32 - n) := Nat.mul_le_mul_right _ below
    _ = 2 ^ 32 := whole.symm

/-- **The rounds of `scanNetwork`**: rounds that pass lead to the next one, whatever fuel is left. -/
theorem scanNetwork_run
    (parsed : parseCIDR network =
      .ok (v4InV6Prefix ++ toBytes 4 base, ⟨toBytes 4 base, prefixMask 4 n⟩))
    (canonical : netString ⟨toBytes 4 base, prefixMask 4 n⟩ = network)
    (lt : base < 2 ^ 32) (le : n ≤ 32) (aligned : 2 ^ (32 - n) ∣ base) {k : Nat}
    (small : k ≤ 2 ^ (max n minSubnetMaskSize - n))
    (passes : ∀ i < k, Passes s base (max n minSubnetMaskSize) i) {fuel : Nat}
    (enough : 2 ^ (32 - max n minSubnetMaskSize) < k + fuel) :
    scanNetwork s (k + fuel) network =
      scanLoop s (k + fuel) network ⟨toBytes 4 base, prefixMask 4 n⟩ (max n minSubnetMaskSize) fuel
        (toBytes 4 (base + k * 2 ^ (32 - max n minSubnetMaskSize)))
        (collected s base (max n minSubnetMaskSize) k)
        (firstCalls base (max n minSubnetMaskSize) k) := by
  have least : minSubnetMaskSize = 22 := rfl
  rw [scanNetwork_accepted s _ parsed canonical le]
  refine scanLoop_run s network (by omega) (by omega) ?_ enough ?_ ?_ passes fuel
  · exact dvd_trans (pow_dvd_pow 2 (by omega)) aligned
  · exact fun i below => (subnet_inside lt le aligned (by omega)).1
  · exact fun i below => (subnet_inside lt le aligned (by omega)).2

/-- The scan returns once the network is left or the limit is reached. -/
theorem returns_of_stop
    (parsed : parseCIDR network =
      .ok (v4InV6Prefix ++ toBytes 4 base, ⟨toBytes 4 base, prefixMask 4 n⟩))
    (canonical : netString ⟨toBytes 4 base, prefixMask 4 n⟩ = network)
    (lt : base < 2 ^ 32) (le : n ≤ 32) (aligned : 2 ^ (32 - n) ∣ base) {k : Nat}
    (small : k ≤ 2 ^ (max n minSubnetMaskSize - n))
    (passes : ∀ i < k, Passes s base (max n minSubnetMaskSize) i)
    (stop : (1 ≤ n ∧ k = 2 ^ (max n minSubnetMaskSize - n)) ∨
      addressLimit ≤ (collected s base (max n minSubnetMaskSize) k).length) :
    Returns s network ⟨network, collected s base (max n minSubnetMaskSize) k, "", 0,
      firstCalls base (max n minSubnetMaskSize) k⟩ := by
  refine ⟨k + (2 ^ (32 - max n minSubnetMaskSize) + 1), ?_⟩
  rw [scanNetwork_run s parsed canonical lt le aligned small passes (by omega)]
  refine scanLoop_stop s network ?_
  rcases stop with ⟨pos, rfl⟩ | full
  · rw [subnets_fill le]
    exact Or.inl (not_contains_next pos le aligned lt)
  · exact Or.inr full

/-- The scan returns at the first run of `nmap` that fails. -/
theorem returns_of_failure
    (parsed : parseCIDR network =
      .ok (v4InV6Prefix ++ toBytes 4 base, ⟨toBytes 4 base, prefixMask 4 n⟩))
    (canonical : netString ⟨toBytes 4 base, prefixMask 4 n⟩ = network)
    (lt : base < 2 ^ 32) (le : n ≤ 32) (aligned : 2 ^ (32 - n) ∣ base) {k : Nat}
    (small : k < 2 ^ (max n minSubnetMaskSize - n))
    (passes : ∀ i < k, Passes s base (max n minSubnetMaskSize) i)
    (room : (collected s base (max n minSubnetMaskSize) k).length < addressLimit)
    {stderr : String} {code : Int}
    (failed : s.scan k (subnetText base (max n minSubnetMaskSize) k) = .error (stderr, code)) :
    Returns s network ⟨network, collected s base (max n minSubnetMaskSize) k, stderr, code,
      firstCalls base (max n minSubnetMaskSize) (k + 1)⟩ := by
  have least : minSubnetMaskSize = 22 := rfl
  refine ⟨k + (2 ^ (32 - max n minSubnetMaskSize) + 1), ?_⟩
  rw [scanNetwork_run s parsed canonical lt le aligned small.le passes (by omega)]
  refine scanLoop_error s network (by omega) ?_ (subnet_inside lt le aligned small).2 room failed
  exact dvd_trans (pow_dvd_pow 2 (by omega)) aligned

/-- Every sub-network text passes the checks of `scanSubNetwork`. -/
theorem subnetText_canonical {base m : Nat} (le : m ≤ 32) (aligned : 2 ^ (32 - m) ∣ base) (i : Nat) :
    ∃ ip sub, parseCIDR (subnetText base m i) = .ok (ip, sub) ∧
      netString sub = subnetText base m i := by
  refine ⟨_, _, parseCIDR_cidrText (length_toBytes 4 _) le, ?_⟩
  rw [v4Net_of_aligned le (aligned_round aligned i), netString_v4 (length_toBytes 4 _) le, subnetText]

/-- What is collected from the sub-networks of a network lies in the network. -/
theorem collected_inside (lt : base < 2 ^ 32) (le : n ≤ 32) (aligned : 2 ^ (32 - n) ∣ base) {k : Nat}
    (small : k ≤ 2 ^ (max n minSubnetMaskSize - n)) :
    ∀ address ∈ collected s base (max n minSubnetMaskSize) k,
      ∃ v, contains ⟨toBytes 4 base, prefixMask 4 n⟩ (toBytes 4 v) = true ∧
        address = ipString (toBytes 4 v) := by
  intro address member
  obtain ⟨x, below, rfl⟩ := List.mem_map.mp ((collected_sublist s base _ k).mem member)
  refine ⟨base + x, (contains_of_lt le aligned lt ?_).2, rfl⟩
  rw [List.mem_range] at below
  calc x < k * 2 ^ (32 - max n minSubnetMaskSize) := below
    _ ≤ 2 ^ (max n minSubnetMaskSize - n) * 2 ^ (32 - max n minSubnetMaskSize) :=
        Nat.mul_le_mul_right _ small
    _ = 2 ^ (32 - n) := subnets_fill le

/-- Rounds that pass leave less than the limit and one sub-network. -/
theorem length_collected_lt {m k : Nat} (wide : minSubnetMaskSize ≤ m)
    (passes : ∀ i < k, Passes s base m i) :
    (collected s base m k).length < addressLimit + 2 ^ (32 - minSubnetMaskSize) := by
  rcases k with _ | k
  · exact Nat.lt_of_lt_of_le (by decide : 0 < addressLimit) (Nat.le_add_right _ _)
  · calc (collected s base m (k + 1)).length
        ≤ (collected s base m k).length + 2 ^ (32 - m) := length_collected_succ_le s base m k
      _ < addressLimit + 2 ^ (32 - m) := Nat.add_lt_add_right (passes k (Nat.lt_succ_self k)).1 _
      _ ≤ addressLimit + 2 ^ (32 - minSubnetMaskSize) :=
          Nat.add_le_add_left (Nat.pow_le_pow_right (by decide) (by omega)) _

end Accepted

/-! ### What nmap answers -/

/-- The command line of a run of `nmap`. -/
def commandFor (subNetwork : String) : List String := ["nmap", "-sn", "-PR", "-n", "-oX", "-", subNetwork]

/-- The `call`-th command, a run of `nmap` on the sub-network, exits with 0 and prints the report. -/
def Reports (s : Scanner) (call : Nat) (subNetwork : String) (run : Nmaprun) : Prop :=
  (s.execute call (commandFor subNetwork)).exitCode = 0 ∧
    s.unmarshal (s.execute call (commandFor subNetwork)).stdout = .ok run

/-- The run fails: it exits with another code, or what it prints is no report. -/
def Fails (s : Scanner) (call : Nat) (subNetwork stderr : String) (code : Int) : Prop :=
  ((s.execute call (commandFor subNetwork)).exitCode ≠ 0 ∧
      stderr = (s.execute call (commandFor subNetwork)).stderr ∧
      code = (s.execute call (commandFor subNetwork)).exitCode) ∨
    ((s.execute call (commandFor subNetwork)).exitCode = 0 ∧
      s.unmarshal (s.execute call (commandFor subNetwork)).stdout = .error stderr ∧ code = -1)

def firstIpv4 : List Address → Option String
  | [] => none
  | a :: rest => if a.addrType = "ipv4" then some a.addr else firstIpv4 rest

/-- The address is the first IPv4 address of a host that is up. -/
def inUse (run : Nmaprun) (address : String) : Bool :=
  run.hosts.any fun h => h.state == "up" && firstIpv4 h.addresses == some address

/-- The addresses of the first sub-networks that their reports do not have in use. -/
def freeIn (base m : Nat) (runs : List Nmaprun) : List String :=
  (runs.mapIdx fun i run => (subnetAddresses base m i).filter fun address => ! inUse run address).flatten

theorem firstIpv4_eq (addresses : List Address) :
    firstIpv4 addresses = (addresses.find? (·.addrType = "ipv4")).map (·.addr) := by
  induction addresses with
  | nil => rfl
  | cons a rest ih =>
    rw [firstIpv4, List.find?_cons]
    by_cases v4 : a.addrType = "ipv4"
    · simp [v4]
    · simp [v4, ih]

theorem inUse_iff {run : Nmaprun} {address : String} :
    inUse run address = true ↔ address ∈ occupied run := by
  rw [inUse, List.any_eq_true, occupied, List.mem_filterMap]
  refine exists_congr fun h => and_congr_right fun _ => ?_
  rw [Bool.and_eq_true, beq_iff_eq, beq_iff_eq, firstIpv4_eq]
  by_cases up : h.state = "up"
  · rw [if_pos up]
    exact and_iff_right up
  · rw [if_neg up]
    simp [up]

theorem scan_eq_ok_iff {s : Scanner} {call : Nat} {text : String} {run : Nmaprun} :
    s.scan call text = .ok run ↔ Reports s call text run := by
  unfold Scanner.scan Reports nmapCommand commandFor
  simp only
  by_cases zero : (s.execute call ["nmap", "-sn", "-PR", "-n", "-oX", "-", text]).exitCode = 0
  · rw [if_neg (not_not.mpr zero), and_iff_right zero]
    split
    · next err failed => simp [failed]
    · next other decoded => simp only [decoded, Except.ok.injEq]
  · rw [if_pos zero]
    simp [zero]

theorem scan_of_fails {s : Scanner} {call : Nat} {text stderr : String} {code : Int}
    (fails : Fails s call text stderr code) : s.scan call text = .error (stderr, code) := by
  unfold Fails commandFor at fails
  unfold Scanner.scan nmapCommand
  simp only
  rcases fails with ⟨nonzero, rfl, rfl⟩ | ⟨zero, failed, rfl⟩
  · rw [if_pos nonzero]
  · rw [if_neg (not_not.mpr zero), failed]

theorem freeIn_concat (base m : Nat) (runs : List Nmaprun) (run : Nmaprun) :
    freeIn base m (runs ++ [run]) = freeIn base m runs ++ subnetFree base m runs.length run := by
  have same : ((subnetAddresses base m runs.length).filter fun address => ! inUse run address) =
      subnetFree base m runs.length run := by
    refine List.filter_congr fun address _ => ?_
    rw [Bool.eq_iff_iff, Bool.not_eq_true', ← Bool.not_eq_true, inUse_iff, decide_eq_true_iff]
  rw [freeIn, List.mapIdx_append, List.flatten_append, ← freeIn]
  simp only [List.mapIdx_cons, List.mapIdx_nil, Nat.zero_add, List.flatten_cons, List.flatten_nil,
    List.append_nil, same]

/-- The rounds of the loop, in terms of the reports. -/
theorem collected_eq {s : Scanner} {base m : Nat} {runs : List Nmaprun}
    (reports : ∀ i run, runs[i]? = some run → Reports s i (subnetText base m i) run) :
    collected s base m runs.length = freeIn base m runs := by
  induction runs using List.reverseRecOn with
  | nil => rfl
  | append_singleton runs run ih =>
    have last := reports runs.length run (by simp)
    have before := ih fun i other here => reports i other (by
      rw [List.getElem?_append_left (List.getElem?_eq_some_iff.mp here).1]
      exact here)
    rw [freeIn_concat, List.length_append, List.length_singleton, collected, before,
      scan_eq_ok_iff.mpr last]

/-- The reports of rounds that pass. -/
theorem exists_runs {s : Scanner} {base m k : Nat}
    (passes : ∀ i < k, ∃ run, s.scan i (subnetText base m i) = .ok run) :
    ∃ runs : List Nmaprun, runs.length = k ∧
      ∀ i run, runs[i]? = some run → Reports s i (subnetText base m i) run := by
  induction k with
  | zero => exact ⟨[], rfl, fun i run here => by cases here⟩
  | succ k ih =>
    obtain ⟨runs, rfl, reports⟩ := ih fun i small => passes i (Nat.lt_succ_of_lt small)
    obtain ⟨run, ok⟩ := passes runs.length (Nat.lt_succ_self _)
    refine ⟨runs ++ [run], by simp, fun i other here => ?_⟩
    rw [List.getElem?_append] at here
    split at here
    · exact reports i other here
    · next past =>
      have at_ : i = runs.length := by
        have := (List.getElem?_eq_some_iff.mp here).1
        simp only [List.length_singleton] at this
        omega
      subst at_
      rw [Nat.sub_self] at here
      cases here
      exact scan_eq_ok_iff.mp ok

theorem take_reports {s : Scanner} {base m : Nat} {runs : List Nmaprun}
    (reports : ∀ i run, runs[i]? = some run → Reports s i (subnetText base m i) run) (k : Nat) :
    ∀ i run, (runs.take k)[i]? = some run → Reports s i (subnetText base m i) run := by
  intro i run here
  rw [List.getElem?_take] at here
  split at here
  · exact reports i run here
  · cases here

theorem collected_take {s : Scanner} {base m : Nat} {runs : List Nmaprun}
    (reports : ∀ i run, runs[i]? = some run → Reports s i (subnetText base m i) run) {k : Nat}
    (le : k ≤ runs.length) : collected s base m k = freeIn base m (runs.take k) := by
  rw [← collected_eq (take_reports reports k), List.length_take, min_eq_left le]

/-! ### The results -/

/-- **The free-address scan is exact.** -/
theorem scanNetwork_exact (s : Scanner) {network : String} {ip : IP} {cidr : IPNet}
    (parsed : parseCIDR network = .ok (ip, cidr)) (canonical : netString cidr = network)
    (v4 : (maskSize cidr.mask).2 = 32) (pos : 1 ≤ (maskSize cidr.mask).1) :
    let base := beNat cidr.ip
    let n := (maskSize cidr.mask).1
    let m := max n 22
    (∀ i < 2 ^ (m - n), ∃ subIp sub, parseCIDR (subnetText base m i) = .ok (subIp, sub) ∧
        netString sub = subnetText base m i) ∧
      ((∀ call text, ∃ run, Reports s call text run) →
        ∃ runs : List Nmaprun, runs.length ≤ 2 ^ (m - n) ∧
          (∀ i run, runs[i]? = some run → Reports s i (subnetText base m i) run) ∧
          (∀ i < runs.length, (freeIn base m (runs.take i)).length < 8000) ∧
          (runs.length = 2 ^ (m - n) ∨ 8000 ≤ (freeIn base m runs).length) ∧
          Returns s network ⟨network, freeIn base m runs, "", 0,
            (List.range runs.length).map fun i => commandFor (subnetText base m i)⟩ ∧
          (∀ address ∈ freeIn base m runs, ∃ v, contains cidr (toBytes 4 v) = true ∧
            address = ipString (toBytes 4 v)) ∧
          (freeIn base m runs).Nodup ∧ (freeIn base m runs).length < 8000 + 1024) ∧
      (∀ runs : List Nmaprun, runs.length < 2 ^ (m - n) →
        (∀ i run, runs[i]? = some run → Reports s i (subnetText base m i) run) →
        (∀ i ≤ runs.length, (freeIn base m (runs.take i)).length < 8000) →
        ∀ stderr code, Fails s runs.length (subnetText base m runs.length) stderr code →
          code ≠ 0 ∧
          Returns s network ⟨network, freeIn base m runs, stderr, code,
            (List.range (runs.length + 1)).map fun i => commandFor (subnetText base m i)⟩) := by
  obtain ⟨base, n, lt, le, aligned, rfl, rfl, size, number⟩ := accepted_network parsed canonical v4
  rw [size] at pos ⊢
  rw [number]
  refine ⟨fun i small => ?_, fun healthy => ?_, fun runs small reports room stderr code fails => ?_⟩
  · exact subnetText_canonical (by omega)
      (dvd_trans (pow_dvd_pow 2 (by omega)) aligned) i
  · obtain ⟨k, small, passes, stop⟩ := exists_first_stop s base (max n 22) (2 ^ (max n 22 - n))
    obtain ⟨runs, rfl, reports⟩ := exists_runs fun i below => (passes i below).2
    have answered : ∃ run, s.scan runs.length (subnetText base (max n 22) runs.length) = .ok run :=
      (healthy _ _).imp fun _ => scan_eq_ok_iff.mpr
    have last : runs.length = 2 ^ (max n 22 - n) ∨
        8000 ≤ (collected s base (max n 22) runs.length).length := by
      by_contra more
      obtain ⟨inside, room⟩ := not_or.mp more
      exact stop (Nat.lt_of_le_of_ne small inside) ⟨not_le.mp room, answered⟩
    have returns := returns_of_stop s parsed canonical lt le aligned small passes
      (last.imp_left fun whole => ⟨pos, whole⟩)
    have inside := collected_inside s lt le aligned small
    have nodup := nodup_collected s (network_end_le lt le aligned small)
    have few := length_collected_lt s (le_max_right n 22) passes
    rw [show minSubnetMaskSize = 22 from rfl, collected_eq reports] at returns inside nodup
    rw [collected_eq reports] at last few
    refine ⟨runs, small, reports, fun i below => ?_, last, returns, inside, nodup, few⟩
    rw [← collected_take reports below.le]
    exact (passes i below).1
  · have failed := scan_of_fails fails
    have passes : ∀ i < runs.length, Passes s base (max n 22) i := by
      intro i below
      refine ⟨?_, runs[i], scan_eq_ok_iff.mpr (reports i _ (List.getElem?_eq_getElem below))⟩
      rw [collected_take reports below.le]
      exact room i below.le
    have left : (collected s base (max n 22) runs.length).length < addressLimit := by
      rw [collected_take reports le_rfl]
      exact room _ le_rfl
    have returns := returns_of_failure s parsed canonical lt le aligned small passes left failed
    rw [show minSubnetMaskSize = 22 from rfl, collected_eq reports] at returns
    exact ⟨exitCode_ne_zero_of_scan failed, returns⟩

/-- An `nmap` that finds no host. -/
def quiet : Scanner where
  execute _ _ := ⟨"", "", 0⟩
  unmarshal _ := .ok ⟨[]⟩

/-- A host with two IPv4 addresses, and one that is down. -/
def firstReport : Nmaprun :=
  ⟨[⟨"up", [⟨"52:54:00:00:00:05", "mac"⟩, ⟨"10.0.0.5", "ipv4"⟩, ⟨"10.0.0.6", "ipv4"⟩]⟩,
    ⟨"down", [⟨"10.0.0.7", "ipv4"⟩]⟩]⟩

def secondReport : Nmaprun := ⟨[⟨"up", [⟨"10.0.4.1", "ipv4"⟩]⟩]⟩

def busy : Scanner where
  execute call _ := ⟨if call = 0 then "first" else "second", "", 0⟩
  unmarshal text := .ok (if text = "first" then firstReport else secondReport)

theorem mem_freeIn {base m : Nat} {runs : List Nmaprun} {address : String} :
    address ∈ freeIn base m runs ↔ ∃ i run, runs[i]? = some run ∧ address ∈ subnetAddresses base m i ∧
      inUse run address = false := by
  rw [freeIn, List.mem_flatten]
  constructor
  · rintro ⟨part, member, inside⟩
    obtain ⟨i, below, rfl⟩ := List.mem_mapIdx.mp member
    obtain ⟨listed, free⟩ := List.mem_filter.mp inside
    exact ⟨i, runs[i], List.getElem?_eq_getElem below, listed, by simpa using free⟩
  · rintro ⟨i, run, here, listed, free⟩
    obtain ⟨below, rfl⟩ := List.getElem?_eq_some_iff.mp here
    refine ⟨_, List.mem_mapIdx.mpr ⟨i, below, rfl⟩, List.mem_filter.mpr ⟨listed, by simp [free]⟩⟩

theorem length_freeIn_le (base m : Nat) (runs : List Nmaprun) :
    (freeIn base m runs).length ≤ runs.length * 2 ^ (32 - m) := by
  induction runs using List.reverseRecOn with
  | nil => exact Nat.zero_le _
  | append_singleton runs run ih =>
    have part : (subnetFree base m runs.length run).length ≤ 2 ^ (32 - m) :=
      (List.length_filter_le _ _).trans (by simp [subnetAddresses])
    rw [freeIn_concat, List.length_append, List.length_append, List.length_singleton, Nat.add_mul,
      Nat.one_mul]
    omega

/-- An address is listed in one sub-network only. -/
theorem addressText_mem_iff {base m x i : Nat} (inside : base + x < 2 ^ 32)
    (whole : base + (i + 1) * 2 ^ (32 - m) ≤ 2 ^ 32) :
    addressText base x ∈ subnetAddresses base m i ↔
      i * 2 ^ (32 - m) ≤ x ∧ x < (i + 1) * 2 ^ (32 - m) := by
  rw [Nat.add_mul, Nat.one_mul] at whole ⊢
  rw [subnetAddresses_eq, List.mem_map]
  constructor
  · rintro ⟨y, member, same⟩
    rw [List.mem_range'_1] at member
    rwa [← addressText_injective (by omega) inside same]
  · exact fun bounds => ⟨x, List.mem_range'_1.mpr bounds, rfl⟩

/-- Two sub-networks, with hosts in both. -/
theorem scanNetwork_exact_busy :
    ∃ result, Returns busy "10.0.0.0/21" result ∧ result.exitCode = 0 ∧
      result.calls = [["nmap", "-sn", "-PR", "-n", "-oX", "-", "10.0.0.0/22"],
        ["nmap", "-sn", "-PR", "-n", "-oX", "-", "10.0.4.0/22"]] ∧
      "10.0.0.5" ∉ result.freeAddresses ∧ "10.0.0.6" ∈ result.freeAddresses ∧
      "10.0.0.7" ∈ result.freeAddresses ∧ "10.0.4.1" ∉ result.freeAddresses := by
  have exact := (scanNetwork_exact busy (show parseCIDR "10.0.0.0/21" =
      .ok (v4InV6Prefix ++ [10, 0, 0, 0], ⟨[10, 0, 0, 0], [255, 255, 248, 0]⟩) by decide)
    (by decide) (by decide) (by decide)).2.1 fun call text => ⟨_, rfl, rfl⟩
  have number : beNat [10, 0, 0, 0] = 167772160 := by decide
  have size : (maskSize [255, 255, 248, 0]).1 = 21 := by decide
  simp only [number, size, show max 21 22 = 22 from rfl, show 22 - 21 = 1 from rfl] at exact
  obtain ⟨runs, small, reports, -, last, returns, -⟩ := exact
  have two : runs.length = 2 := by
    have le := length_freeIn_le 167772160 22 runs
    omega
  obtain ⟨first, second, rfl⟩ := List.length_eq_two.mp two
  obtain rfl : firstReport = first := Except.ok.inj (reports 0 first rfl).2
  obtain rfl : secondReport = second := Except.ok.inj (reports 1 second rfl).2
  have listed : ∀ x i, x < 2048 → i < 2 → (addressText 167772160 x ∈ subnetAddresses 167772160 22 i ↔
      i * 1024 ≤ x ∧ x < (i + 1) * 1024) := fun x i below within =>
    addressText_mem_iff (m := 22) (by omega) (by omega)
  -- An address is free exactly if the report on its sub-network does not have it in use.
  have member : ∀ x address, addressText 167772160 x = address → x < 2048 →
      (address ∈ freeIn 167772160 22 [firstReport, secondReport] ↔
        inUse (if x < 1024 then firstReport else secondReport) address = false) := by
    rintro x _ rfl below
    rw [mem_freeIn]
    constructor
    · rintro ⟨i, run, here, inside, free⟩
      have within : i < 2 := (List.getElem?_eq_some_iff.mp here).1
      have bounds := (listed x i below within).mp inside
      rcases i with _ | _ | i
      · rw [if_pos (by omega)]
        cases here
        exact free
      · rw [if_neg (by omega)]
        cases here
        exact free
      · omega
    · intro free
      by_cases low : x < 1024
      · rw [if_pos low] at free
        exact ⟨0, _, rfl, (listed x 0 below (by decide)).mpr (by omega), free⟩
      · rw [if_neg low] at free
        exact ⟨1, _, rfl, (listed x 1 below (by decide)).mpr (by omega), free⟩
  refine ⟨_, returns, rfl, by decide, ?_, ?_, ?_, ?_⟩
  · rw [member 5 _ (by decide) (by decide)]
    decide
  · rw [member 6 _ (by decide) (by decide)]
    decide
  · rw [member 7 _ (by decide) (by decide)]
    decide
  · rw [member 1025 _ (by decide) (by decide)]
    decide

/-- Some run of `nmap` on the first `count` sub-networks fails, or they give enough free
addresses. -/
def StopsWithin (s : Scanner) (base m count : Nat) : Prop :=
  ∃ k < count, (∃ failure, s.scan k (subnetText base m k) = .error failure) ∨
    addressLimit ≤ (collected s base m (k + 1)).length

/-- **Where the scan is not stopped**, it goes past every sub-network and still has room. -/
theorem passes_of_not_stopsWithin {s : Scanner} {base m count : Nat}
    (free : ¬ StopsWithin s base m count) :
    (∀ i < count, Passes s base m i) ∧ (collected s base m count).length < addressLimit := by
  have room : ∀ i ≤ count, (collected s base m i).length < addressLimit := by
    intro i small
    rcases i with _ | i
    · exact (by decide : 0 < addressLimit)
    · by_contra full
      exact free ⟨i, small, Or.inr (not_lt.mp full)⟩
  refine ⟨fun i small => ⟨room i small.le, ?_⟩, room count le_rfl⟩
  cases scan : s.scan i (subnetText base m i) with
  | ok run => exact ⟨run, rfl⟩
  | error failure => exact absurd ⟨i, small, Or.inl ⟨failure, scan⟩⟩ free

/-- The scan is stopped at the first round that does not pass, or at the end of the network. -/
theorem stops_at {s : Scanner} {base m count n : Nat}
    (ends : n ≠ 0 ∨ StopsWithin s base m count) :
    ∃ k ≤ count, (∀ i < k, Passes s base m i) ∧
      (((1 ≤ n ∧ k = count) ∨ addressLimit ≤ (collected s base m k).length) ∨
        (k < count ∧ (collected s base m k).length < addressLimit ∧
          ∃ failure, s.scan k (subnetText base m k) = .error failure)) := by
  obtain ⟨k, small, passes, stop⟩ := exists_first_stop s base m count
  refine ⟨k, small, passes, ?_⟩
  by_cases full : addressLimit ≤ (collected s base m k).length
  · exact Or.inl (Or.inr full)
  rcases Nat.lt_or_eq_of_le small with inside | rfl
  · refine Or.inr ⟨inside, not_le.mp full, ?_⟩
    cases scan : s.scan k (subnetText base m k) with
    | ok run => exact absurd ⟨not_le.mp full, run, scan⟩ (stop inside)
    | error failure => exact ⟨failure, rfl⟩
  · rcases ends with prefixed | ⟨j, below, ⟨failure, failed⟩ | reached⟩
    · exact Or.inl (Or.inl ⟨Nat.one_le_iff_ne_zero.mpr prefixed, rfl⟩)
    · obtain ⟨-, run, ok⟩ := passes j below
      rw [failed] at ok
      cases ok
    · rcases Nat.lt_or_eq_of_le (show j + 1 ≤ k from below) with before | rfl
      · exact absurd (passes (j + 1) before).1 (not_lt.mpr reached)
      · exact absurd reached full

/-- **A `/0` that is not stopped is entered again**: whatever the scan returns, it has run the first
command twice. -/
theorem not_nodup_of_wrapped {s : Scanner} {network : String}
    (parsed : parseCIDR network =
      .ok (v4InV6Prefix ++ toBytes 4 0, ⟨toBytes 4 0, prefixMask 4 0⟩))
    (canonical : netString ⟨toBytes 4 0, prefixMask 4 0⟩ = network)
    (free : ¬ StopsWithin s 0 22 (2 ^ 22)) {result : NetworkScan}
    (returns : Returns s network result) : ¬ result.calls.Nodup := by
  obtain ⟨fuel, returns⟩ := returns
  obtain ⟨passes, room⟩ := passes_of_not_stopsWithin free
  have wrapped : toBytes 4 (0 + 2 ^ 22 * 2 ^ (32 - 22)) = toBytes 4 0 := rfl
  have again := scanNetwork_mono (Nat.le_add_left fuel (2 ^ 22)) returns
  have later : scanLoop s (2 ^ 22 + fuel) network ⟨toBytes 4 0, prefixMask 4 0⟩ 22 fuel
      (toBytes 4 (0 + 2 ^ 22 * 2 ^ (32 - 22))) (collected s 0 22 (2 ^ 22))
      (firstCalls 0 22 (2 ^ 22)) = some result := by
    rw [← again]
    exact (scanNetwork_run s parsed canonical (by decide) (by decide) ⟨0, rfl⟩ (le_refl (2 ^ 22))
      passes (by show 1024 < 4194304 + fuel; omega)).symm
  rw [wrapped] at later
  have entered : contains ⟨toBytes 4 0, prefixMask 4 0⟩ (toBytes 4 0) = true := by decide
  have twice := calls_prefix_round (by decide) ⟨0, rfl⟩ entered room later
  intro nodup
  have distinct := nodup.sublist twice.sublist
  rw [List.nodup_append] at distinct
  refine distinct.2.2 _ ?_ _ (List.mem_singleton_self _) rfl
  exact List.mem_map.mpr ⟨0, List.mem_range.mpr (by decide), rfl⟩

/-- **The scan returns, without a repetition, exactly if the network has a prefix length other than
zero or the scan is stopped within the network.** -/
theorem scanNetwork_ends_iff (s : Scanner) {network : String} {ip : IP} {cidr : IPNet}
    (parsed : parseCIDR network = .ok (ip, cidr)) (canonical : netString cidr = network)
    (v4 : (maskSize cidr.mask).2 = 32) :
    (∃ result, Returns s network result ∧ result.calls.Nodup ∧ result.freeAddresses.Nodup) ↔
      (maskSize cidr.mask).1 ≠ 0 ∨ StopsWithin s 0 22 (2 ^ 22) := by
  obtain ⟨base, n, lt, le, aligned, rfl, rfl, size, number⟩ := accepted_network parsed canonical v4
  have start : n = 0 → base = 0 := by
    rintro rfl
    exact Nat.eq_zero_of_dvd_of_lt aligned lt
  rw [size]
  constructor
  · rintro ⟨result, returns, nodup, -⟩
    by_contra endless
    obtain ⟨zero, free⟩ := not_or.mp endless
    obtain rfl : n = 0 := not_not.mp zero
    obtain rfl := start rfl
    exact not_nodup_of_wrapped parsed canonical free returns nodup
  · intro ends
    have ends' : n ≠ 0 ∨ StopsWithin s base (max n 22) (2 ^ (max n 22 - n)) := by
      by_cases zero : n = 0
      · obtain rfl := start zero
        subst zero
        exact ends
      · exact Or.inl zero
    have wide : max n minSubnetMaskSize ≤ 32 := max_le le (by decide)
    obtain ⟨k, small, passes, stop | ⟨inside, room, ⟨stderr, code⟩, failed⟩⟩ := stops_at ends'
    · refine ⟨_, returns_of_stop s parsed canonical lt le aligned small passes stop, ?_, ?_⟩
      · exact nodup_firstCalls wide (network_end_le lt le aligned small)
      · exact nodup_collected s (network_end_le lt le aligned small)
    · refine ⟨_, returns_of_failure s parsed canonical lt le aligned inside passes room failed,
        ?_, ?_⟩
      · exact nodup_firstCalls wide (network_end_le lt le aligned inside)
      · exact nodup_collected s (network_end_le lt le aligned small)

theorem scanNetwork_ends_quiet :
    ∃ result, Returns quiet "10.0.0.0/8" result ∧ result.calls.Nodup ∧ result.freeAddresses.Nodup :=
  (scanNetwork_ends_iff quiet (show parseCIDR "10.0.0.0/8" =
      .ok (v4InV6Prefix ++ [10, 0, 0, 0], ⟨[10, 0, 0, 0], [255, 0, 0, 0]⟩) by decide)
    (by decide) (by decide)).mpr (Or.inl (by decide))

/-- An `nmap` that finds every address of the network it scans up. Its output is the network. -/
def crowded : Scanner where
  execute _ command := ⟨command.getLastD "", "", 0⟩
  unmarshal network :=
    match parseCIDR network with
    | .error err => .error err
    | .ok (_, net) =>
      .ok ⟨(List.range (2 ^ (32 - (maskSize net.mask).1))).map fun j =>
        ⟨"up", [⟨ipString (toBytes 4 (beNat net.ip + j)), "ipv4"⟩]⟩⟩

/-- The report of `crowded` on a sub-network occupies it. -/
theorem crowded_scan (call : Nat) {m i : Nat} (le : m ≤ 32)
    (small : i * 2 ^ (32 - m) < 2 ^ 32) :
    ∃ run, crowded.scan call (subnetText 0 m i) = .ok run ∧ subnetFree 0 m i run = [] := by
  have net : parseCIDR (subnetText 0 m i) = .ok (v4InV6Prefix ++ toBytes 4 (0 + i * 2 ^ (32 - m)),
      ⟨toBytes 4 (0 + i * 2 ^ (32 - m)), prefixMask 4 m⟩) := by
    rw [subnetText, parseCIDR_cidrText (length_toBytes 4 _) le,
      v4Net_of_aligned le (aligned_round (dvd_zero _) i)]
  refine ⟨⟨(List.range (2 ^ (32 - m))).map fun j =>
    ⟨"up", [⟨ipString (toBytes 4 (0 + i * 2 ^ (32 - m) + j)), "ipv4"⟩]⟩⟩, ?_, ?_⟩
  · have number : beNat (toBytes 4 (0 + i * 2 ^ (32 - m))) = 0 + i * 2 ^ (32 - m) := by
      rw [beNat_toBytes]
      exact Nat.mod_eq_of_lt (by omega)
    rw [Nat.zero_add] at number
    simp [Scanner.scan, crowded, nmapCommand, net, number,
      maskSize_prefixMask (show m ≤ 8 * 4 by omega)]
  · rw [subnetFree, List.filter_eq_nil_iff]
    intro address member
    obtain ⟨j, inside, rfl⟩ := List.mem_map.mp member
    rw [decide_eq_true_iff, not_not, occupied, List.mem_filterMap]
    exact ⟨_, List.mem_map.mpr ⟨j, inside, rfl⟩, by simp⟩

/-- **The scan of `0.0.0.0/0` repeats itself** when every address is in use. -/
theorem scanNetwork_zero_crowded :
    parseCIDR "0.0.0.0/0" = .ok (v4InV6Prefix ++ toBytes 4 0, ⟨toBytes 4 0, prefixMask 4 0⟩) ∧
      netString ⟨toBytes 4 0, prefixMask 4 0⟩ = "0.0.0.0/0" ∧
      ¬ ∃ result, Returns crowded "0.0.0.0/0" result ∧ result.calls.Nodup ∧
        result.freeAddresses.Nodup := by
  have parsed : parseCIDR "0.0.0.0/0" =
      .ok (v4InV6Prefix ++ toBytes 4 0, ⟨toBytes 4 0, prefixMask 4 0⟩) := by decide
  have canonical : netString ⟨toBytes 4 0, prefixMask 4 0⟩ = "0.0.0.0/0" := by decide
  have below : ∀ i < 2 ^ 22, i * 2 ^ (32 - 22) < 2 ^ 32 := fun i small => by omega
  have none : ∀ k ≤ 2 ^ 22, collected crowded 0 22 k = [] := by
    intro k
    induction k with
    | zero => exact fun _ => rfl
    | succ k ih =>
      intro small
      obtain ⟨run, ok, nothing⟩ := crowded_scan k (show 22 ≤ 32 by decide) (below k small)
      simp only [collected, ih (show k ≤ 2 ^ 22 by omega), ok, nothing, List.append_nil]
  have free : ¬ StopsWithin crowded 0 22 (2 ^ 22) := by
    rintro ⟨k, small, ⟨failure, failed⟩ | full⟩
    · obtain ⟨run, ok, -⟩ := crowded_scan k (show 22 ≤ 32 by decide) (below k small)
      rw [failed] at ok
      cases ok
    · rw [none (k + 1) small] at full
      exact absurd full (by decide)
  refine ⟨parsed, canonical, ?_⟩
  rintro ⟨result, returns, nodup, -⟩
  exact not_nodup_of_wrapped parsed canonical free returns nodup

end AssistedAgent.FreeAddresses
