/-
**The free-address scan: `scanSubNetwork` and `scanNetwork`.**

`scanNetwork` checks that the text of the network is canonical, cuts it into sub-networks of prefix
length at least 22, and hands them to `nmap` one after another until it has left the network or has
collected `AddressLimit` free addresses.

* `Scanner` — the two things the scan asks of the outside: the `n`-th run of `nmap`, and the XML
  decoder. Every behaviour of `nmap` over a scan is one such function.
* `freeLoop`, `scanSubNetwork`, `scanLoop`, `scanNetwork` — the code. The two `for` loops stop on a
  membership test of a counter that wraps, so they are given fuel; `none` is "has not returned".
* `subnetText`, `subnetFree`, `collected` — the sub-networks of a network and what is free in them,
  in terms of numbers and of what `nmap` answers, with no loop.
* **`scanLoop_ok`**, **`scanLoop_error`**, **`scanLoop_stop`** — the loop, round by round: round `i`
  starts with `collected .. i` in hand and scans sub-network `i`.
-/

import AssistedAgent.FreeAddresses.Stepping
import AssistedAgent.Util.Network

namespace AssistedAgent.FreeAddresses

open Bytes GoNet Util

/-! ### The code -/

def addressLimit : Nat := 8000

def minSubnetMaskSize : Nat := 22

/-- What `Execute` returns. -/
structure ExecResult where
  stdout : String
  stderr : String
  exitCode : Int
deriving DecidableEq, Repr

/-- The outside of a scan: `execute n command` is the answer to the `n`-th command run, `unmarshal`
is `xml.Unmarshal` into an `Nmaprun`. -/
structure Scanner where
  execute : Nat → List String → ExecResult
  unmarshal : String → Except String Nmaprun

/-- The command line of one scan. -/
def nmapCommand (subNetwork : String) : List String :=
  ["nmap", "-sn", "-PR", "-n", "-oX", "-", subNetwork]

/-- The keys of `occupiedAddesses`: the first IPv4 address of every host that is up. -/
def occupied (run : Nmaprun) : List String :=
  run.hosts.filterMap fun h =>
    if h.state = "up" then (h.addresses.find? (·.addrType = "ipv4")).map (·.addr) else none

/-- The loop over the addresses of a sub-network. -/
def freeLoop (cidr : IPNet) (taken : List String) : Nat → IP → Option (List String)
  | 0, _ => none
  | fuel + 1, ip =>
    if contains cidr ip then
      (freeLoop cidr taken fuel (inc ip)).map fun rest =>
        if ipString ip ∈ taken then rest else ipString ip :: rest
    else some []

/-- One run of `nmap` and the decoding of its output: the report, or the error text and the exit
code that `scanSubNetwork` returns. -/
def Scanner.scan (s : Scanner) (call : Nat) (subNetwork : String) :
    Except (String × Int) Nmaprun :=
  let result := s.execute call (nmapCommand subNetwork)
  if result.exitCode ≠ 0 then .error (result.stderr, result.exitCode)
  else
    match s.unmarshal result.stdout with
    | .error err => .error (err, -1)
    | .ok run => .ok run

/-- What `scanSubNetwork` returns, with the commands it ran. -/
structure SubScan where
  free : List String
  stderr : String
  exitCode : Int
  calls : List (List String)
deriving DecidableEq, Repr

def scanSubNetwork (s : Scanner) (fuel call : Nat) (subNetwork : String) : Option SubScan :=
  match parseCIDR subNetwork with
  | .error err =>
    some ⟨[], "Network " ++ subNetwork ++ " is not a valid CIDR : " ++ err, -1, []⟩
  | .ok (ip, cidr) =>
    if netString cidr ≠ subNetwork then
      some ⟨[], "Requested CIDR " ++ netString cidr ++ " is not equal to provided subNetwork " ++
        subNetwork, -1, []⟩
    else
      match s.scan call subNetwork with
      | .error (stderr, exitCode) => some ⟨[], stderr, exitCode, [nmapCommand subNetwork]⟩
      | .ok run =>
        (freeLoop cidr (occupied run) fuel (to4 ip)).map fun free =>
          ⟨free, "", 0, [nmapCommand subNetwork]⟩

/-- What `scanNetwork` returns, with the commands it ran. -/
structure NetworkScan where
  network : String
  freeAddresses : List String
  stderr : String
  exitCode : Int
  calls : List (List String)
deriving DecidableEq, Repr

/-- The loop over the sub-networks, with what it has collected and the commands it has run. -/
def scanLoop (s : Scanner) (inner : Nat) (network : String) (cidr : IPNet) (mask : Nat) :
    Nat → IP → List String → List (List String) → Option NetworkScan
  | 0, _, _, _ => none
  | fuel + 1, ip, free, calls =>
    if contains cidr ip ∧ free.length < addressLimit then
      match scanSubNetwork s inner calls.length (ipString (to4 ip) ++ "/" ++ Nat.repr mask) with
      | none => none
      | some result =>
        if result.exitCode ≠ 0 then
          some ⟨network, free, result.stderr, result.exitCode, calls ++ result.calls⟩
        else
          match incSubnet ip mask with
          | none => none
          | some next =>
            scanLoop s inner network cidr mask fuel next (free ++ result.free)
              (calls ++ result.calls)
    else some ⟨network, free, "", 0, calls⟩

def scanNetwork (s : Scanner) (fuel : Nat) (network : String) : Option NetworkScan :=
  match parseCIDR network with
  | .error err =>
    some ⟨network, [], "Network " ++ network ++ " is not a valid CIDR: " ++ err, -1, []⟩
  | .ok (ip, cidr) =>
    if netString cidr ≠ network then
      some ⟨network, [], "Requested CIDR " ++ netString cidr ++ " is not equal to provided network "
        ++ network, -1, []⟩
    else
      let ones := (maskSize cidr.mask).1
      let mask := if ones < minSubnetMaskSize then minSubnetMaskSize else ones
      scanLoop s fuel network cidr mask fuel (to4 ip) [] []

/-! ### The sub-networks of a network -/

/-- The text of the `i`-th sub-network of prefix length `m` from the address `base` on. -/
def subnetText (base m i : Nat) : String := cidrText (toBytes 4 (base + i * 2 ^ (32 - m))) m

/-- The addresses of the `i`-th sub-network, ascending. -/
def subnetAddresses (base m i : Nat) : List String :=
  (List.range (2 ^ (32 - m))).map fun j => ipString (toBytes 4 (base + i * 2 ^ (32 - m) + j))

/-- The addresses of the `i`-th sub-network that a report leaves free. -/
def subnetFree (base m i : Nat) (run : Nmaprun) : List String :=
  (subnetAddresses base m i).filter (· ∉ occupied run)

/-- What the first `k` scans leave free, a failed one leaving nothing. -/
def collected (s : Scanner) (base m : Nat) : Nat → List String
  | 0 => []
  | k + 1 =>
    collected s base m k ++
      match s.scan k (subnetText base m k) with
      | .ok run => subnetFree base m k run
      | .error _ => []

/-- The commands of the first `k` scans. -/
def firstCalls (base m k : Nat) : List (List String) :=
  (List.range k).map fun i => nmapCommand (subnetText base m i)

/-! ### Networks on numbers -/

theorem contains_toBytes (base v : Nat) {n : Nat} (le : n ≤ 32) :
    contains ⟨toBytes 4 base, prefixMask 4 n⟩ (toBytes 4 v) = true ↔
      v % 2 ^ 32 / 2 ^ (32 - n) = base % 2 ^ 32 / 2 ^ (32 - n) := by
  rw [contains_iff (length_toBytes 4 _) (length_toBytes 4 _) le, beNat_toBytes, beNat_toBytes]
  rfl

/-- A block of a partition of the 32-bit numbers: `2 ^ n` blocks of `2 ^ (32 - n)` numbers. -/
theorem block_split {base n : Nat} (le : n ≤ 32) (aligned : 2 ^ (32 - n) ∣ base)
    (lt : base < 2 ^ 32) :
    ∃ q, base = q * 2 ^ (32 - n) ∧ q < 2 ^ n ∧ 2 ^ 32 = 2 ^ n * 2 ^ (32 - n) := by
  obtain ⟨q, rfl⟩ := aligned
  have whole : 2 ^ 32 = 2 ^ n * 2 ^ (32 - n) := by
    rw [← pow_add]
    congr 1
    omega
  refine ⟨q, Nat.mul_comm _ _, ?_, whole⟩
  rw [whole, Nat.mul_comm] at lt
  exact Nat.lt_of_mul_lt_mul_right lt

/-- The numbers of a block lie in its network. -/
theorem contains_of_lt {base n : Nat} (le : n ≤ 32) (aligned : 2 ^ (32 - n) ∣ base)
    (lt : base < 2 ^ 32) {j : Nat} (inside : j < 2 ^ (32 - n)) :
    base + j < 2 ^ 32 ∧
      contains ⟨toBytes 4 base, prefixMask 4 n⟩ (toBytes 4 (base + j)) = true := by
  obtain ⟨q, rfl, small, whole⟩ := block_split le aligned lt
  have pos : 0 < 2 ^ (32 - n) := Nat.pow_pos (by decide)
  have below : q * 2 ^ (32 - n) + j < 2 ^ 32 := by
    calc q * 2 ^ (32 - n) + j < (q + 1) * 2 ^ (32 - n) := by
          rw [Nat.add_mul, Nat.one_mul]
          omega
      _ ≤ 2 ^ n * 2 ^ (32 - n) := Nat.mul_le_mul_right _ small
      _ = 2 ^ 32 := whole.symm
  refine ⟨below, ?_⟩
  rw [contains_toBytes _ _ le, Nat.mod_eq_of_lt below, Nat.mod_eq_of_lt lt,
    Nat.mul_div_cancel _ pos, Nat.mul_comm, Nat.mul_add_div pos, Nat.div_eq_of_lt inside,
    Nat.add_zero]

/-- **The number after a block is outside its network**, also where it wraps, unless the network is
everything. -/
theorem not_contains_next {base n : Nat} (pos : 1 ≤ n) (le : n ≤ 32)
    (aligned : 2 ^ (32 - n) ∣ base) (lt : base < 2 ^ 32) :
    contains ⟨toBytes 4 base, prefixMask 4 n⟩ (toBytes 4 (base + 2 ^ (32 - n))) = false := by
  obtain ⟨q, rfl, small, whole⟩ := block_split le aligned lt
  have size : 0 < 2 ^ (32 - n) := Nat.pow_pos (by decide)
  have two : 2 ≤ 2 ^ n := by
    calc 2 = 2 ^ 1 := rfl
      _ ≤ 2 ^ n := Nat.pow_le_pow_right (by decide) pos
  rw [← Bool.not_eq_true, contains_toBytes _ _ le, Nat.mod_eq_of_lt lt,
    Nat.mul_div_cancel _ size, show q * 2 ^ (32 - n) + 2 ^ (32 - n) = (q + 1) * 2 ^ (32 - n) by ring,
    whole, Nat.mul_mod_mul_right, Nat.mul_div_cancel _ size]
  intro same
  rcases Nat.lt_or_ge (q + 1) (2 ^ n) with below | above
  · rw [Nat.mod_eq_of_lt below] at same
    omega
  · have last : q + 1 = 2 ^ n := by omega
    rw [last, Nat.mod_self] at same
    omega

/-- An aligned address is its own network address. -/
theorem v4Net_of_aligned {v m : Nat} (le : m ≤ 32) (aligned : 2 ^ (32 - m) ∣ v) :
    v4Net (toBytes 4 v) m = ⟨toBytes 4 v, prefixMask 4 m⟩ := by
  have masked := beNat_and_prefixMask (toBytes 4 v) (n := m) (by simpa using le)
  simp only [length_toBytes, beNat_toBytes] at masked
  have block : 2 ^ (32 - m) ∣ v % 2 ^ 32 :=
    (Nat.dvd_mod_iff (pow_dvd_pow 2 (by omega))).mpr aligned
  have same : andBytes (toBytes 4 v) (prefixMask 4 m) = toBytes 4 v := by
    refine eq_toBytes_of_beNat (by simp [andBytes]) ?_
    rw [masked]
    exact Nat.div_mul_cancel block
  rw [v4Net, same]

/-! ### The loops -/

/-- **The loop over a sub-network** lists its addresses that are not taken, ascending. -/
theorem freeLoop_at {base m : Nat} (pos : 1 ≤ m) (le : m ≤ 32) (aligned : 2 ^ (32 - m) ∣ base)
    (lt : base < 2 ^ 32) (taken : List String) :
    ∀ d j fuel, j + d = 2 ^ (32 - m) → d < fuel →
      freeLoop ⟨toBytes 4 base, prefixMask 4 m⟩ taken fuel (toBytes 4 (base + j)) =
        some (((List.range' j d).map fun j => ipString (toBytes 4 (base + j))).filter (· ∉ taken)) := by
  intro d
  induction d with
  | zero =>
    intro j fuel here enough
    obtain ⟨fuel, rfl⟩ := Nat.exists_eq_succ_of_ne_zero (show fuel ≠ 0 by omega)
    have out := not_contains_next pos le aligned lt
    rw [← here, Nat.add_zero] at out
    rw [freeLoop, out]
    rfl
  | succ d ih =>
    intro j fuel here enough
    obtain ⟨fuel, rfl⟩ := Nat.exists_eq_succ_of_ne_zero (show fuel ≠ 0 by omega)
    have inside := (contains_of_lt le aligned lt (show j < 2 ^ (32 - m) by omega)).2
    rw [freeLoop, if_pos inside, inc_toBytes, Nat.add_assoc, ih (j + 1) fuel (by omega) (by omega),
      Option.map_some, List.range'_succ, List.map_cons, List.filter_cons]
    by_cases found : ipString (toBytes 4 (base + j)) ∈ taken
    · simp [found]
    · simp [found]

/-- `scanSubNetwork` on the text of an aligned address passes both checks and runs `nmap` once. -/
theorem scanSubNetwork_aligned (s : Scanner) (fuel call : Nat) {v m : Nat} (le : m ≤ 32)
    (aligned : 2 ^ (32 - m) ∣ v) :
    scanSubNetwork s fuel call (cidrText (toBytes 4 v) m) =
      match s.scan call (cidrText (toBytes 4 v) m) with
      | .error (stderr, exitCode) =>
        some ⟨[], stderr, exitCode, [nmapCommand (cidrText (toBytes 4 v) m)]⟩
      | .ok run =>
        (freeLoop ⟨toBytes 4 v, prefixMask 4 m⟩ (occupied run) fuel (toBytes 4 v)).map fun free =>
          ⟨free, "", 0, [nmapCommand (cidrText (toBytes 4 v) m)]⟩ := by
  have four : (toBytes 4 v).length = 4 := length_toBytes 4 v
  unfold scanSubNetwork
  rw [parseCIDR_cidrText four le, v4Net_of_aligned le aligned]
  simp only [netString_v4 four le, to4_as16 four, ne_eq, not_true_eq_false, if_false]

theorem exitCode_ne_zero_of_scan {s : Scanner} {call : Nat} {text err : String} {code : Int}
    (failed : s.scan call text = .error (err, code)) : code ≠ 0 := by
  unfold Scanner.scan at failed
  simp only at failed
  split at failed
  · rename_i nonzero
    cases failed
    exact nonzero
  · split at failed
    · cases failed
      decide
    · cases failed

theorem loop_text (v m : Nat) :
    ipString (to4 (toBytes 4 v)) ++ "/" ++ Nat.repr m = cidrText (toBytes 4 v) m := by
  rw [to4_of_length (length_toBytes 4 v), ipString_v4 (length_toBytes 4 v), cidrText]

section Rounds

variable (s : Scanner) (network : String) {base m : Nat}

theorem length_firstCalls (base m k : Nat) : (firstCalls base m k).length = k := by
  simp [firstCalls]

theorem firstCalls_succ (base m k : Nat) :
    firstCalls base m (k + 1) = firstCalls base m k ++ [nmapCommand (subnetText base m k)] := by
  simp [firstCalls, List.range_succ]

theorem aligned_round (aligned : 2 ^ (32 - m) ∣ base) (i : Nat) :
    2 ^ (32 - m) ∣ base + i * 2 ^ (32 - m) :=
  Nat.dvd_add aligned (Nat.dvd_mul_left _ _)

/-- **A round whose scan succeeds** goes on with the next sub-network. -/
theorem scanLoop_ok {cidr : IPNet} {inner fuel i : Nat} {run : Nmaprun} (pos : 1 ≤ m) (le : m ≤ 32)
    (aligned : 2 ^ (32 - m) ∣ base) (lt : base + i * 2 ^ (32 - m) < 2 ^ 32)
    (enough : 2 ^ (32 - m) < inner)
    (inside : contains cidr (toBytes 4 (base + i * 2 ^ (32 - m))) = true)
    (room : (collected s base m i).length < addressLimit)
    (ok : s.scan i (subnetText base m i) = .ok run) :
    scanLoop s inner network cidr m (fuel + 1) (toBytes 4 (base + i * 2 ^ (32 - m)))
        (collected s base m i) (firstCalls base m i) =
      scanLoop s inner network cidr m fuel (toBytes 4 (base + (i + 1) * 2 ^ (32 - m)))
        (collected s base m (i + 1)) (firstCalls base m (i + 1)) := by
  have block := aligned_round aligned i
  have free := freeLoop_at pos le block lt (occupied run) (2 ^ (32 - m)) 0 inner (by omega) enough
  rw [Nat.add_zero] at free
  have sub : scanSubNetwork s inner i (subnetText base m i) =
      some ⟨subnetFree base m i run, "", 0, [nmapCommand (subnetText base m i)]⟩ := by
    rw [subnetText] at ok ⊢
    rw [scanSubNetwork_aligned s inner i le block, ok]
    simp only [free, Option.map_some, subnetFree, subnetAddresses, List.range_eq_range']
  have next : base + i * 2 ^ (32 - m) + 2 ^ (32 - m) = base + (i + 1) * 2 ^ (32 - m) := by ring
  rw [scanLoop, if_pos ⟨inside, room⟩, length_firstCalls, loop_text, ← subnetText, sub]
  simp only [ne_eq, not_true_eq_false, if_false, incSubnet_toBytes _ pos le, next, firstCalls_succ,
    collected, ok]

/-- **A round whose scan fails** returns the error, with what the rounds before it collected. -/
theorem scanLoop_error {cidr : IPNet} {inner fuel i : Nat} {stderr : String} {code : Int}
    (le : m ≤ 32) (aligned : 2 ^ (32 - m) ∣ base)
    (inside : contains cidr (toBytes 4 (base + i * 2 ^ (32 - m))) = true)
    (room : (collected s base m i).length < addressLimit)
    (failed : s.scan i (subnetText base m i) = .error (stderr, code)) :
    scanLoop s inner network cidr m (fuel + 1) (toBytes 4 (base + i * 2 ^ (32 - m)))
        (collected s base m i) (firstCalls base m i) =
      some ⟨network, collected s base m i, stderr, code, firstCalls base m (i + 1)⟩ := by
  have sub : scanSubNetwork s inner i (subnetText base m i) =
      some ⟨[], stderr, code, [nmapCommand (subnetText base m i)]⟩ := by
    rw [subnetText] at failed ⊢
    rw [scanSubNetwork_aligned s inner i le (aligned_round aligned i), failed]
  rw [scanLoop, if_pos ⟨inside, room⟩, length_firstCalls, loop_text, ← subnetText, sub]
  simp only [ne_eq, exitCode_ne_zero_of_scan failed, not_false_eq_true, if_true, firstCalls_succ]

/-- **A round that does not start** returns what is collected. -/
theorem scanLoop_stop {cidr : IPNet} {inner fuel : Nat} {ip : IP} {free : List String}
    {calls : List (List String)} (stop : contains cidr ip = false ∨ addressLimit ≤ free.length) :
    scanLoop s inner network cidr m (fuel + 1) ip free calls =
      some ⟨network, free, "", 0, calls⟩ := by
  rw [scanLoop, if_neg]
  rintro ⟨inside, room⟩
  rcases stop with out | full
  · rw [out] at inside
    cases inside
  · omega

end Rounds

/-! ### Fuel -/

theorem freeLoop_mono {cidr : IPNet} {taken : List String} {fuel more : Nat} (le : fuel ≤ more)
    {ip : IP} {free : List String} (returns : freeLoop cidr taken fuel ip = some free) :
    freeLoop cidr taken more ip = some free := by
  induction fuel generalizing more ip free with
  | zero => cases returns
  | succ fuel ih =>
    obtain ⟨more, rfl⟩ := Nat.exists_eq_succ_of_ne_zero (show more ≠ 0 by omega)
    unfold freeLoop at returns ⊢
    by_cases inside : contains cidr ip = true
    · rw [if_pos inside] at returns ⊢
      obtain ⟨rest, tail, same⟩ := Option.map_eq_some_iff.mp returns
      rw [ih (by omega) tail, Option.map_some, same]
    · rw [if_neg inside] at returns ⊢
      exact returns

theorem scanSubNetwork_mono {s : Scanner} {fuel more : Nat} (le : fuel ≤ more) {call : Nat}
    {subNetwork : String} {result : SubScan}
    (returns : scanSubNetwork s fuel call subNetwork = some result) :
    scanSubNetwork s more call subNetwork = some result := by
  unfold scanSubNetwork at returns ⊢
  split at returns
  · exact returns
  · rename_i ip cidr _
    by_cases other : netString cidr ≠ subNetwork
    · rw [if_pos other] at returns ⊢
      exact returns
    · rw [if_neg other] at returns ⊢
      split at returns
      · exact returns
      · obtain ⟨free, inner, same⟩ := Option.map_eq_some_iff.mp returns
        simp only [freeLoop_mono le inner, Option.map_some, same]

theorem scanLoop_mono {s : Scanner} {network : String} {cidr : IPNet} {mask : Nat}
    {inner more : Nat} (le : inner ≤ more) {fuel steps : Nat} (le' : fuel ≤ steps) {ip : IP}
    {free : List String} {calls : List (List String)} {result : NetworkScan}
    (returns : scanLoop s inner network cidr mask fuel ip free calls = some result) :
    scanLoop s more network cidr mask steps ip free calls = some result := by
  induction fuel generalizing steps ip free calls with
  | zero => cases returns
  | succ fuel ih =>
    obtain ⟨steps, rfl⟩ := Nat.exists_eq_succ_of_ne_zero (show steps ≠ 0 by omega)
    unfold scanLoop at returns ⊢
    by_cases going : contains cidr ip = true ∧ free.length < addressLimit
    · rw [if_pos going] at returns ⊢
      split at returns
      · cases returns
      · rename_i sub found
        simp only [scanSubNetwork_mono le found]
        by_cases failed : sub.exitCode ≠ 0
        · rw [if_pos failed] at returns ⊢
          exact returns
        · rw [if_neg failed] at returns ⊢
          split at returns
          · cases returns
          · exact ih (by omega) returns
    · rw [if_neg going] at returns ⊢
      exact returns

theorem scanNetwork_mono {s : Scanner} {fuel more : Nat} (le : fuel ≤ more) {network : String}
    {result : NetworkScan} (returns : scanNetwork s fuel network = some result) :
    scanNetwork s more network = some result := by
  unfold scanNetwork at returns ⊢
  split at returns
  · exact returns
  · rename_i ip cidr _
    by_cases other : netString cidr ≠ network
    · rw [if_pos other] at returns ⊢
      exact returns
    · rw [if_neg other] at returns ⊢
      exact scanLoop_mono le le returns

/-- `scanNetwork` returns the result: some amount of fuel is enough. -/
def Returns (s : Scanner) (network : String) (result : NetworkScan) : Prop :=
  ∃ fuel, scanNetwork s fuel network = some result

/-- What `scanNetwork` returns does not depend on the fuel. -/
theorem Returns.unique {s : Scanner} {network : String} {first second : NetworkScan}
    (left : Returns s network first) (right : Returns s network second) : first = second := by
  obtain ⟨fuel, left⟩ := left
  obtain ⟨fuel', right⟩ := right
  have left' := scanNetwork_mono (le_max_left fuel fuel') left
  rw [scanNetwork_mono (le_max_right fuel fuel') right] at left'
  exact (Option.some.inj left').symm

/-- The commands already run stay at the front of those reported. -/
theorem calls_prefix {s : Scanner} {network : String} {cidr : IPNet} {mask inner fuel : Nat} {ip : IP}
    {free : List String} {calls : List (List String)} {result : NetworkScan}
    (returns : scanLoop s inner network cidr mask fuel ip free calls = some result) :
    calls <+: result.calls := by
  induction fuel generalizing ip free calls with
  | zero => cases returns
  | succ fuel ih =>
    unfold scanLoop at returns
    split at returns
    · split at returns
      · cases returns
      · rename_i sub _
        split at returns
        · cases returns
          exact List.prefix_append _ _
        · split at returns
          · cases returns
          · exact (List.prefix_append _ _).trans (ih returns)
    · cases returns
      exact List.prefix_rfl

/-- **A round entered runs its command.** -/
theorem calls_prefix_round {s : Scanner} {network : String} {cidr : IPNet} {v m inner fuel : Nat}
    {free : List String} {calls : List (List String)} {result : NetworkScan} (le : m ≤ 32)
    (aligned : 2 ^ (32 - m) ∣ v) (inside : contains cidr (toBytes 4 v) = true)
    (room : free.length < addressLimit)
    (returns : scanLoop s inner network cidr m fuel (toBytes 4 v) free calls = some result) :
    calls ++ [nmapCommand (cidrText (toBytes 4 v) m)] <+: result.calls := by
  rcases fuel with _ | fuel
  · cases returns
  rw [scanLoop, if_pos ⟨inside, room⟩, loop_text] at returns
  split at returns
  · cases returns
  · rename_i sub found
    have command : sub.calls = [nmapCommand (cidrText (toBytes 4 v) m)] := by
      rw [scanSubNetwork_aligned s inner calls.length le aligned] at found
      split at found
      · cases found
        rfl
      · obtain ⟨free', -, rfl⟩ := Option.map_eq_some_iff.mp found
        rfl
    rw [← command]
    split at returns
    · cases returns
      exact List.prefix_rfl
    · split at returns
      · cases returns
      · exact calls_prefix returns

end AssistedAgent.FreeAddresses
