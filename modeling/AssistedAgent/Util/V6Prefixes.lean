/-
**The prefixes of IPv6 addresses.**

`SetV6PrefixesForAddress` gives each address the prefix of the first usable route that contains it.

* **`keepsAddresses`** — it changes nothing but prefixes, and applied again it changes nothing.
* **`mostSpecific_iff`** — the prefixes are those of the most specific routes, whatever the order of the
  routes is, exactly when the usable routes that contain an address have the same prefix length.
* `not_mostSpecific_overlap` — a route list for which they are not.
-/

import AssistedAgent.Lib.GoNetV6
import AssistedAgent.Util.Interface

namespace AssistedAgent.Util

open Bytes GoNet

/-! ### Usable routes -/

/-- The route is advertised and has an IPv6 destination. -/
def Usable (route : Route) (dst : IPNet) : Prop :=
  route.dst = some dst ∧ dst.ip.length = 16 ∧ route.protocol = rtprotRA

theorem usableIPv6Dst_eq_some_iff {route : Route} {dst : IPNet} :
    usableIPv6Dst route = some dst ↔ Usable route dst := by
  unfold usableIPv6Dst Usable
  cases route.dst with
  | none => simp
  | some other =>
    simp only [Option.ite_none_right_eq_some, Option.some.injEq]
    constructor
    · rintro ⟨⟨sixteen, advertised⟩, rfl⟩
      exact ⟨rfl, sixteen, advertised⟩
    · rintro ⟨rfl, sixteen, advertised⟩
      exact ⟨⟨sixteen, advertised⟩, rfl⟩

/-- The destinations of the usable routes that contain an address. -/
def containing (routes : List Route) (ip : IP) : List IPNet :=
  (routes.filterMap usableIPv6Dst).filter (GoNet.contains · ip)

theorem mem_containing_iff {routes : List Route} {ip : IP} {dst : IPNet} :
    dst ∈ containing routes ip ↔ (∃ route ∈ routes, Usable route dst) ∧ GoNet.contains dst ip = true := by
  rw [containing, List.mem_filter, List.mem_filterMap]
  simp only [usableIPv6Dst_eq_some_iff]

/-! ### One address -/

/-- The text of an IPv6 address that is not IPv4-mapped, with a prefix length. -/
def IsV6 (addr : String) (ip : IP) : Prop := (∃ net, parseCIDR addr = .ok (ip, net)) ∧ to4 ip = []

variable {routes : List Route} {addr : String} {ip : IP}

theorem IsV6.sixteen (v6 : IsV6 addr ip) : ip.length = 16 := by
  obtain ⟨⟨net, parsed⟩, notV4⟩ := v6
  exact (v6_of_parseCIDR parsed notV4).1

theorem contains_colon_iff : GoStrings.contains addr ":" = true ↔ ':' ∈ addr.toList := by
  have colon : ":".toList = [':'] := rfl
  rw [GoStrings.contains, decide_eq_true_eq, colon, List.singleton_infix_iff]

/-- What is read of an address that is not skipped. -/
theorem prefixed_of_parse {dsts : List IPNet} {net : IPNet} (colon : ':' ∈ addr.toList)
    (parsed : parseCIDR addr = .ok (ip, net)) :
    prefixed dsts addr =
      ((dsts.find? (GoNet.contains · ip)).map fun dst => netString ⟨ip, dst.mask⟩).getD addr := by
  have filled : addr ≠ "" := by
    rintro rfl
    cases colon
  have read : ¬ (addr = "" ∨ (! GoStrings.contains addr ":") = true) := by
    rw [contains_colon_iff.mpr colon]
    rintro (empty | other)
    · exact filled empty
    · cases other
  rw [prefixed, if_neg read, parsed]
  dsimp only
  cases dsts.find? (GoNet.contains · ip) <;> rfl

theorem prefixed_v6 {dsts : List IPNet} (v6 : IsV6 addr ip) :
    prefixed dsts addr =
      ((dsts.find? (GoNet.contains · ip)).map fun dst => netString ⟨ip, dst.mask⟩).getD addr := by
  obtain ⟨⟨net, parsed⟩, notV4⟩ := v6
  exact prefixed_of_parse (v6_of_parseCIDR parsed notV4).2 parsed

theorem prefixed_of_no_colon {dsts : List IPNet} (without : ':' ∉ addr.toList) :
    prefixed dsts addr = addr := by
  have skipped : (! GoStrings.contains addr ":") = true := by
    rw [Bool.not_eq_true']
    exact Bool.eq_false_iff.mpr fun found => without (contains_colon_iff.mp found)
  exact if_pos (.inr skipped)

theorem prefixed_of_error {dsts : List IPNet} {err : String} (failed : parseCIDR addr = .error err) :
    prefixed dsts addr = addr := by
  unfold prefixed
  rw [failed]
  exact ite_self addr

/-- An address in the network of the first route that contains it. -/
theorem IsV6.denoted_prefixed (v6 : IsV6 addr ip) (dsts : List IPNet) :
    denoted (prefixed dsts addr) = ip := by
  rw [prefixed_v6 v6]
  cases found : dsts.find? (GoNet.contains · ip) with
  | none =>
    obtain ⟨⟨net, parsed⟩, -⟩ := v6
    exact denoted_of_parseCIDR parsed
  | some dst =>
    have inside : GoNet.contains dst ip = true := (List.find?_eq_some_iff_append.mp found).1
    have wide := length_mask_of_contains v6.sixteen v6.2 inside
    exact denoted_netString_v6 v6.sixteen v6.2 wide

/-! ### Applying it twice -/

theorem colon_not_mem_hexString (bytes : List UInt8) : ':' ∉ hexString bytes := by
  intro member
  obtain ⟨b, -, found⟩ := List.mem_flatMap.mp member
  have high : b.toNat / 16 < 16 := by have := b.toNat_lt; omega
  have low : b.toNat % 16 < 16 := Nat.mod_lt _ (by decide)
  have digit : ∀ d < 16, Nat.digitChar d ≠ ':' := by decide
  rcases List.mem_cons.mp found with is | found
  · exact digit _ high is.symm
  · exact digit _ low (List.mem_singleton.mp found).symm

theorem colon_not_mem_dotted (bytes : List UInt8) : ':' ∉ dotted bytes := by
  intro member
  rcases dotted_chars bytes ':' member with digit | dot
  · cases digit
  · cases dot

/-- The text of an IPv4 network has no colon, whatever its mask is. -/
theorem colon_not_mem_netString {mask : IPMask} (v4 : to4 ip ≠ []) :
    ':' ∉ (netString ⟨ip, mask⟩).toList := by
  have number : (networkNumberAndMask ⟨ip, mask⟩).1 = [] ∨
      (networkNumberAndMask ⟨ip, mask⟩).1 = to4 ip := by
    unfold networkNumberAndMask
    rw [if_pos v4]
    dsimp only
    split
    · exact .inl rfl
    split
    · split
      · exact .inr rfl
      · exact .inl rfl
    split
    · split <;> exact .inr rfl
    · exact .inl rfl
  unfold netString
  generalize networkNumberAndMask ⟨ip, mask⟩ = pair at number
  obtain ⟨nn, m⟩ := pair
  dsimp only at number ⊢
  split
  · decide
  rename_i filled
  obtain rfl := number.resolve_left fun empty => filled (.inl empty)
  have slash : "/".toList = ['/'] := rfl
  rw [ipString_v4 (length_to4 v4)]
  split
  · simp [colon_not_mem_dotted, colon_not_mem_hexString]
  · rename_i l _
    have digits : ':' ∉ Nat.toDigits 10 l := not_mem_toDigits rfl l
    simp [colon_not_mem_dotted, Nat.toList_repr, digits]

/-- **Prefixes that were set stay.** -/
theorem prefixed_prefixed (dsts : List IPNet) (addr : String) :
    prefixed dsts (prefixed dsts addr) = prefixed dsts addr := by
  by_cases colon : ':' ∈ addr.toList
  swap
  · rw [prefixed_of_no_colon colon, prefixed_of_no_colon colon]
  cases parsed : parseCIDR addr with
  | error err => rw [prefixed_of_error parsed, prefixed_of_error parsed]
  | ok result =>
    obtain ⟨ip, net⟩ := result
    by_cases v4 : to4 ip = []
    swap
    · -- An IPv4-mapped address is written in dotted form, and skipped the next time.
      rw [prefixed_of_parse colon parsed]
      cases found : dsts.find? (GoNet.contains · ip) with
      | none =>
        change prefixed dsts addr = addr
        rw [prefixed_of_parse colon parsed, found]
        rfl
      | some dst => exact prefixed_of_no_colon (colon_not_mem_netString v4)
    have v6 : IsV6 addr ip := ⟨⟨net, parsed⟩, v4⟩
    have denotes := v6.denoted_prefixed dsts
    cases again : parseCIDR (prefixed dsts addr) with
    | error err => exact prefixed_of_error again
    | ok result =>
      obtain ⟨ip', net'⟩ := result
      obtain rfl : ip' = ip := (denoted_of_parseCIDR again).symm.trans denotes
      rw [prefixed_v6 ⟨⟨net', again⟩, v4⟩, prefixed_v6 v6]
      cases dsts.find? (GoNet.contains · ip') <;> rfl

/-! ### What is changed -/

/-- The addresses are kept, apart from prefixes. -/
structure KeepsAddresses (d : Dependencies) (link : String) (addresses : List String) : Prop where
  failed : ∀ err, (setV6PrefixesForAddress d link addresses).2 = some err →
    (setV6PrefixesForAddress d link addresses).1 = addresses
  length : (setV6PrefixesForAddress d link addresses).1.length = addresses.length
  skipped : ∀ (i : Nat) addr, addresses[i]? = some addr →
    addr = "" ∨ ':' ∉ addr.toList ∨ (∃ err, parseCIDR addr = .error err) →
      (setV6PrefixesForAddress d link addresses).1[i]? = some addr
  /-- The network of the route has a prefix length if its mask has one. -/
  kept : ∀ (i : Nat) addr ip, addresses[i]? = some addr → IsV6 addr ip →
    ∃ new, (setV6PrefixesForAddress d link addresses).1[i]? = some new ∧ denoted new = ip ∧
      (new ≠ addr → ∃ l routes, d.linkByName link = .ok l ∧ d.routeList l = .ok routes ∧
        ∃ route ∈ routes, ∃ dst, Usable route dst ∧ GoNet.contains dst ip = true ∧
          ∀ n ≤ 128, dst.mask = prefixMask 16 n →
            ∃ net, parseCIDR new = .ok (ip, net) ∧ net.mask = prefixMask 16 n)
  again : (setV6PrefixesForAddress d link (setV6PrefixesForAddress d link addresses).1).1 =
    (setV6PrefixesForAddress d link addresses).1

/-- It fails and leaves every list, or it sets the prefixes of every list. -/
theorem setV6PrefixesForAddress_cases (d : Dependencies) (link : String) :
    (∀ addresses, (setV6PrefixesForAddress d link addresses).1 = addresses) ∨
      ∃ l routes, d.linkByName link = .ok l ∧ d.routeList l = .ok routes ∧
        ∀ addresses, setV6PrefixesForAddress d link addresses =
          (addresses.map (prefixed (routes.filterMap usableIPv6Dst)), none) := by
  cases found : d.linkByName link with
  | error err =>
    refine .inl fun addresses => ?_
    unfold setV6PrefixesForAddress
    rw [found]
    split <;> rfl
  | ok l =>
    cases listed : d.routeList l with
    | error err =>
      refine .inl fun addresses => ?_
      unfold setV6PrefixesForAddress getUsableIPv6Routes
      rw [found]
      dsimp only
      rw [listed]
      split <;> rfl
    | ok routes =>
      refine .inr ⟨l, routes, rfl, listed, fun addresses => ?_⟩
      unfold setV6PrefixesForAddress getUsableIPv6Routes
      rw [found]
      dsimp only
      rw [listed]
      split
      · rename_i empty
        rw [empty]
        rfl
      · rfl

/-- An IPv6 address that changes is in the network of a usable route, and has its prefix length. -/
theorem IsV6.prefixed_changed (v6 : IsV6 addr ip)
    (changed : prefixed (routes.filterMap usableIPv6Dst) addr ≠ addr) :
    ∃ route ∈ routes, ∃ dst, Usable route dst ∧ GoNet.contains dst ip = true ∧
      ∀ n ≤ 128, dst.mask = prefixMask 16 n →
        ∃ net, parseCIDR (prefixed (routes.filterMap usableIPv6Dst) addr) = .ok (ip, net) ∧
          net.mask = prefixMask 16 n := by
  rw [prefixed_v6 v6] at changed ⊢
  cases found : (routes.filterMap usableIPv6Dst).find? (GoNet.contains · ip) with
  | none =>
    rw [found] at changed
    exact absurd rfl changed
  | some dst =>
    obtain ⟨route, listed, usable⟩ := List.mem_filterMap.mp (List.mem_of_find?_eq_some found)
    have inside : GoNet.contains dst ip = true := (List.find?_eq_some_iff_append.mp found).1
    refine ⟨route, listed, dst, usableIPv6Dst_eq_some_iff.mp usable, inside, fun n le mask => ?_⟩
    change ∃ net, parseCIDR (netString ⟨ip, dst.mask⟩) = .ok (ip, net) ∧ _
    rw [mask]
    exact ⟨_, parseCIDR_netString_v6 v6.sixteen v6.2 le, rfl⟩

/-- **Nothing but prefixes is changed**, whatever the routes are and whether they are found. -/
theorem keepsAddresses (d : Dependencies) (link : String) (addresses : List String) :
    KeepsAddresses d link addresses := by
  rcases setV6PrefixesForAddress_cases d link with same | ⟨l, routes, found, listed, sets⟩
  · refine ⟨fun _ _ => same addresses, ?_, ?_, ?_, ?_⟩
    · rw [same]
    · intro i addr here _
      rw [same]
      exact here
    · intro i addr ip here v6
      obtain ⟨⟨net, parsed⟩, -⟩ := v6
      rw [same]
      exact ⟨addr, here, denoted_of_parseCIDR parsed, fun changed => absurd rfl changed⟩
    · rw [same]
  · have entry {i : Nat} {addr : String} (here : addresses[i]? = some addr) :
        (setV6PrefixesForAddress d link addresses).1[i]? =
          some (prefixed (routes.filterMap usableIPv6Dst) addr) := by
      rw [sets, List.getElem?_map, here]
      rfl
    refine ⟨?_, ?_, ?_, ?_, ?_⟩
    · intro err failed
      rw [sets] at failed
      cases failed
    · rw [sets, List.length_map]
    · intro i addr here skipped
      rw [entry here]
      rcases skipped with rfl | without | ⟨err, failed⟩
      · exact congrArg some (if_pos (.inl rfl))
      · rw [prefixed_of_no_colon without]
      · rw [prefixed_of_error failed]
    · intro i addr ip here v6
      exact ⟨_, entry here, v6.denoted_prefixed _,
        fun changed => ⟨l, routes, found, listed, v6.prefixed_changed changed⟩⟩
    · rw [sets, sets, List.map_map]
      exact List.map_congr_left fun addr _ => prefixed_prefixed _ addr

/-! ### The most specific route -/

/-- netlink gives a destination the mask of its prefix length. -/
def FromKernel (routes : List Route) : Prop :=
  ∀ route ∈ routes, ∀ dst, route.dst = some dst → ∃ n, dst.mask = cidrMask n (8 * dst.ip.length)

/-- The prefix length of a network. -/
def prefixLength (net : IPNet) : Nat := (maskSize net.mask).1

/-- The prefix length of an entry. -/
def entryLength (addr : String) : Option Nat :=
  match parseCIDR addr with
  | .ok (_, net) => some (prefixLength net)
  | .error _ => none

/-- The entry has the prefix length of the most specific route, if there is one. -/
def LongestMatch (routes : List Route) (ip : IP) (addr new : String) : Prop :=
  (∃ dst ∈ containing routes ip,
    (∀ other ∈ containing routes ip, prefixLength other ≤ prefixLength dst) ∧
      entryLength new = some (prefixLength dst)) ∨
    (containing routes ip = [] ∧ new = addr)

/-- The addresses, if the kernel has these routes. -/
def addressesAfter (d : Dependencies) (link : String) (addresses : List String) (routes : List Route) :
    List String :=
  (setV6PrefixesForAddress { d with routeList := fun _ => .ok routes } link addresses).1

structure MostSpecific (d : Dependencies) (link : String) (addresses : List String)
    (routes : List Route) : Prop where
  longest : ∀ (i : Nat) addr ip, addresses[i]? = some addr → IsV6 addr ip →
    ∃ new, (addressesAfter d link addresses routes)[i]? = some new ∧ LongestMatch routes ip addr new
  /-- The order of the routes does not matter. -/
  order : ∀ others : List Route, others.Perm routes → ∀ (i : Nat) addr ip, addresses[i]? = some addr →
    IsV6 addr ip →
      (addressesAfter d link addresses others)[i]? = (addressesAfter d link addresses routes)[i]?

/-- The usable routes that contain an address have one prefix length. -/
def Unambiguous (addresses : List String) (routes : List Route) : Prop :=
  ∀ addr ∈ addresses, ∀ ip, IsV6 addr ip → ∀ dst ∈ containing routes ip,
    ∀ other ∈ containing routes ip, prefixLength dst = prefixLength other

/-- The address in the text of one that is not IPv4-mapped. -/
def v6Address (addr : String) : Option IP :=
  match parseCIDR addr with
  | .ok (ip, _) => if to4 ip = [] then some ip else none
  | .error _ => none

theorem v6Address_eq_some_iff : v6Address addr = some ip ↔ IsV6 addr ip := by
  unfold v6Address IsV6
  cases parseCIDR addr with
  | error err => simp
  | ok pair =>
    obtain ⟨ip', net⟩ := pair
    by_cases notV4 : to4 ip' = []
    · simp only [if_pos notV4, Option.some.injEq, Except.ok.injEq, Prod.mk.injEq, exists_eq_right']
      exact ⟨fun same => ⟨same, same ▸ notV4⟩, And.left⟩
    · simp only [if_neg notV4, reduceCtorEq, Except.ok.injEq, Prod.mk.injEq, exists_eq_right', false_iff]
      rintro ⟨rfl, v4⟩
      exact notV4 v4

theorem unambiguous_iff {addresses : List String} : Unambiguous addresses routes ↔
    ∀ ip ∈ addresses.filterMap v6Address, ∀ dst ∈ containing routes ip, ∀ other ∈ containing routes ip,
      prefixLength dst = prefixLength other := by
  simp only [Unambiguous, List.mem_filterMap, v6Address_eq_some_iff]
  exact ⟨fun same ip ⟨addr, member, v6⟩ => same addr member ip v6,
    fun same addr member ip v6 => same ip ⟨addr, member, v6⟩⟩

instance (addresses : List String) (routes : List Route) : Decidable (Unambiguous addresses routes) :=
  decidable_of_iff _ unambiguous_iff.symm

theorem FromKernel.mask (kernel : FromKernel routes) (v6 : IsV6 addr ip) {dst : IPNet}
    (mem : dst ∈ containing routes ip) : ∃ n ≤ 128, dst.mask = prefixMask 16 n := by
  obtain ⟨⟨route, listed, here, sixteen, -⟩, inside⟩ := mem_containing_iff.mp mem
  obtain ⟨n, mask⟩ := kernel route listed dst here
  have wide := length_mask_of_contains v6.sixteen v6.2 inside
  rw [mask, sixteen, cidrMask] at wide
  rw [mask, sixteen, cidrMask]
  split at wide
  · rename_i fits
    exact ⟨n, fits.2, if_pos fits⟩
  · cases wide

theorem prefixLength_of_mask {dst : IPNet} {n : Nat} (le : n ≤ 128) (mask : dst.mask = prefixMask 16 n) :
    prefixLength dst = n := by
  rw [prefixLength, mask, maskSize_prefixMask (by omega)]

section Found

variable {d : Dependencies} {link : String} {addresses : List String} {l : Link} {i : Nat}

theorem addressesAfter_entry (found : d.linkByName link = .ok l) (routes : List Route)
    (here : addresses[i]? = some addr) :
    (addressesAfter d link addresses routes)[i]? =
      some (prefixed (routes.filterMap usableIPv6Dst) addr) := by
  have filled : addresses ≠ [] := by
    rintro rfl
    cases here
  unfold addressesAfter setV6PrefixesForAddress getUsableIPv6Routes
  rw [if_neg filled, found]
  change (addresses.map (prefixed (routes.filterMap usableIPv6Dst)))[i]? = _
  rw [List.getElem?_map, here]
  rfl

/-- The entry of an address that a route contains is that of some such route. -/
theorem prefixed_of_containing (v6 : IsV6 addr ip) {dst : IPNet} (mem : dst ∈ containing routes ip) :
    ∃ first ∈ containing routes ip,
      prefixed (routes.filterMap usableIPv6Dst) addr = netString ⟨ip, first.mask⟩ := by
  rw [prefixed_v6 v6]
  cases found : (routes.filterMap usableIPv6Dst).find? (GoNet.contains · ip) with
  | none =>
    obtain ⟨listed, inside⟩ := List.mem_filter.mp mem
    exact absurd inside (List.find?_eq_none.mp found dst listed)
  | some first =>
    have inside : GoNet.contains first ip = true := (List.find?_eq_some_iff_append.mp found).1
    exact ⟨first, List.mem_filter.mpr ⟨List.mem_of_find?_eq_some found, inside⟩, rfl⟩

theorem prefixed_of_not_containing (v6 : IsV6 addr ip) (none_ : containing routes ip = []) :
    prefixed (routes.filterMap usableIPv6Dst) addr = addr := by
  have found : (routes.filterMap usableIPv6Dst).find? (GoNet.contains · ip) = none :=
    List.find?_eq_none.mpr (List.filter_eq_nil_iff.mp none_)
  rw [prefixed_v6 v6, found]
  rfl

/-- A route that comes first is the one that counts. -/
theorem prefixed_of_first (v6 : IsV6 addr ip) {dst : IPNet} (mem : dst ∈ containing routes ip) :
    ∃ others : List Route, others.Perm routes ∧
      prefixed (others.filterMap usableIPv6Dst) addr = netString ⟨ip, dst.mask⟩ := by
  obtain ⟨⟨route, listed, usable⟩, inside⟩ := mem_containing_iff.mp mem
  refine ⟨route :: routes.erase route, (List.perm_cons_erase listed).symm, ?_⟩
  rw [prefixed_v6 v6, List.filterMap_cons_some (usableIPv6Dst_eq_some_iff.mpr usable),
    List.find?_cons, inside]
  rfl

theorem entryLength_netString (v6 : IsV6 addr ip) {dst : IPNet} {n : Nat} (le : n ≤ 128)
    (mask : dst.mask = prefixMask 16 n) : entryLength (netString ⟨ip, dst.mask⟩) = some n := by
  rw [entryLength, mask, parseCIDR_netString_v6 v6.sixteen v6.2 le]
  exact congrArg some (prefixLength_of_mask le rfl)

/-- **The prefixes are those of the most specific routes, in any order, exactly when the routes that
contain an address have one prefix length.** -/
theorem mostSpecific_iff (found : d.linkByName link = .ok l) (kernel : FromKernel routes) :
    MostSpecific d link addresses routes ↔ Unambiguous addresses routes := by
  constructor
  · intro specific addr member ip v6 dst mem other mem'
    obtain ⟨i, here⟩ := List.mem_iff_getElem?.mp member
    obtain ⟨n, le, mask⟩ := kernel.mask v6 mem
    obtain ⟨n', le', mask'⟩ := kernel.mask v6 mem'
    -- Either route can come first.
    obtain ⟨others, perm, entry⟩ := prefixed_of_first v6 mem
    obtain ⟨others', perm', entry'⟩ := prefixed_of_first v6 mem'
    have same := (specific.order others perm i addr ip here v6).trans
      (specific.order others' perm' i addr ip here v6).symm
    rw [addressesAfter_entry found others here, addressesAfter_entry found others' here, entry, entry',
      Option.some.injEq] at same
    have lengths := congrArg entryLength same
    rw [entryLength_netString v6 le mask, entryLength_netString v6 le' mask', Option.some.injEq] at lengths
    rw [prefixLength_of_mask le mask, prefixLength_of_mask le' mask', lengths]
  · intro unambiguous
    refine ⟨?longest, ?order⟩
    case longest =>
      intro i addr ip here v6
      refine ⟨_, addressesAfter_entry found routes here, ?_⟩
      by_cases none_ : containing routes ip = []
      · exact .inr ⟨none_, prefixed_of_not_containing v6 none_⟩
      obtain ⟨dst, mem⟩ := List.exists_mem_of_ne_nil _ none_
      obtain ⟨first, mem', entry⟩ := prefixed_of_containing v6 mem
      obtain ⟨n, le, mask⟩ := kernel.mask v6 mem'
      refine .inl ⟨first, mem', fun other mem => ?_, ?_⟩
      · exact Nat.le_of_eq (unambiguous addr (List.mem_of_getElem? here) ip v6 other mem first mem')
      · rw [entry, entryLength_netString v6 le mask, prefixLength_of_mask le mask]
    case order =>
      intro others perm i addr ip here v6
      rw [addressesAfter_entry found others here, addressesAfter_entry found routes here]
      have sameRoutes : (containing others ip).Perm (containing routes ip) :=
        (perm.filterMap usableIPv6Dst).filter (GoNet.contains · ip)
      by_cases none_ : containing routes ip = []
      · have none' : containing others ip = [] := by
          rw [none_] at sameRoutes
          exact sameRoutes.eq_nil
        rw [prefixed_of_not_containing v6 none_, prefixed_of_not_containing v6 none']
      obtain ⟨dst, mem⟩ := List.exists_mem_of_ne_nil _ none_
      obtain ⟨first, mem', entry⟩ := prefixed_of_containing v6 mem
      obtain ⟨first', mem'', entry'⟩ := prefixed_of_containing v6 (sameRoutes.mem_iff.mpr mem)
      obtain ⟨n, le, mask⟩ := kernel.mask v6 mem'
      obtain ⟨n', le', mask'⟩ := kernel.mask v6 (sameRoutes.mem_iff.mp mem'')
      have lengths := unambiguous addr (List.mem_of_getElem? here) ip v6 first' (sameRoutes.mem_iff.mp mem'')
        first mem'
      rw [prefixLength_of_mask le mask, prefixLength_of_mask le' mask'] at lengths
      rw [entry, entry', mask, mask', lengths]

end Found

/-! ### Routes of a link -/

/-- An advertised route to `2001:db8:<group>::`. -/
def advertised (group : UInt8) (n : Nat) : Route :=
  ⟨some ⟨[0x20, 0x01, 0x0d, 0xb8, 0, group] ++ List.replicate 10 0, cidrMask n 128⟩, rtprotRA⟩

theorem fromKernel_advertised {routes : List Route}
    (each : ∀ route ∈ routes, ∃ group n, route = advertised group n) : FromKernel routes := by
  intro route member dst here
  obtain ⟨group, n, rfl⟩ := each route member
  cases here
  exact ⟨n, rfl⟩

/-- A host with a link and nothing else. -/
def hostWithLink : Dependencies where
  interfaces := .ok []
  addrs := fun _ => .ok []
  evalSymlinks := fun _ => .error "no such file or directory"
  linkByName := fun _ => .ok ⟨"device", none⟩
  readFile := fun _ => .error "no such file or directory"
  execute := fun _ => ("", "", 127)
  routeList := fun _ => .ok []

/-- The routes of a link, one of them advertised by two routers. -/
def linkRoutes : List Route := [advertised 2 64, advertised 1 64, advertised 1 64, advertised 3 48]

/-- Addresses in three of the routes, one of IPv4 and one outside them all. -/
def linkAddresses : List String :=
  ["2001:db8:1::5/128", "10.0.0.1/24", "2001:db8:2::7/128", "2001:db8:3::9/128", "fd00::1/128"]

theorem mostSpecific_on_link :
    FromKernel linkRoutes ∧ Unambiguous linkAddresses linkRoutes ∧
      MostSpecific hostWithLink "ens3" linkAddresses linkRoutes ∧
      addressesAfter hostWithLink "ens3" linkAddresses linkRoutes =
        ["2001:db8:1::5/64", "10.0.0.1/24", "2001:db8:2::7/64", "2001:db8:3::9/48", "fd00::1/128"] := by
  have kernel : FromKernel linkRoutes := fromKernel_advertised fun route member => by
    simp only [linkRoutes, List.mem_cons, List.not_mem_nil, or_false] at member
    rcases member with rfl | rfl | rfl | rfl <;> exact ⟨_, _, rfl⟩
  have unambiguous : Unambiguous linkAddresses linkRoutes := by decide +kernel
  exact ⟨kernel, unambiguous, (mostSpecific_iff rfl kernel).mpr unambiguous, by decide +kernel⟩

/-- **A shorter route that comes first hides the prefix of the link.** -/
theorem not_mostSpecific_overlap :
    addressesAfter hostWithLink "ens3" ["2001:db8:1::5/128"] [advertised 0 32, advertised 1 64] =
        ["2001:db8:1::5/32"] ∧
      addressesAfter hostWithLink "ens3" ["2001:db8:1::5/128"] [advertised 1 64, advertised 0 32] =
        ["2001:db8:1::5/64"] ∧
      ¬ MostSpecific hostWithLink "ens3" ["2001:db8:1::5/128"] [advertised 0 32, advertised 1 64] := by
  have after : addressesAfter hostWithLink "ens3" ["2001:db8:1::5/128"]
      [advertised 0 32, advertised 1 64] = ["2001:db8:1::5/32"] := by decide +kernel
  refine ⟨after, by decide +kernel, fun specific => ?_⟩
  have v6 : IsV6 "2001:db8:1::5/128" [0x20, 0x01, 0x0d, 0xb8, 0, 1, 0, 0, 0, 0, 0, 0, 0, 0, 0, 5] :=
    ⟨⟨_, rfl⟩, rfl⟩
  obtain ⟨new, is, longest⟩ := specific.longest 0 _ _ rfl v6
  rw [after] at is
  cases is
  rcases longest with ⟨dst, -, most, length⟩ | ⟨none_, -⟩
  · have link := most ⟨[0x20, 0x01, 0x0d, 0xb8, 0, 1] ++ List.replicate 10 0, cidrMask 64 128⟩
      (by decide +kernel)
    have entry : entryLength "2001:db8:1::5/32" = some 32 := by decide +kernel
    rw [← Option.some.inj (entry.symm.trans length)] at link
    exact absurd link (by decide +kernel)
  · exact absurd none_ (by decide +kernel)

end AssistedAgent.Util
