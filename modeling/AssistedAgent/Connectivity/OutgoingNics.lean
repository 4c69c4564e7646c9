/-
**The NICs that the connectivity check uses, against those of the inventory.**

`getOutgoingNics` asks three predicates for the type of an interface, the mask of an address for its
family and the address itself whether it is link-local; it ignores the error of `Addrs`. The inventory
asks `Type`, the text of the address and the address that the text parses to, and leaves an interface
out on an error.

* `Agree`, **`Agree.step`, `Agree.run`** — along the loops over the addresses, a family is noted exactly
  when the inventory lists an address of it.
* `usable_iff` — the types.
* **`outgoingNics_eq_reported`** — the NICs are the interfaces of the inventory of the three types with an
  address, in order, with the same families.
-/

import AssistedAgent.Inventory.Interfaces

namespace AssistedAgent.Connectivity

open Bytes GoNet Inventory Util

/-! ### The outgoing NICs -/

/-- The family of an address and whether it is link-local; `none` is an error. -/
def analyzeAddress : NetAddr → Option (Bool × Bool)
  | .other _ => none
  | .ipNet ipNet =>
    let isIpv4 := (maskSize ipNet.mask).2 == 32
    match parseCIDR (if isIpv4 then ipv4LocalLinkCIDR else ipv6LocalLinkCIDR) with
    | .error _ => none
    | .ok (_, linkLocalNet) => some (isIpv4, contains linkLocalNet ipNet.ip)

/-- One round of the loop over the addresses. -/
def noteAddress (nic : OutgoingNic) (addr : NetAddr) : OutgoingNic :=
  match analyzeAddress addr with
  | none => nic
  | some (isIpv4, isLinkLocal) =>
    if isLinkLocal then nic
    else if isIpv4 then { nic with hasIpv4Addresses := true }
    else { nic with hasIpv6Addresses := true }

def newNic (intf : NetInterface) : OutgoingNic :=
  { OutgoingNic.zero with name := intf.name, mtu := intf.mtu }

/-- What one round of the loop of `getOutgoingNics` appends. -/
def outgoingNic (d : Util.Dependencies) (intf : NetInterface) : Option OutgoingNic :=
  if ! (isPhysical d intf || isBonding d intf || isVlan d intf) then none
  else
    let addrs := match d.addrs intf with
      | .error _ => []
      | .ok addrs => addrs
    let nic := addrs.foldl noteAddress (newNic intf)
    if ! nic.hasIpv4Addresses && ! nic.hasIpv6Addresses then none
    else some { nic with addresses := addrs }

def getOutgoingNics (d : Util.Dependencies) : List OutgoingNic :=
  match d.interfaces with
  | .error _ => []
  | .ok interfaces => interfaces.filterMap (outgoingNic d)

/-! ### Addresses -/

theorem analyzeAddress_v4 {ip : IP} {n : Nat} (le : n ≤ 32) :
    analyzeAddress (.ipNet ⟨ip, prefixMask 4 n⟩) =
      some (true, contains (cidrNet ipv4LocalLinkCIDR) ip) := by
  have bits : ((maskSize (prefixMask 4 n)).2 == 32) = true := by
    rw [maskSize_prefixMask (by omega)]
    rfl
  rw [analyzeAddress, bits, if_pos rfl, parse_localLinks.1]

theorem analyzeAddress_v6 {ip : IP} {n : Nat} (le : n ≤ 128) :
    analyzeAddress (.ipNet ⟨ip, prefixMask 16 n⟩) =
      some (false, contains (cidrNet ipv6LocalLinkCIDR) ip) := by
  have bits : ((maskSize (prefixMask 16 n)).2 == 32) = false := by
    rw [maskSize_prefixMask (by omega)]
    rfl
  rw [analyzeAddress, bits, if_neg Bool.false_ne_true, parse_localLinks.2]

/-- A family is noted exactly when an address of it is listed. -/
structure Agree (lists : List String × List String) (nic : OutgoingNic) : Prop where
  v4 : nic.hasIpv4Addresses = true ↔ lists.1 ≠ []
  v6 : nic.hasIpv6Addresses = true ↔ lists.2 ≠ []

/-- **One round of the two loops.** -/
theorem Agree.step {lists : List String × List String} {nic : OutgoingNic} (agree : Agree lists nic)
    {addr : NetAddr} (ordinary : Ordinary addr) : Agree (addAddress lists addr) (noteAddress nic addr) := by
  cases ordinary with
  | other text => exact agree
  | @v4 ip n isV4 le =>
    rw [addAddress_v4 isV4 le, noteAddress, analyzeAddress_v4 le]
    dsimp only
    split
    · exact agree
    · exact ⟨by simp, agree.v6⟩
  | @v6 ip n sixteen notV4 le =>
    rw [addAddress_v6 sixteen notV4 le, noteAddress, analyzeAddress_v6 le]
    dsimp only
    split
    · exact agree
    · exact ⟨agree.v4, by simp⟩

/-- **The two loops.** -/
theorem Agree.run {lists : List String × List String} {nic : OutgoingNic} (agree : Agree lists nic)
    {addrs : List NetAddr} (ordinary : ∀ addr ∈ addrs, Ordinary addr) :
    Agree (addrs.foldl addAddress lists) (addrs.foldl noteAddress nic) := by
  induction addrs generalizing lists nic with
  | nil => exact agree
  | cons addr addrs ih =>
    exact ih (agree.step (ordinary addr List.mem_cons_self))
      fun later member => ordinary later (List.mem_cons_of_mem addr member)

theorem noteAddress_frame (nic : OutgoingNic) (addr : NetAddr) :
    (noteAddress nic addr).name = nic.name ∧ (noteAddress nic addr).mtu = nic.mtu := by
  unfold noteAddress
  split
  · exact ⟨rfl, rfl⟩
  split
  · exact ⟨rfl, rfl⟩
  split <;> exact ⟨rfl, rfl⟩

theorem foldl_noteAddress_frame (nic : OutgoingNic) (addrs : List NetAddr) :
    (addrs.foldl noteAddress nic).name = nic.name ∧ (addrs.foldl noteAddress nic).mtu = nic.mtu := by
  refine List.foldlRecOn addrs noteAddress
    (motive := fun now => now.name = nic.name ∧ now.mtu = nic.mtu) ⟨rfl, rfl⟩ fun now same addr _ => ?_
  obtain ⟨name, mtu⟩ := noteAddress_frame now addr
  exact ⟨name.trans same.1, mtu.trans same.2⟩

/-! ### Types -/

def usableTypes : List String := ["physical", "bond", "vlan"]

/-- The answers about these interfaces fit each other: the addresses are ordinary, and no link that sysfs
has among the virtual devices is of the type `physical`. -/
structure Consistent (d : Util.Dependencies) (interfaces : List NetInterface) : Prop where
  ordinary : ∀ n ∈ interfaces, ∀ addrs, d.addrs n = .ok addrs → ∀ addr ∈ addrs, Ordinary addr
  virtual : ∀ n ∈ interfaces, isPhysical d n = false → linkIs d "physical" n = false

/-- The three predicates accept the types. -/
theorem usable_iff {d : Util.Dependencies} {n : NetInterface}
    (virtual : isPhysical d n = false → linkIs d "physical" n = false) :
    (isPhysical d n || isBonding d n || isVlan d n) = true ↔
      ∃ type, interfaceType d n = .ok type ∧ type ∈ usableTypes := by
  unfold interfaceType
  cases physical : isPhysical d n with
  | true => simp [usableTypes]
  | false =>
    have other := virtual physical
    rw [if_neg Bool.false_ne_true, Bool.false_or]
    unfold linkIs at other
    unfold isBonding isVlan linkIs
    cases found : d.linkByName n.name with
    | error err => simp
    | ok link =>
      rw [found] at other
      simp [usableTypes, beq_eq_false_iff_ne.mp other]

/-! ### The two packages -/

/-- A NIC, as both packages tell it. -/
structure UsableNic where
  name : String
  mtu : Int
  hasIpv4Addresses : Bool
  hasIpv6Addresses : Bool
deriving DecidableEq, Repr

def ofOutgoing (nic : OutgoingNic) : UsableNic :=
  ⟨nic.name, nic.mtu, nic.hasIpv4Addresses, nic.hasIpv6Addresses⟩

def ofReported (rec : Interface) : UsableNic :=
  ⟨rec.name, rec.mtu, decide (rec.ipv4Addresses ≠ []), decide (rec.ipv6Addresses ≠ [])⟩

/-- The inventory reports one of the three types, and an address. -/
def reportedUsable (rec : Interface) : Bool :=
  decide (rec.type ∈ usableTypes) && (decide (rec.ipv4Addresses ≠ []) || decide (rec.ipv6Addresses ≠ []))

/-- The families of the two packages. -/
theorem Agree.families {lists : List String × List String} {nic : OutgoingNic} (agree : Agree lists nic) :
    nic.hasIpv4Addresses = decide (lists.1 ≠ []) ∧ nic.hasIpv6Addresses = decide (lists.2 ≠ []) :=
  ⟨Bool.eq_iff_iff.mpr (agree.v4.trans decide_eq_true_iff.symm),
    Bool.eq_iff_iff.mpr (agree.v6.trans decide_eq_true_iff.symm)⟩

theorem agree_newNic (n : NetInterface) {addrs : List NetAddr} (ordinary : ∀ addr ∈ addrs, Ordinary addr) :
    Agree (addrs.foldl addAddress ([], [])) (addrs.foldl noteAddress (newNic n)) := by
  refine Agree.run ⟨?_, ?_⟩ ordinary
  · exact iff_of_false Bool.false_ne_true (not_not.mpr rfl)
  · exact iff_of_false Bool.false_ne_true (not_not.mpr rfl)

/-- One interface. -/
theorem outgoingNic_eq_reported {d : Util.Dependencies} {n : NetInterface}
    (ordinary : ∀ addrs, d.addrs n = .ok addrs → ∀ addr ∈ addrs, Ordinary addr)
    (virtual : isPhysical d n = false → linkIs d "physical" n = false) :
    (outgoingNic d n).map ofOutgoing =
      (((interfaceRecord d n).map (withV6Prefixes d)).filter reportedUsable).map ofReported := by
  unfold outgoingNic interfaceRecord
  cases read : d.addrs n with
  | error err => split <;> rfl
  | ok addrs =>
    obtain ⟨four, six⟩ := Agree.families (agree_newNic n (ordinary addrs read))
    obtain ⟨name, mtu⟩ := foldl_noteAddress_frame (newNic n) addrs
    have prefixed := setV6PrefixesForAddress_eq_nil_iff d n.name (addrs.foldl addAddress ([], [])).2
    by_cases usable : (isPhysical d n || isBonding d n || isVlan d n) = true
    · obtain ⟨type, type_eq, member⟩ := (usable_iff virtual).mp usable
      rw [usable, type_eq]
      simp only [Bool.not_true, Bool.false_eq_true, if_false, Option.map_some, Option.filter_some,
        reportedUsable, withV6Prefixes, member, prefixed, decide_true, Bool.true_and, ne_eq, four, six,
        name, mtu]
      by_cases empty : (addrs.foldl addAddress ([], [])).1 = [] ∧ (addrs.foldl addAddress ([], [])).2 = []
      · simp [empty.1, empty.2]
      · simp only [Bool.and_eq_true, Bool.or_eq_true, Bool.not_eq_true', decide_eq_true_eq,
          decide_eq_false_iff_not, not_not, if_neg empty, if_pos (not_and_or.mp empty), Option.map_some,
          ofOutgoing, ofReported, ne_eq, prefixed, newNic]
    · have other : ∀ type, interfaceType d n = .ok type → type ∉ usableTypes := fun type type_eq member =>
        usable ((usable_iff virtual).mpr ⟨type, type_eq, member⟩)
      rw [Bool.not_eq_true] at usable
      rw [usable]
      cases type_eq : interfaceType d n with
      | error err => rfl
      | ok type => simp [reportedUsable, withV6Prefixes, other type type_eq]

/-- **The NICs of the connectivity check are the interfaces of the inventory that are of one of the three
types and have an address, in order and with the same families.** -/
theorem outgoingNics_eq_reported (d : Util.Dependencies)
    (consistent : ∀ interfaces, d.interfaces = .ok interfaces → Consistent d interfaces) :
    (getOutgoingNics d).map ofOutgoing = ((getInterfaces d).filter reportedUsable).map ofReported := by
  unfold getOutgoingNics getInterfaces
  cases listed : d.interfaces with
  | error err => rfl
  | ok interfaces =>
    obtain ⟨ordinary, virtual⟩ := consistent interfaces listed
    dsimp only
    rw [List.map_filterMap, List.map_filterMap, List.filter_filterMap, List.map_filterMap]
    refine List.filterMap_congr fun n member => ?_
    exact outgoingNic_eq_reported (ordinary n member) (virtual n member)

def ens3 : NetInterface := ⟨1500, "ens3", [0x52, 0x54, 0, 0, 0, 1], 19⟩

/-- A virtual interface whose addresses cannot be read. -/
def virbr0 : NetInterface := ⟨1500, "virbr0", [0x52, 0x54, 0, 0, 0, 2], 19⟩

def linkLocal6 : IP := [0xfe, 0x80, 0, 0, 0, 0, 0, 0, 0, 0, 0, 0, 0, 0, 0, 1]

def sampleDependencies : Util.Dependencies where
  interfaces := .ok [ens3, virbr0]
  addrs n :=
    if n = ens3 then .ok [.ipNet ⟨[10, 0, 0, 5], prefixMask 4 24⟩, .ipNet ⟨linkLocal6, prefixMask 16 64⟩]
    else .error "no such device"
  evalSymlinks path :=
    if path = "/sys/class/net/ens3" then .ok "/sys/devices/pci0000:00/net/ens3"
    else .ok "/sys/devices/virtual/net/virbr0"
  linkByName _ := .ok ⟨"bridge", none⟩
  readFile _ := .error "no such file"
  execute _ := ("", "", 127)
  routeList _ := .ok []

theorem sampleDependencies_consistent : Consistent sampleDependencies [ens3, virbr0] := by
  refine ⟨?_, fun n _ _ => rfl⟩
  intro n _ addrs read addr member
  simp only [sampleDependencies] at read
  split at read
  · cases read
    simp only [List.mem_cons, List.not_mem_nil, or_false] at member
    rcases member with rfl | rfl
    · exact .v4 (by decide) (by decide)
    · exact .v6 rfl (by decide) (by decide)
  · cases read

theorem outgoingNics_eq_reported_ens3 :
    (getOutgoingNics sampleDependencies).map ofOutgoing = [⟨"ens3", 1500, true, false⟩] ∧
      (getOutgoingNics sampleDependencies).map ofOutgoing =
        ((getInterfaces sampleDependencies).filter reportedUsable).map ofReported := by
  refine ⟨by decide +kernel, outgoingNics_eq_reported sampleDependencies fun interfaces listed => ?_⟩
  cases listed
  exact sampleDependencies_consistent

end AssistedAgent.Connectivity
