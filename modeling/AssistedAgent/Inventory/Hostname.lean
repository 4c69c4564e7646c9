/-
**A forbidden hostname is replaced by a MAC address.**

`processInventory` gives a host that calls itself `localhost` the MAC address of one of its
interfaces for a name. It sorts a copy of the interfaces by name and takes the first that is of a kind
to reach the network, has a MAC address, and has an address that is valid beyond its link.

* `usableNIC_sort` — if all addresses parse, the interface taken is the usable one of least name.
* **`processInventory_stable`** — nothing but the hostname changes, and what it becomes does not
  depend on the order of the interfaces.
-/

import AssistedAgent.Inventory.Interfaces
import AssistedAgent.Lib.GoSlice
import AssistedAgent.Lib.StableSort

namespace AssistedAgent.Inventory

open GoNet GoSlice GoStrings StableSort

instance : Inhabited Interface := ⟨"", [], false, [], [], "", 0, "", "", 0, "", ""⟩

/-- `models.Inventory`; `others` are the fields that the hostname does not depend on. -/
structure HostInventory (ρ : Type) where
  hostname : String
  interfaces : Slice
  others : ρ
deriving DecidableEq, Repr

def forbiddenHostnames : List String :=
  ["localhost", "localhost.localdomain", "localhost4", "localhost4.localdomain4", "localhost6",
    "localhost6.localdomain6"]

def isForbiddenHostname (hostname : String) : Bool := forbiddenHostnames.contains hostname

def isGlobalCIDR (cidr : String) : Except String Bool :=
  match parseCIDR cidr with
  | .error err => .error err
  | .ok (ip, _) => .ok (isGlobalUnicast ip)

def hasGlobalCIDR : List String → Except String Bool
  | [] => .ok false
  | ip :: ips =>
    match isGlobalCIDR ip with
    | .error err => .error err
    | .ok true => .ok true
    | .ok false => hasGlobalCIDR ips

/-- The loop of `findUsableNIC`. -/
def usableNIC : List Interface → Except String (Option Interface)
  | [] => .ok none
  | nic :: nics =>
    let isPhysical := nic.type == "physical"
    let isVLAN := nic.type == "vlan"
    let isBond := nic.type == "bond"
    if !(isPhysical || isVLAN || isBond) then usableNIC nics
    else
      let hasMAC := nic.macAddress != ""
      if !hasMAC then usableNIC nics
      else
        match hasGlobalCIDR nic.ipv4Addresses with
        | .error err => .error err
        | .ok hasV4 =>
          match hasGlobalCIDR nic.ipv6Addresses with
          | .error err => .error err
          | .ok hasV6 => if !(hasV4 || hasV6) then usableNIC nics else .ok (some nic)

variable {ρ : Type} (sorter : Sorter Interface.name) (lowering : Lowering)

/-- The interfaces are copied to a slice of their own, and that one is sorted. -/
def findUsableNIC (h : Heap Interface) (inventory : HostInventory ρ) :
    Except String (Option Interface) × Heap Interface :=
  let (made, nics) := make h default inventory.interfaces.len
  let copied := copy made nics inventory.interfaces
  let sorted := write copied nics (sorter.sort (nics.read copied))
  (usableNIC (nics.read sorted), sorted)

def calculateHostname (h : Heap Interface) (inventory : HostInventory ρ) :
    Except String String × Heap Interface :=
  match findUsableNIC sorter h inventory with
  | (.error err, h') => (.error err, h')
  | (.ok none, h') => (.ok inventory.hostname, h')
  | (.ok (some nic), h') => (.ok (lowering.toLower (replaceAll nic.macAddress ':' '-')), h')

/-- The interfaces' memory and the inventory, as `processInventory` leaves them. -/
def processInventory (h : Heap Interface) (inventory : HostInventory ρ) :
    Heap Interface × HostInventory ρ :=
  if isForbiddenHostname inventory.hostname then
    match calculateHostname sorter lowering h inventory with
    | (.error _, h') => (h', inventory)
    | (.ok calculatedHostname, h') => (h', { inventory with hostname := calculatedHostname })
  else (h, inventory)

/-! ### The interfaces that can name a host -/

/-- The text of a global unicast address with its prefix length. -/
def IsGlobal (cidr : String) : Prop :=
  ∃ ip net, parseCIDR cidr = .ok (ip, net) ∧ isGlobalUnicast ip = true

@[mk_iff usable_iff]
structure Usable (nic : Interface) : Prop where
  kind : nic.type = "physical" ∨ nic.type = "vlan" ∨ nic.type = "bond"
  mac : nic.macAddress ≠ ""
  global : ∃ cidr ∈ nic.ipv4Addresses ++ nic.ipv6Addresses, IsGlobal cidr

def Parses (nic : Interface) : Prop :=
  ∀ cidr ∈ nic.ipv4Addresses ++ nic.ipv6Addresses, ∃ result, parseCIDR cidr = .ok result

/-- The usable interface of least name. -/
structure Chosen (nics : List Interface) (nic : Interface) : Prop where
  member : nic ∈ nics
  usable : Usable nic
  least : ∀ other ∈ nics, Usable other → nic.name ≤ other.name

/-- What a search among the interfaces has to find. -/
inductive Search (nics : List Interface) : Option Interface → Prop
  | found {nic : Interface} (chosen : Chosen nics nic) : Search nics (some nic)
  | none (useless : ∀ nic ∈ nics, ¬ Usable nic) : Search nics none

theorem Search.perm {nics nics' : List Interface} {result : Option Interface}
    (search : Search nics result) (same : nics.Perm nics') : Search nics' result := by
  cases search with
  | found chosen =>
    refine .found ⟨same.mem_iff.mp chosen.member, chosen.usable, ?_⟩
    exact fun other inside => chosen.least other (same.mem_iff.mpr inside)
  | none useless => exact .none fun nic inside => useless nic (same.mem_iff.mpr inside)

/-- **Where the names differ**, there is one result. -/
theorem Search.unique {nics : List Interface} {result result' : Option Interface}
    (search : Search nics result) (search' : Search nics result')
    (distinct : (nics.map (·.name)).Nodup) : result = result' := by
  cases search with
  | found chosen =>
    cases search' with
    | found chosen' =>
      have sameName := le_antisymm (chosen.least _ chosen'.member chosen'.usable)
        (chosen'.least _ chosen.member chosen.usable)
      rw [List.inj_on_of_nodup_map distinct chosen.member chosen'.member sameName]
    | none useless => exact absurd chosen.usable (useless _ chosen.member)
  | none useless =>
    cases search' with
    | found chosen' => exact absurd chosen'.usable (useless _ chosen'.member)
    | none _ => rfl

theorem hasGlobalCIDR_spec {ips : List String}
    (parse : ∀ cidr ∈ ips, ∃ result, parseCIDR cidr = .ok result) :
    ∃ found, hasGlobalCIDR ips = .ok found ∧ (found = true ↔ ∃ cidr ∈ ips, IsGlobal cidr) := by
  induction ips with
  | nil => exact ⟨false, rfl, by simp⟩
  | cons cidr ips ih =>
    obtain ⟨⟨ip, net⟩, parsed⟩ := parse cidr (List.mem_cons_self ..)
    obtain ⟨found, later, iff_⟩ := ih fun other inside => parse other (List.mem_cons_of_mem _ inside)
    have here : IsGlobal cidr ↔ isGlobalUnicast ip = true := by
      simp [IsGlobal, parsed]
    simp only [hasGlobalCIDR, isGlobalCIDR, parsed, List.exists_mem_cons_iff, here]
    cases isGlobalUnicast ip with
    | true => exact ⟨true, rfl, by simp⟩
    | false => exact ⟨found, later, by simpa using iff_⟩

/-- One round of the loop. -/
theorem usableNIC_cons {nic : Interface} (parse : Parses nic) (nics : List Interface) :
    ∃ found : Bool, (found = true ↔ Usable nic) ∧
      usableNIC (nic :: nics) = if found then .ok (some nic) else usableNIC nics := by
  obtain ⟨hasV4, eq4, iff4⟩ :=
    hasGlobalCIDR_spec fun cidr inside => parse cidr (List.mem_append_left _ inside)
  obtain ⟨hasV6, eq6, iff6⟩ :=
    hasGlobalCIDR_spec fun cidr inside => parse cidr (List.mem_append_right _ inside)
  have either : (hasV4 || hasV6) = true ↔
      ∃ cidr ∈ nic.ipv4Addresses ++ nic.ipv6Addresses, IsGlobal cidr := by
    simp only [Bool.or_eq_true, iff4, iff6, List.mem_append, or_and_right, exists_or]
  refine ⟨(nic.type == "physical" || nic.type == "vlan" || nic.type == "bond") &&
    nic.macAddress != "" && (hasV4 || hasV6), ?_, ?_⟩
  · simp only [Bool.and_eq_true, either, usable_iff, Bool.or_eq_true, beq_iff_eq, bne_iff_ne,
      or_assoc, and_assoc]
  · simp only [usableNIC, eq4, eq6]
    cases nic.type == "physical" || nic.type == "vlan" || nic.type == "bond" <;>
      cases nic.macAddress != "" <;> cases hasV4 || hasV6 <;> rfl

/-- **The loop stops at the first usable interface.** -/
theorem usableNIC_spec {nics : List Interface} (parse : ∀ nic ∈ nics, Parses nic) :
    (∃ before nic after, nics = before ++ nic :: after ∧ (∀ other ∈ before, ¬ Usable other) ∧
      Usable nic ∧ usableNIC nics = .ok (some nic)) ∨
    (∀ nic ∈ nics, ¬ Usable nic) ∧ usableNIC nics = .ok none := by
  induction nics with
  | nil => exact .inr ⟨by simp, rfl⟩
  | cons nic nics ih =>
    rw [List.forall_mem_cons] at parse
    obtain ⟨found, iff_, step⟩ := usableNIC_cons parse.1 nics
    cases found with
    | true => exact .inl ⟨[], nic, nics, rfl, by simp, iff_.mp rfl, step⟩
    | false =>
      have useless : ¬ Usable nic := fun usable => Bool.false_ne_true (iff_.mpr usable)
      rcases ih parse.2 with ⟨before, first, after, rfl, earlier, usable, later⟩ | ⟨others, later⟩
      · refine .inl ⟨nic :: before, first, after, rfl, ?_, usable, step.trans later⟩
        exact List.forall_mem_cons.mpr ⟨useless, earlier⟩
      · exact .inr ⟨List.forall_mem_cons.mpr ⟨useless, others⟩, step.trans later⟩

/-- **In the sorted list** it is the usable one of least name. -/
theorem usableNIC_sort {nics : List Interface} (parse : ∀ nic ∈ nics, Parses nic) :
    ∃ result, usableNIC (sorter.sort nics) = .ok result ∧ Search nics result := by
  have parse' : ∀ nic ∈ sorter.sort nics, Parses nic := fun nic inside =>
    parse nic (sorter.mem_sort.mp inside)
  rcases usableNIC_spec parse' with ⟨before, nic, after, split, useless, usable, found⟩ |
    ⟨useless, found⟩
  · refine ⟨some nic, found, .found ⟨?_, usable, sorter.le_of_split split useless⟩⟩
    rw [← sorter.mem_sort, split]
    exact List.mem_append_right _ (List.mem_cons_self ..)
  · exact ⟨none, found, .none fun nic inside => useless nic (sorter.mem_sort.mpr inside)⟩

/-! ### Processing an inventory -/

section

variable {h : Heap Interface} {inventory : HostInventory ρ}

/-- **The search works on an array of its own.** -/
theorem findUsableNIC_eq (valid : inventory.interfaces.Valid h) :
    findUsableNIC sorter h inventory =
      (usableNIC (sorter.sort (inventory.interfaces.read h)),
        h ++ [sorter.sort (inventory.interfaces.read h)]) := by
  have sameLength := (sorter.perm (inventory.interfaces.read h)).length_eq
  have made : (make h (default : Interface) inventory.interfaces.len).2 =
      whole h.length (inventory.interfaces.read h).length := by
    rw [valid.length_read]
    rfl
  have copied := copy_make valid (default : Interface)
  rw [made] at copied
  have readLast (xs : List Interface) : (whole h.length xs.length).read (h ++ [xs]) = xs :=
    read_whole List.getElem?_concat_length
  simp only [findUsableNIC, made, copied, readLast, write_last h sameLength]
  rw [← sameLength, readLast]

/-- The name that the result of the search gives. -/
def hostnameOf (original : String) (nic : Option Interface) : String :=
  nic.elim original fun nic => lowering.toLower (replaceAll nic.macAddress ':' '-')

theorem processInventory_of_found (valid : inventory.interfaces.Valid h)
    (forbidden : inventory.hostname ∈ forbiddenHostnames) {nic : Option Interface}
    (found : usableNIC (sorter.sort (inventory.interfaces.read h)) = .ok nic) :
    processInventory sorter lowering h inventory =
      (h ++ [sorter.sort (inventory.interfaces.read h)],
        { inventory with hostname := hostnameOf lowering inventory.hostname nic }) := by
  have isForbidden : isForbiddenHostname inventory.hostname = true :=
    List.contains_iff_mem.mpr forbidden
  rw [processInventory, if_pos isForbidden, calculateHostname, findUsableNIC_eq sorter valid, found]
  cases nic <;> rfl

theorem processInventory_of_allowed (allowed : inventory.hostname ∉ forbiddenHostnames) :
    processInventory sorter lowering h inventory = (h, inventory) :=
  if_neg (mt List.contains_iff_mem.mp allowed)

end

/-- **The hostname is replaced only where it must be, and by a name that the order of the interfaces
does not change.** -/
theorem processInventory_stable {h : Heap Interface} {inventory : HostInventory ρ}
    (valid : inventory.interfaces.Valid h)
    (distinct : ((inventory.interfaces.read h).map (·.name)).Nodup)
    (parse : ∀ nic ∈ inventory.interfaces.read h, Parses nic) :
    let nics := inventory.interfaces.read h
    let after := processInventory sorter lowering h inventory
    after.2 = { inventory with hostname := after.2.hostname } ∧
    h <+: after.1 ∧ after.2.interfaces.read after.1 = nics ∧
    (after.2.hostname ≠ inventory.hostname → inventory.hostname ∈ forbiddenHostnames) ∧
    (inventory.hostname ∈ forbiddenHostnames →
      ((∃ nic ∈ nics, Usable nic) →
        ∃ nic, Chosen nics nic ∧
          after.2.hostname = lowering.toLower (replaceAll nic.macAddress ':' '-')) ∧
      ((∀ nic ∈ nics, ¬ Usable nic) → after.2.hostname = inventory.hostname)) ∧
    ∀ (sorter' : Sorter Interface.name) (g : Heap Interface) (permuted : HostInventory ρ),
      permuted.interfaces.Valid g → permuted.hostname = inventory.hostname →
      (permuted.interfaces.read g).Perm nics →
      (processInventory sorter' lowering g permuted).2.hostname = after.2.hostname := by
  intro nics after
  by_cases forbidden : inventory.hostname ∈ forbiddenHostnames
  · obtain ⟨nic, found, chosen⟩ := usableNIC_sort sorter parse
    have eq : after = _ := processInventory_of_found sorter lowering valid forbidden found
    rw [eq]
    refine ⟨rfl, List.prefix_append h _, valid.read_append _, fun _ => forbidden, fun _ => ?_, ?_⟩
    · cases chosen with
      | found chosen =>
        refine ⟨fun _ => ⟨_, chosen, rfl⟩, fun useless => ?_⟩
        exact absurd chosen.usable (useless _ chosen.member)
      | none useless =>
        refine ⟨?_, fun _ => rfl⟩
        rintro ⟨nic, inside, usable⟩
        exact absurd usable (useless nic inside)
    · intro sorter' g permuted valid' sameName same
      have parse' : ∀ nic ∈ permuted.interfaces.read g, Parses nic := fun nic inside =>
        parse nic (same.mem_iff.mp inside)
      obtain ⟨nic', found', chosen'⟩ := usableNIC_sort sorter' parse'
      rw [processInventory_of_found sorter' lowering valid' (sameName ▸ forbidden) found',
        (chosen'.perm same).unique chosen distinct, sameName]
  · have eq : after = _ := processInventory_of_allowed sorter lowering forbidden
    rw [eq]
    refine ⟨rfl, List.prefix_refl h, rfl, fun changed => absurd rfl changed,
      fun forbidden' => absurd forbidden' forbidden, ?_⟩
    intro sorter' g permuted _ sameName _
    rw [processInventory_of_allowed sorter' lowering (sameName ▸ forbidden)]
    exact sameName

/-- Two interfaces, listed against the order of their names. -/
def sampleNics : List Interface :=
  [{ (default : Interface) with
      name := "b", type := "bond", macAddress := "0A:2", ipv4Addresses := ["1.1.1.2/8"] },
    { (default : Interface) with
      name := "a", type := "vlan", macAddress := "0A:1", ipv6Addresses := ["2::1/64"] }]

theorem parse_samples :
    parseCIDR "1.1.1.2/8" = .ok (v4InV6Prefix ++ [1, 1, 1, 2], cidrNet "1.1.1.2/8") ∧
      parseCIDR "2::1/64" = .ok ([0, 2] ++ List.replicate 13 0 ++ [1], cidrNet "2::1/64") := by
  decide +kernel

/-- The host is named after the interface that comes first by name. -/
theorem processInventory_stable_sample :
    let inventory : HostInventory Unit := ⟨"localhost", whole 0 2, ()⟩
    (inventory.interfaces.Valid [sampleNics] ∧ inventory.interfaces.read [sampleNics] = sampleNics ∧
      (sampleNics.map (·.name)).Nodup ∧ ∀ nic ∈ sampleNics, Parses nic) ∧
    ∃ nic, Chosen sampleNics nic ∧
      (processInventory (Sorter.stable _) ⟨Char.toLower, fun _ _ => rfl⟩
        [sampleNics] inventory).2.hostname =
        String.ofList ((replaceAll nic.macAddress ':' '-').toList.map Char.toLower) := by
  intro inventory
  have valid : inventory.interfaces.Valid [sampleNics] := .inr (by decide)
  have distinct : (sampleNics.map (·.name)).Nodup := by decide
  have parse : ∀ nic ∈ sampleNics, Parses nic := by
    simp [sampleNics, Parses, parse_samples, default]
  have usable : ∃ nic ∈ sampleNics, Usable nic := by
    refine ⟨sampleNics[0], List.getElem_mem _, .inr (.inr rfl), by decide, "1.1.1.2/8", ?_, ?_⟩
    · exact List.mem_cons_self ..
    · exact ⟨_, _, parse_samples.1, by decide⟩
  refine ⟨⟨valid, rfl, distinct, parse⟩, ?_⟩
  have stable := processInventory_stable (Sorter.stable _) ⟨Char.toLower, fun _ _ => rfl⟩ valid
    distinct parse
  exact (stable.2.2.2.2.1 (List.mem_cons_self ..)).1 usable

end AssistedAgent.Inventory
