/-
**The interfaces that the inventory reports.**

`getInterfaces` reports every interface whose addresses and type can be read, with its addresses by
family. The family of an address is told from its text, and whether it is link-local from the address
that the text parses to.

* **`addAddress_v4`, `addAddress_v6`** — for ordinary addresses both are those of the address itself.
-/

import AssistedAgent.Lib.GoNetV6
import AssistedAgent.Util.Interface

namespace AssistedAgent.Inventory

open Bytes Connectivity GoMac GoNet GoStrings Util

def ipv4LocalLinkCIDR : String := "169.254.0.0/16"

def ipv6LocalLinkCIDR : String := "fe80::/10"

/-- `models.Interface`. -/
structure Interface where
  biosdevname : String
  flags : List String
  hasCarrier : Bool
  ipv4Addresses : List String
  ipv6Addresses : List String
  macAddress : String
  mtu : Int
  name : String
  product : String
  speedMbps : Int
  type : String
  vendor : String
deriving DecidableEq, Repr

/-! ### Addresses -/

def ipWithCidrInCidr (ipWithCidrStr cidrStr : String) : Bool :=
  match parseCIDR ipWithCidrStr with
  | .error _ => false
  | .ok (ip, _) =>
    match parseCIDR cidrStr with
    | .error _ => false
    | .ok (_, ipnet) => GoNet.contains ipnet ip

/-- The family of an address and its text; `none` is an error. -/
def analyzeAddress : NetAddr → Option (Bool × String)
  | .other _ => none
  | .ipNet ipNet =>
    let addrStr := ipString ipNet.ip ++ "/" ++ Nat.repr (maskSize ipNet.mask).1
    some (GoStrings.contains addrStr ".", addrStr)

/-- The two lists of a record, after one round of the loop over the addresses. -/
def addAddress (lists : List String × List String) (addr : NetAddr) : List String × List String :=
  match analyzeAddress addr with
  | none => lists
  | some (isIPv4, addrStr) =>
    if isIPv4 then
      if ! ipWithCidrInCidr addrStr ipv4LocalLinkCIDR then (lists.1 ++ [addrStr], lists.2) else lists
    else if ! ipWithCidrInCidr addrStr ipv6LocalLinkCIDR then (lists.1, lists.2 ++ [addrStr])
    else lists

/-! ### The record of an interface -/

variable (d : Util.Dependencies)

def hasCarrier (name : String) : Bool :=
  match d.readFile ("/sys/class/net/" ++ name ++ "/carrier") with
  | .error _ => false
  | .ok b => trimSpace b == "1"

def getDeviceField (name field : String) : String :=
  match d.readFile ("/sys/class/net/" ++ name ++ "/device/" ++ field) with
  | .error _ => ""
  | .ok b => trimSpace b

def getBiosDevname (name : String) : String := trimSpace (d.execute ["biosdevname", "-i", name]).1

def flagNames : List String :=
  ["up", "broadcast", "loopback", "pointtopoint", "multicast", "running"]

/-- `Flags.String`. -/
def flagsString (flags : Nat) : String :=
  let names := flagNames.zipIdx.filterMap fun entry => if flags.testBit entry.2 then some entry.1 else none
  if names = [] then "0" else "|".intercalate names

def getFlags (flags : Nat) : List String :=
  let flagsStr := flagsString flags
  if flagsStr = "0" then [] else split flagsStr '|'

def getPermMacAddress (name : String) : String :=
  match d.linkByName name with
  | .error _ => ""
  | .ok link =>
    match link.attrs with
    | none => ""
    | some attrs =>
      match attrs.slave with
      | some (.bond (some permHardwareAddr)) => hardwareString permHardwareAddr
      | _ => attrs.hardwareAddr.elim "" hardwareString

/-- What one round of the loop of `getInterfaces` appends. -/
def interfaceRecord (n : NetInterface) : Option Interface :=
  match d.addrs n with
  | .error _ => none
  | .ok addrs =>
    match interfaceType d n with
    | .error _ => none
    | .ok type => some {
        biosdevname := getBiosDevname d n.name
        flags := getFlags n.flags
        hasCarrier := hasCarrier d n.name
        ipv4Addresses := (addrs.foldl addAddress ([], [])).1
        ipv6Addresses := (addrs.foldl addAddress ([], [])).2
        macAddress := getPermMacAddress d n.name
        mtu := n.mtu
        name := n.name
        product := getDeviceField d n.name "device"
        speedMbps := speedMbps d n
        type
        vendor := getDeviceField d n.name "vendor" }

/-- One round of `setV6PrefixesForAddresses`. -/
def withV6Prefixes (rec : Interface) : Interface :=
  { rec with ipv6Addresses := (setV6PrefixesForAddress d rec.name rec.ipv6Addresses).1 }

def getInterfaces : List Interface :=
  match d.interfaces with
  | .error _ => []
  | .ok ins => (ins.filterMap (interfaceRecord d)).map (withV6Prefixes d)

/-! ### Ordinary addresses -/

/-- An address of either family with a mask of its family, or of another type than `*net.IPNet`. -/
inductive Ordinary : NetAddr → Prop
  | v4 {ip : IP} {n : Nat} (isV4 : to4 ip ≠ []) (le : n ≤ 32) : Ordinary (.ipNet ⟨ip, prefixMask 4 n⟩)
  | v6 {ip : IP} {n : Nat} (sixteen : ip.length = 16) (notV4 : to4 ip = []) (le : n ≤ 128) :
    Ordinary (.ipNet ⟨ip, prefixMask 16 n⟩)
  | other (text : String) : Ordinary (.other text)

/-- The network of a text that is one. -/
def cidrNet (cidr : String) : IPNet :=
  match parseCIDR cidr with
  | .error _ => ⟨[], []⟩
  | .ok (_, ipnet) => ipnet

theorem parse_localLinks :
    parseCIDR ipv4LocalLinkCIDR = .ok (v4InV6Prefix ++ [169, 254, 0, 0], cidrNet ipv4LocalLinkCIDR) ∧
      parseCIDR ipv6LocalLinkCIDR = .ok (cidrNet ipv6LocalLinkCIDR |>.ip, cidrNet ipv6LocalLinkCIDR) := by
  decide +kernel

/-- An address and its text with a prefix length are in the same networks. -/
theorem ipWithCidrInCidr_ipString {ip base : IP} {n : Nat} {cidr : String} {ipnet : IPNet}
    (family : (to4 ip ≠ [] ∧ n ≤ 32) ∨ (ip.length = 16 ∧ to4 ip = [] ∧ n ≤ 128))
    (parsed : parseCIDR cidr = .ok (base, ipnet)) :
    ipWithCidrInCidr (ipString ip ++ "/" ++ Nat.repr n) cidr = GoNet.contains ipnet ip := by
  obtain ⟨ip', net', parsed', normal⟩ := parseCIDR_ipString family
  rw [ipWithCidrInCidr, parsed']
  dsimp only
  rw [parsed]
  exact contains_normalIP normal

theorem contains_dot_iff {text : List Char} {n : Nat} :
    GoStrings.contains (String.ofList text ++ "/" ++ Nat.repr n) "." = true ↔ '.' ∈ text := by
  have dotless : '.' ∉ Nat.toDigits 10 n := not_mem_toDigits rfl n
  have dot : ".".toList = ['.'] := rfl
  rw [GoStrings.contains, decide_eq_true_eq, dot, List.singleton_infix_iff]
  simp [Nat.toList_repr, dotless]

theorem dot_mem_dotted {bytes : List UInt8} (four : bytes.length = 4) : '.' ∈ dotted bytes := by
  match bytes, four with
  | b :: b' :: rest, _ =>
    rw [dotted, List.map_cons, List.map_cons, List.intercalate_cons_cons]
    simp

/-- **An IPv4 address.** -/
theorem addAddress_v4 {ip : IP} {n : Nat} (isV4 : to4 ip ≠ []) (le : n ≤ 32)
    (lists : List String × List String) :
    addAddress lists (.ipNet ⟨ip, prefixMask 4 n⟩) =
      if GoNet.contains (cidrNet ipv4LocalLinkCIDR) ip then lists
      else (lists.1 ++ [ipString ip ++ "/" ++ Nat.repr n], lists.2) := by
  have inside := ipWithCidrInCidr_ipString (Or.inl ⟨isV4, le⟩) parse_localLinks.1
  have isDotted : GoStrings.contains (ipString ip ++ "/" ++ Nat.repr n) "." = true := by
    rw [ipString_of_to4 isV4, contains_dot_iff]
    exact dot_mem_dotted (length_to4 isV4)
  rw [addAddress, analyzeAddress, maskSize_prefixMask (by omega)]
  dsimp only
  rw [isDotted, if_pos rfl, inside]
  cases GoNet.contains (cidrNet ipv4LocalLinkCIDR) ip <;> rfl

/-- **An IPv6 address.** -/
theorem addAddress_v6 {ip : IP} {n : Nat} (sixteen : ip.length = 16) (notV4 : to4 ip = [])
    (le : n ≤ 128) (lists : List String × List String) :
    addAddress lists (.ipNet ⟨ip, prefixMask 16 n⟩) =
      if GoNet.contains (cidrNet ipv6LocalLinkCIDR) ip then lists
      else (lists.1, lists.2 ++ [ipString ip ++ "/" ++ Nat.repr n]) := by
  have inside := ipWithCidrInCidr_ipString (Or.inr ⟨sixteen, notV4, le⟩) parse_localLinks.2
  have dotless : GoStrings.contains (ipString ip ++ "/" ++ Nat.repr n) "." = false := by
    rw [ipString_v6 sixteen notV4, Bool.eq_false_iff, ne_eq, contains_dot_iff]
    exact not_mem_string6 ip rfl (by decide)
  rw [addAddress, analyzeAddress, maskSize_prefixMask (by omega)]
  dsimp only
  rw [dotless, if_neg Bool.false_ne_true, inside]
  cases GoNet.contains (cidrNet ipv6LocalLinkCIDR) ip <;> rfl

end AssistedAgent.Inventory
