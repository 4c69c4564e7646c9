/-
**The network interfaces of the host.**

`NetworkInterface` answers from `net.Interface`, from sysfs and from netlink. `Dependencies` are those
answers; an answer depends on the question only.
-/

import AssistedAgent.Connectivity.ProcessHost
import AssistedAgent.Lib.GoMac
import AssistedAgent.Lib.GoStrings

namespace AssistedAgent.Util

open Connectivity GoMac GoNet GoStrings

/-! ### Dependencies -/

/-- `net.Interface`. -/
structure NetInterface where
  mtu : Int
  name : String
  hardwareAddr : HardwareAddr
  flags : Nat
deriving DecidableEq, Repr

/-- `netlink.LinkSlave`. -/
inductive LinkSlave
  | bond (permHardwareAddr : Option HardwareAddr)
  | other
deriving DecidableEq, Repr

/-- `netlink.LinkAttrs`. -/
structure LinkAttrs where
  slave : Option LinkSlave
  hardwareAddr : Option HardwareAddr
deriving DecidableEq, Repr

/-- `netlink.Link`. -/
structure Link where
  type : String
  attrs : Option LinkAttrs
deriving DecidableEq, Repr

/-- `netlink.Route`. -/
structure Route where
  dst : Option IPNet
  protocol : Int
deriving DecidableEq, Repr

/-- What `IDependencies` answers. -/
structure Dependencies where
  interfaces : Except String (List NetInterface)
  addrs : NetInterface → Except String (List NetAddr)
  evalSymlinks : String → Except String String
  linkByName : String → Except String Link
  readFile : String → Except String String
  /-- The standard output, the standard error and the exit code of a command. -/
  execute : List String → String × String × Int
  routeList : Link → Except String (List Route)

/-! ### The interface -/

variable (d : Dependencies)

def isPhysical (n : NetInterface) : Bool :=
  match d.evalSymlinks ("/sys/class/net/" ++ n.name) with
  | .error _ => true
  | .ok evaledPath => ! GoStrings.contains evaledPath "/virtual/"

/-- The link has this type; the body of `IsBonding` and `IsVlan`. -/
def linkIs (type : String) (n : NetInterface) : Bool :=
  match d.linkByName n.name with
  | .error _ => false
  | .ok link => link.type == type

def isBonding : NetInterface → Bool := linkIs d "bond"

def isVlan : NetInterface → Bool := linkIs d "vlan"

def interfaceType (n : NetInterface) : Except String String :=
  if isPhysical d n then .ok "physical"
  else
    match d.linkByName n.name with
    | .error err => .error err
    | .ok link => .ok link.type

/-- `strconv.ParseUint` for base 10 and 32 bits, from the digits read so far; a number that is too large
is the largest one, whatever follows. -/
def parseUint32 : Nat → List Char → Option Nat
  | n, [] => some n
  | n, c :: rest =>
    if c.isDigit then
      let n' := 10 * n + (c.toNat - '0'.toNat)
      if 2 ^ 32 - 1 < n' then some (2 ^ 32 - 1) else parseUint32 n' rest
    else none

/-- The number that `strconv.ParseInt` returns for base 10 and 32 bits, with an error or without. -/
def parseInt32 (s : String) : Int :=
  let magnitude (digits : List Char) : Option Nat := if digits = [] then none else parseUint32 0 digits
  match s.toList with
  | '-' :: digits => -((magnitude digits).elim 0 fun n => min n (2 ^ 31) : Nat)
  | '+' :: digits => ((magnitude digits).elim 0 fun n => min n (2 ^ 31 - 1) : Nat)
  | digits => ((magnitude digits).elim 0 fun n => min n (2 ^ 31 - 1) : Nat)

def speedMbps (n : NetInterface) : Int :=
  match d.readFile ("/sys/class/net/" ++ n.name ++ "/speed") with
  | .error _ => 0
  | .ok b => parseInt32 (trimSpace b)

/-! ### Prefixes of IPv6 addresses -/

/-- `unix.RTPROT_RA`. -/
def rtprotRA : Int := 9

/-- The destination of a route that is IPv6 and advertised. -/
def usableIPv6Dst (route : Route) : Option IPNet :=
  match route.dst with
  | none => none
  | some dst => if dst.ip.length = 16 ∧ route.protocol = rtprotRA then some dst else none

def getUsableIPv6Routes (link : Link) : Except String (List IPNet) :=
  match d.routeList link with
  | .error err => .error err
  | .ok routes => .ok (routes.filterMap usableIPv6Dst)

/-- An address with the prefix of the first route that contains it. -/
def prefixed (routes : List IPNet) (addr : String) : String :=
  if addr = "" ∨ ! GoStrings.contains addr ":" then addr
  else
    match parseCIDR addr with
    | .error _ => addr
    | .ok (ip, _) =>
      match routes.find? (GoNet.contains · ip) with
      | none => addr
      | some dst => netString ⟨ip, dst.mask⟩

/-- The addresses after `SetV6PrefixesForAddress`, and its error. -/
def setV6PrefixesForAddress (link : String) (addresses : List String) :
    List String × Option String :=
  if addresses = [] then (addresses, none)
  else
    match d.linkByName link with
    | .error err => (addresses, some err)
    | .ok l =>
      match getUsableIPv6Routes d l with
      | .error err => (addresses, some err)
      | .ok routes => (addresses.map (prefixed routes), none)

theorem setV6PrefixesForAddress_eq_nil_iff (link : String) (addresses : List String) :
    (setV6PrefixesForAddress d link addresses).1 = [] ↔ addresses = [] := by
  unfold setV6PrefixesForAddress
  split
  · rfl
  split
  · rfl
  split
  · rfl
  · exact List.map_eq_nil_iff

end AssistedAgent.Util
