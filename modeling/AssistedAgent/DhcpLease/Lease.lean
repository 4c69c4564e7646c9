/-
**The allocation of DHCP leases for the two virtual addresses.**

The functions of the package as programs over its `Dependencies`: every call that they make, in order,
with any answer. `LeaseInterface` may answer nil twice, and the name of a nil interface is read: the
program panics, and what is deferred still runs.

`leaseByMac` has an exit of its own for a lease on another interface, and returns there the error of
the call before, which is nil.
-/

import AssistedAgent.Lib.GoJson
import AssistedAgent.Lib.GoMac
import AssistedAgent.Lib.GoPath
import AssistedAgent.Lib.GoRegexp
import AssistedAgent.Lib.GoStrings
import AssistedAgent.Lib.Interaction

namespace AssistedAgent.DhcpLease

open GoMac GoPath GoRegexp Interaction

/-! ### Dependencies -/

/-- The calls of `Dependencies`. -/
inductive Call
  | execute (command : String) (args : List String)
  | writeFile (filename : String) (data : String) (perm : Nat)
  | readFile (filename : String)
  | getLastLeaseFromFile (fileName : String)
  | leaseInterface (masterDevice name : String) (mac : HardwareAddr)
  | linkByName (name : String)
  | linkDel (link : Nat)
  | mkdirAll (path : String) (perm : Nat)
deriving DecidableEq, Repr

/-- What a call returns: results and errors as the source has them, an interface by its name, a link
by its index. -/
abbrev Answer : Call → Type
  | .execute _ _ => String × String × Int
  | .writeFile _ _ _ => Option String
  | .readFile _ => String × Option String
  | .getLastLeaseFromFile _ => String × String × Option String
  | .leaseInterface _ _ _ => Option String × Option String
  | .linkByName _ => Nat × Option String
  | .linkDel _ => Option String
  | .mkdirAll _ _ => Option String

/-- A call of `Dependencies`, as a program. -/
abbrev ask (call : Call) : Prog Answer (Answer call) := request call

/-- How a function returns. -/
inductive Result (α : Type)
  | ok (value : α)
  | err (message : String)
  | panic
deriving DecidableEq, Repr

/-- What follows a function that has returned no error. -/
def ifOk {α β : Type} (p : Prog Answer (Result α)) (next : α → Prog Answer (Result β)) :
    Prog Answer (Result β) := do
  match ← p with
  | .ok value => next value
  | .err message => pure (.err message)
  | .panic => pure .panic

/-! ### Leases -/

def configPath : String := "/etc/keepalived"

def modePerm : Nat := 0o777

def dhclientTimeoutSeconds : Nat := 28

/-- `util.TimeoutExitCode`. -/
def timeoutExitCode : Int := 124

/-- `monitor.GetLeaseFile`. -/
def getLeaseFile (cfgPath : Path) (name : String) : String :=
  (cfgPath.dir.join ["lease-" ++ name]).text

/-- `interface\s+"[^"]+"`. -/
def interfaceRegex : Regex :=
  .all [.lit "interface", .plus .space, .char '"', .plus (.noneOf "\""), .char '"']

def formatLeaseFile (leaseFileContents interfaceName : String) : String :=
  replaceAllString interfaceRegex leaseFileContents ("interface \"" ++ interfaceName ++ "\"")

def formatHostname (mac suffix : String) : String :=
  GoStrings.replaceAll mac ':' '-' ++ "-" ++ suffix

/-- The last lease of a file: at the start or after white space, and nothing but white space after
it. -/
def leaseRegex : Regex :=
  .all [.alt .beginText .space,
    .group 1 (.all [.lit "lease", .star .space, .lit "\x7b", .star (.noneOf "\x7d\x7b"), .lit "\x7d"]),
    .star .space, .endText]

/-- The lease that `extractLastLease` finds in a text. -/
def lastLease (text : String) : Option String :=
  match findStringSubmatch leaseRegex 1 text with
  | [_, lease] => some lease
  | _ => none

def extractLastLease (leaseFile : String) : Prog Answer (Result String) := do
  let (b, err) ← ask (.readFile leaseFile)
  match err with
  | some err => pure (.err ("Could not read lease file: " ++ err))
  | none =>
    match lastLease b with
    | none => pure (.err ("Failed to extract last lease from file " ++ leaseFile))
    | some lease => pure (.ok lease)

def deleteInterface (name : String) : Prog Answer Unit := do
  let (iface, err) ← ask (.linkByName name)
  match err with
  | some _ => pure ()
  | none =>
    let _ ← ask (.linkDel iface)
    pure ()

def dhclientArgs (hostname leaseFile iface : String) : List String :=
  [toString dhclientTimeoutSeconds, "dhclient", "-v", "-H", hostname, "-sf", "/bin/true", "-lf",
    leaseFile, "--no-pid", "-1", iface]

/-- The write of the lease file, if the request has one. -/
def saveLeaseFile (leaseFile leaseFileContents iface : String) : Prog Answer (Option String) :=
  if leaseFileContents ≠ "" then
    ask (.writeFile leaseFile (formatLeaseFile leaseFileContents iface) 0o644)
  else pure none

/-- `LeaseVIP` from the write of the lease file on, with the name of the interface. -/
def runDhclient (leaseFile name : String) (mac : HardwareAddr) (leaseFileContents iface : String) :
    Prog Answer (Result Unit) := do
  let err ← saveLeaseFile leaseFile leaseFileContents iface
  match err with
  | some err => pure (.err ("Failed to save lease file " ++ leaseFile ++ ": " ++ err))
  | none =>
    let (_, stderr, exitCode) ← ask (.execute "timeout"
      (dhclientArgs (formatHostname (hardwareString mac) name) leaseFile iface))
    if exitCode = 0 then pure (.ok ())
    else if exitCode = timeoutExitCode then
      pure (.err ("dhclient was timed out after " ++ toString dhclientTimeoutSeconds ++ " seconds"))
    else
      pure (.err ("dhclient exited with non-zero exit code " ++ toString exitCode ++ ": " ++ stderr))

def leaseVIP (leaseFile masterDevice name : String) (mac : HardwareAddr)
    (leaseFileContents : String) : Prog Answer (Result Unit) := do
  let (iface, err) ← ask (.leaseInterface masterDevice name mac)
  deferring
    (match err, iface with
    | some err, _ => pure (.err err)
    | none, none => pure .panic
    | none, some iface => runDhclient leaseFile name mac leaseFileContents iface)
    (deleteInterface name)

/-- `leaseByMac` from the reading of the lease file on. -/
def readLease (leaseFile name : String) : Prog Answer (Result (String × String)) := do
  let (ifaceName, ip, err) ← ask (.getLastLeaseFromFile leaseFile)
  match err with
  | some err => pure (.err err)
  | none =>
    -- The error returned for another interface is the one of the call above, nil here.
    if ifaceName ≠ name then pure (.ok ("", ""))
    else ifOk (extractLastLease leaseFile) fun lease => pure (.ok (ip, lease))

def leaseByMac (cfgPath masterDevice name macString leaseFileContents : String) :
    Prog Answer (Result (String × String)) :=
  match parseMAC macString with
  | .error err => pure (.err err)
  | .ok mac =>
    let leaseFile := getLeaseFile ((Path.clean cfgPath).join [name]) name
    ifOk (leaseVIP leaseFile masterDevice name mac leaseFileContents) fun _ => readLease leaseFile name

/-! ### Requests -/

/-- `models.DhcpAllocationRequest`; a field that is a pointer may be nil. -/
structure DhcpAllocationRequest where
  apiVipLease : String
  apiVipMac : Option String
  ingressVipLease : String
  ingressVipMac : Option String
  interface : Option String
deriving DecidableEq, Repr

/-- `models.DhcpAllocationResponse`. -/
structure DhcpAllocationResponse where
  apiVipAddress : String
  apiVipLease : String
  ingressVipAddress : String
  ingressVipLease : String
deriving DecidableEq, Repr

/-- `json.Marshal` of a response; the encoding of strings does not fail. -/
def marshal (response : DhcpAllocationResponse) : String :=
  GoJson.object [⟨"api_vip_address", response.apiVipAddress, false⟩,
    ⟨"api_vip_lease", response.apiVipLease, true⟩,
    ⟨"ingress_vip_address", response.ingressVipAddress, false⟩,
    ⟨"ingress_vip_lease", response.ingressVipLease, true⟩]

/-- What a step returns. -/
structure Output where
  stdout : String
  stderr : String
  exitCode : Int
deriving DecidableEq, Repr

/-- The lease of one name of a request, whose pointers are read here. -/
def leaseFor (interface : Option String) (name : String) (mac : Option String) (lease : String) :
    Prog Answer (Result (String × String)) :=
  match interface, mac with
  | some interface, some mac => leaseByMac configPath interface name mac lease
  | _, _ => pure .panic

/-- The leases of both names. -/
def leases (req : DhcpAllocationRequest) : Prog Answer (Result DhcpAllocationResponse) :=
  ifOk (leaseFor req.interface "api" req.apiVipMac req.apiVipLease) fun api =>
    ifOk (leaseFor req.interface "ingress" req.ingressVipMac req.ingressVipLease) fun ingress =>
      pure (.ok ⟨api.1, api.2, ingress.1, ingress.2⟩)

/-- What `LeaseAllocate` returns for the leases; `none` is a panic. -/
def Result.output : Result DhcpAllocationResponse → Option Output
  | .ok response => some ⟨marshal response, "", 0⟩
  | .err message => some ⟨"", message, -1⟩
  | .panic => none

/-- `LeaseAllocate`, with the decoder of requests. -/
def leaseAllocate (unmarshal : String → Except String DhcpAllocationRequest)
    (leaseAllocateRequestStr : String) : Prog Answer (Option Output) :=
  match unmarshal leaseAllocateRequestStr with
  | .error err => pure (some ⟨"", err, -1⟩)
  | .ok req => do
    match ← ask (.mkdirAll configPath modePerm) with
    | some _ => pure (some ⟨"", "", -1⟩)
    | none =>
      let result ← leases req
      pure result.output

example : getLeaseFile ((Path.clean configPath).join ["api"]) "api" = "/etc/keepalived/lease-api" := by
  decide

example : formatLeaseFile "lease \x7b interface \"eth0\"; \x7d" "api" =
    "lease \x7b interface \"api\"; \x7d" := by decide +kernel

example : lastLease "lease \x7b a \x7d\nlease \x7b b \x7d\n" = some "lease \x7b b \x7d" := by
  decide +kernel

end AssistedAgent.DhcpLease
