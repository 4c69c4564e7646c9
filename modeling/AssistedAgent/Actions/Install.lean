/-
**The install action.**

`validate` is the check of the decoded request and of the host's disks, and `getFullInstallerCommand` the
command that is handed to `sh -c`: the words of podman and of the installer, quoted, with the installer's
image between them as it is. The words of podman are a slice of an array that all commands share, so the
command is a function of the heap, and returns one.

Parameters stand for what the action takes from other packages: the decoder of the request, the formats
of the models, the check of a proxy's URL and that of a version.
-/

import AssistedAgent.Actions.Validate
import AssistedAgent.Lib.GoNet
import AssistedAgent.Lib.GoPath
import AssistedAgent.Lib.GoSlice
import AssistedAgent.Lib.GoStrings
import AssistedAgent.Lib.Shell

namespace AssistedAgent.Actions.Install

open GoJson GoNet GoPath GoRegexp GoSlice GoStrings

/-! ### The request -/

/-- `models.Proxy`. -/
structure Proxy where
  httpProxy : Option String
  httpsProxy : Option String
  noProxy : Option String
deriving DecidableEq, Repr

/-- `models.InstallCmdRequest`; an `Option` is a pointer. -/
structure InstallCmdRequest where
  bootDevice : Option String
  checkCvo : Option Bool
  clusterID : Option String
  controlPlaneCount : Int
  controllerImage : Option String
  coreosImage : String
  disksToFormat : List String
  enableSkipMcoReboot : Bool
  hostID : Option String
  infraEnvID : Option String
  installerArgs : String
  installerImage : Option String
  mcoImage : String
  mustGatherImage : String
  notifyNumReboots : Bool
  openshiftVersion : String
  proxy : Option Proxy
  role : Option String
  serviceIps : List String
  skipInstallationDiskCleanup : Bool
deriving DecidableEq, Repr

def hostRoles : List String := ["auto-assign", "master", "arbiter", "worker", "bootstrap"]

def validateRole (field text : String) : Option String :=
  if hostRoles.contains text then none
  else some (field ++ " in body should be one of [" ++ " ".intercalate hostRoles ++ "]")

/-- `InstallCmdRequest.Validate`; that of the proxy accepts every proxy. -/
def InstallCmdRequest.validate (f : Formats) (m : InstallCmdRequest) : Option String :=
  compositeError [
    validateRequired "boot_device" m.bootDevice fun _ => none,
    validateRequired "cluster_id" m.clusterID (validateUUID f "cluster_id"),
    validateRequired "controller_image" m.controllerImage (validateImage "controller_image"),
    validateRequired "host_id" m.hostID (validateUUID f "host_id"),
    validateRequired "infra_env_id" m.infraEnvID (validateUUID f "infra_env_id"),
    validateRequired "installer_image" m.installerImage (validateImage "installer_image"),
    if m.mcoImage = "" then none else validateImage "mco_image" m.mcoImage,
    validateRequired "role" m.role (validateRole "role"),
    validateEach validateAddress "service_ips" m.serviceIps]

/-! ### The host -/

structure FileInfo where
  modTime : Int
deriving DecidableEq, Repr

/-- The file system of the host. Times are numbers of nanoseconds, with the zero time at zero. -/
structure HostFs where
  stat : String → Except String FileInfo
  /-- The names in a directory, and whether each is a directory. -/
  readDir : String → Except String (List (String × Bool))
  readFile : String → Except String (List UInt8)
  birthTime : String → Option Int

/-! ### Validation -/

/-- The checks of other packages: `validations.ValidateHTTPProxyFormat` and `version.NewVersion`, by their
errors. -/
structure Validators extends Formats where
  httpProxyFormat : String → Option String
  newVersion : String → Option String

/-- A map of strings, as it is decoded. -/
def decodeStringMap : Json → Option (List (String × String))
  | .null => some []
  | .object members => members.foldlM (fun decoded (key, item) => do
      let text ← decodeString item ""
      some (decoded.filter (·.1 ≠ key) ++ [(key, text)])) []
  | _ => none

def imageMap (mustGatherImage : String) : List (String × String) :=
  match (parse mustGatherImage).bind decodeStringMap with
  | some images => images
  | none => [("ocp", mustGatherImage)]

/-- A map of strings under the verb `%v`. -/
def formatMap (entries : List (String × String)) : String :=
  "map[" ++ " ".intercalate ((entries.mergeSort fun a b => a.1 ≤ b.1).map fun e => e.1 ++ ":" ++ e.2) ++ "]"

/-- The first error in the order in which the entries are listed; Go goes over them in any order. -/
def validateMustGatherImages (mustGatherImage : String) : Option String :=
  let images := imageMap mustGatherImage
  (images.filterMap fun (op, image) =>
    if ! matchString imageRegex image then
      some ("must gather image " ++ image ++ " validation failed " ++ formatMap images)
    else if ! ["cnv", "lso", "ocs", "odf", "ocp"].contains op then
      some ("operator name " ++ op ++ " validation failed")
    else none).head?

/-- `[a-zA-Z0-9_]`. -/
def isNameStart (c : Char) : Bool := c.isAlphanum || c == '_'

/-- `[a-zA-Z0-9_-]`. -/
def isNameChar (c : Char) : Bool := isNameStart c || c == '-'

/-- `[a-zA-Z0-9_]\x7b1\x7d[a-zA-Z0-9_-]\x7b0,62\x7d`. -/
def labelRegex : Regex := .seq (.set isNameStart) (.upTo 62 (.set isNameChar))

/-- `DNSName`: labels with dots between them, and a dot or an underscore at the end. -/
def dnsNameParts : List Regex :=
  [.group 1 labelRegex, .star (.group 2 (.seq (.char '.') labelRegex)),
    .opt (.set fun c => ['.', '_'].contains c)]

def dnsNameRegex : Regex := .whole dnsNameParts

/-- `govalidator.IsDNSName`. -/
def isDNSName (str : String) : Bool :=
  if str = "" ∨ 255 < (String.ofList (str.toList.filter (· ≠ '.'))).utf8ByteSize then false
  else decide (parseIP str = []) && matchString dnsNameRegex str

def isCIDR (str : String) : Bool :=
  match parseCIDR str with
  | .ok _ => true
  | .error _ => false

def validateNoProxyEntry (entry : String) : Option String :=
  let s := trimPrefix entry "."
  if parseIP s ≠ [] then none
  else if isCIDR s then none
  else if isDNSName s then none
  else some (entry ++ " is not a valid no_proxy entry")

def noProxyMessage : String :=
  "NO Proxy is a comma-separated list of destination domain names, domains, IP addresses or other " ++
    "network CIDRs. A domain can be prefaced with '.' to include all subdomains of that domain. Use " ++
    "'*' to bypass proxy for all destinations with OpenShift 4.8 or later."

def noProxyEntries (before : List String) : List String → Option String
  | [] => none
  | s :: rest =>
    if before.contains s then some ("duplicate no_proxy entry defined: " ++ s)
    else
      match validateNoProxyEntry s with
      | some err => some (noProxyMessage ++ ": " ++ err)
      | none => noProxyEntries (s :: before) rest

def validateNoProxyFormat (noProxy : String) : Option String :=
  if noProxy = "*" then none else noProxyEntries [] (split noProxy ',')

/-- A check of a text that is not empty. -/
def checkFilled (text : String) (check : String → Option String) : Option String :=
  if text = "" then none else check text

def validateProxy (v : Validators) (proxy : Proxy) : Option String :=
  (checkFilled (proxy.httpProxy.getD "") v.httpProxyFormat).or
    ((checkFilled (proxy.httpsProxy.getD "") v.httpProxyFormat).or
      (checkFilled (proxy.noProxy.getD "") validateNoProxyFormat))

def allowedFlags : List String :=
  ["--append-karg", "--delete-karg", "-n", "--copy-network", "--network-dir", "--save-partlabel",
    "--save-partindex", "--image-url", "--image-file"]

/-- `[A-Za-z0-9@!#$%*()_+-=//.,";':\x7b\x7d\[\]]`, with a range from the plus to the equals sign. -/
def isValueChar (c : Char) : Bool :=
  c.isAlphanum || ('+' ≤ c && c ≤ '=') || "@!#$%*()_/.,\";':\x7b\x7d[]".toList.contains c

def validateInstallerArgs (args : List String) : Option String :=
  (args.filterMap fun arg =>
    if hasPrefix arg "-" then
      if allowedFlags.contains arg then none
      else some ("found unexpected flag " ++ arg ++ " for installer - allowed flags are " ++
        formatArgs allowedFlags)
    else if arg ≠ "" ∧ arg.toList.all isValueChar then none
    else some ("found unexpected chars in value " ++ arg ++ " for installer")).head?

/-- `json.Unmarshal` to a list of strings. -/
def unmarshalStrings (text : String) : Option (List String) := (parse text).bind decodeStrings

def pathExists (fs : HostFs) (path : String) : Bool :=
  match fs.stat path with
  | .ok _ => true
  | .error _ => false

def validateDisks (fs : HostFs) (params : InstallCmdRequest) : Option String :=
  ((params.disksToFormat ++ [params.bootDevice.getD ""]).filterMap fun disk =>
    if ! hasPrefix disk "/dev/" then some ("disk " ++ disk ++ " should start of with /dev/")
    else if ! pathExists fs disk then some ("disk " ++ disk ++ " was not found on the host")
    else none).head?

/-- The check of the installer's arguments, which are JSON within JSON. -/
def checkInstallerArgs (text : String) : Option Rejection :=
  if text = "" then none
  else
    match unmarshalStrings text with
    | none => some .json
    | some args => (validateInstallerArgs args).map .action

/-- What `Validate` checks after the model, by the first error. -/
def checkParams (v : Validators) (fs : HostFs) (params : InstallCmdRequest) : Option Rejection :=
  ((checkFilled params.mustGatherImage validateMustGatherImages).map .action).or
    (((params.proxy.bind (validateProxy v)).map .action).or
      ((checkInstallerArgs params.installerArgs).or
        (((checkFilled params.openshiftVersion v.newVersion).map fun err =>
            .action ("Failed to parse OCP version " ++ params.openshiftVersion ++ ": " ++ err)).or
          ((validateDisks fs params).map .action))))

/-- `Validate`, with the parameters that it keeps. -/
def validate (v : Validators) (unmarshal : Json → Option InstallCmdRequest) (fs : HostFs)
    (args : List String) : Validation InstallCmdRequest :=
  match validateCommon "install" 1 args ⟨unmarshal, InstallCmdRequest.validate v.toFormats⟩ with
  | .accepted params =>
    match checkParams v fs params with
    | some why => .rejected why
    | none => .accepted params
  | .rejected why => .rejected why
  | .panicked => .panicked

/-! ### Manual network configuration -/

def nmConnectionsDir : String := "/proc/1/root/etc/NetworkManager/system-connections"

def agentTUILogFile : String := "/var/log/agent/agent-tui.log"

def agentTUILogDir : String := "/var/log/agent"

/-- The zero time if the console did not run, or if the birth time is not known. -/
def agentTUIStartTime (fs : HostFs) : Int :=
  match fs.stat agentTUILogFile with
  | .error _ => 0
  | .ok _ => (fs.birthTime agentTUILogDir).getD 0

def connectionHeader : List UInt8 := "[connection]".toList.map fun c => UInt8.ofNat c.toNat

/-- A key file that was written since the console started. -/
def isManualKeyfile (fs : HostFs) (tuiStart : Int) (entry : String × Bool) : Bool :=
  let filePath := ((Path.clean nmConnectionsDir).join [entry.1]).text
  ! entry.2 &&
    match fs.stat filePath with
    | .error _ => false
    | .ok info =>
      ! decide (info.modTime < tuiStart) &&
        match fs.readFile filePath with
        | .error _ => false
        | .ok content => decide (connectionHeader <:+: content)

def hasManualNetworkConfig (fs : HostFs) : Bool :=
  let tuiStart := agentTUIStartTime fs
  if tuiStart = 0 then false
  else
    match fs.readDir nmConnectionsDir with
    | .error _ => false
    | .ok entries => entries.any (isManualKeyfile fs tuiStart)

/-- The arguments of the request, which `Validate` has decoded before. -/
def requestArgs (params : InstallCmdRequest) : List String :=
  if params.installerArgs = "" then [] else (unmarshalStrings params.installerArgs).getD []

def buildInstallerArgs (fs : HostFs) (params : InstallCmdRequest) : List String :=
  let args := requestArgs params
  if hasManualNetworkConfig fs && ! args.contains "--copy-network" then args ++ ["--copy-network"]
  else args

/-! ### The command -/

def podmanBaseCmd : List String :=
  ["podman", "run", "--privileged", "--pid=host", "--net=host", "--name=assisted-installer",
    "-v", "/dev:/dev:rw", "-v", "/opt:/opt:rw", "-v", "/var/log:/var/log:rw",
    "-v", "/run/systemd/journal/socket:/run/systemd/journal/socket", "-v", "/etc/pki:/etc/pki",
    "-v", "/tmp:/tmp", "--env=PULL_SECRET_TOKEN"]

def getProxyArguments (proxy : Option Proxy) : List String :=
  match proxy with
  | none => []
  | some proxy =>
    let httpProxy := proxy.httpProxy.getD ""
    let httpsProxy := proxy.httpsProxy.getD ""
    let noProxy := proxy.noProxy.getD ""
    if httpProxy = "" ∧ httpsProxy = "" then []
    else
      (if httpProxy = "" then [] else ["--http-proxy", httpProxy]) ++
        (if httpsProxy = "" then [] else ["--https-proxy", httpsProxy]) ++
        (if noProxy = "" then [] else ["--no-proxy", trimSpace noProxy])

/-- The flag of a text that is not empty. -/
def textFlag (name text : String) : List String := if text = "" then [] else [name, text]

def boolFlag (name : String) (b : Bool) : List String := if b then [name] else []

/-- The arguments of the installer, with those that go on to coreos-installer and those of the proxy. The
pointers are those that `Validate` requires. -/
def installerArguments (config : AgentConfig) (params : InstallCmdRequest)
    (installerArgs proxyArgs : List String) : List String :=
  ["--role", params.role.getD "", "--infra-env-id", params.infraEnvID.getD "",
      "--cluster-id", params.clusterID.getD "", "--host-id", params.hostID.getD "",
      "--boot-device", params.bootDevice.getD "", "--url", config.targetURL,
      "--controller-image", params.controllerImage.getD "", "--agent-image", config.agentVersion] ++
    (if params.controlPlaneCount = 0 then []
      else ["--control-plane-count", toString params.controlPlaneCount]) ++
    textFlag "--mco-image" params.mcoImage ++
    textFlag "--must-gather-image" params.mustGatherImage ++
    textFlag "--openshift-version" params.openshiftVersion ++
    (params.disksToFormat.flatMap fun diskToFormat => ["--format-disk", diskToFormat]) ++
    boolFlag "--insecure" config.insecureConnection ++
    boolFlag "--check-cluster-version" (params.checkCvo.getD false) ++
    boolFlag "--skip-installation-disk-cleanup" params.skipInstallationDiskCleanup ++
    textFlag "--cacert" config.caCertificatePath ++
    (if installerArgs = [] then [] else ["--installer-args", strings installerArgs]) ++
    boolFlag "--enable-skip-mco-reboot" params.enableSkipMcoReboot ++
    boolFlag "--notify-num-reboots" params.notifyNumReboots ++
    proxyArgs ++
    (if params.serviceIps = [] then [] else ["--service-ips", ",".intercalate params.serviceIps]) ++
    textFlag "--coreos-image" params.coreosImage

def installerCmdArgs (config : AgentConfig) (params : InstallCmdRequest) (fs : HostFs) :
    List String :=
  installerArguments config params (buildInstallerArgs fs params) (getProxyArguments params.proxy)

/-- The number of the array `podmanBaseCmd`. -/
def baseArray : Nat := 0

def initialHeap : Heap String := [podmanBaseCmd]

def getFullInstallerCommand (spare : Nat → Nat) (config : AgentConfig) (params : InstallCmdRequest)
    (fs : HostFs) (h : Heap String) : Heap String × String :=
  let podmanCmd := whole baseArray podmanBaseCmd.length
  let (h, podmanCmd) :=
    if config.caCertificatePath = "" then (h, podmanCmd)
    else append spare h podmanCmd
      ["-v", config.caCertificatePath ++ ":" ++ config.caCertificatePath ++ ":rw"]
  (h, Shell.quoteCommand (podmanCmd.read h) ++ " " ++ params.installerImage.getD "" ++ " " ++
    Shell.quoteCommand (installerCmdArgs config params fs))

end AssistedAgent.Actions.Install
