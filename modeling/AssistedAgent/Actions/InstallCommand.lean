/-
**The install command, split into its words.**

* `podmanCmd_read` — the words of podman, from the array that all commands share, which stays as it is.
* `solid_of_validateNoProxyFormat` — an accepted list of hosts without a proxy has no white space, so
  that trimming it changes nothing.
* `Required`, `Required.arguments` — the texts that an accepted request has, and what the installer is
  to be told, argument by argument.
* `ManualNetworkConfig` — a network that has been configured by hand, on the files of the host.
* **`installerCommand_faithful`** — whatever commands were made before, `sh` splits the command of an
  accepted request into the words that are meant, and the word after `--installer-args` is decoded to
  the installer's arguments.
-/

import AssistedAgent.Actions.Install
import AssistedAgent.Lib.GoNetText

namespace AssistedAgent.Actions.Install

open GoJson hiding isSpace
open GoNet GoRegexp GoSlice GoStrings

/-! ### The words of podman -/

/-- The volume of the certificate, if there is one. -/
def caVolume (config : AgentConfig) : List String :=
  if config.caCertificatePath = "" then []
  else ["-v", config.caCertificatePath ++ ":" ++ config.caCertificatePath ++ ":rw"]

/-- The slice of podman's words, and the heap that it is a slice of. -/
def podmanCmd (spare : Nat → Nat) (config : AgentConfig) (h : Heap String) : Heap String × Slice :=
  if config.caCertificatePath = "" then (h, whole baseArray podmanBaseCmd.length)
  else append spare h (whole baseArray podmanBaseCmd.length) (caVolume config)

theorem getFullInstallerCommand_eq (spare : Nat → Nat) (config : AgentConfig)
    (params : InstallCmdRequest) (fs : HostFs) (h : Heap String) :
    getFullInstallerCommand spare config params fs h =
      ((podmanCmd spare config h).1,
        Shell.quoteCommand ((podmanCmd spare config h).2.read (podmanCmd spare config h).1) ++ " " ++
          params.installerImage.getD "" ++ " " ++
          Shell.quoteCommand (installerCmdArgs config params fs)) := by
  unfold getFullInstallerCommand podmanCmd caVolume
  split <;> rfl

/-- The shared array holds the words that every command begins with. -/
def Intact (h : Heap String) : Prop := h[baseArray]? = some podmanBaseCmd

theorem podmanCmd_read (spare : Nat → Nat) (config : AgentConfig) {h : Heap String}
    (intact : Intact h) :
    Intact (podmanCmd spare config h).1 ∧
      (podmanCmd spare config h).2.read (podmanCmd spare config h).1 = podmanBaseCmd ++ caVolume config := by
  unfold podmanCmd
  split
  · rename_i empty
    rw [caVolume, if_pos empty, List.append_nil]
    exact ⟨intact, read_whole intact⟩
  · rename_i filled
    have full : (whole baseArray podmanBaseCmd.length).cap <
        (whole baseArray podmanBaseCmd.length).len + (caVolume config).length := by
      rw [caVolume, if_neg filled]
      exact Nat.lt_add_of_pos_right Nat.two_pos
    obtain ⟨same, words⟩ := append_full spare h full
    rw [read_whole intact] at words
    refine ⟨?_, words⟩
    obtain ⟨added, is⟩ := same
    rw [Intact, ← is, List.getElem?_append_left (List.getElem?_eq_some_iff.mp intact).1]
    exact intact

/-- The heap after commands for these agents, requests and file systems. -/
def afterCommands (spare : Nat → Nat) (calls : List (AgentConfig × InstallCmdRequest × HostFs)) :
    Heap String :=
  calls.foldl (fun h call => (getFullInstallerCommand spare call.1 call.2.1 call.2.2 h).1) initialHeap

/-- **No command modifies the shared array.** -/
theorem intact_afterCommands (spare : Nat → Nat)
    (calls : List (AgentConfig × InstallCmdRequest × HostFs)) : Intact (afterCommands spare calls) := by
  refine List.foldlRecOn calls _ (motive := Intact) rfl fun h intact call _ => ?_
  rw [getFullInstallerCommand_eq]
  exact (podmanCmd_read spare call.1 intact).1

/-! ### The image -/

/-- The characters that the shell does not take as they are, wherever they stand or at the beginning of a
word. -/
def metas : List Char := Shell.specials ++ ['#', '~']

theorem avoids_imageParts : ∀ r ∈ imageParts, r.avoids metas = true := by decide

/-- An image that the models accept is one word that stands for itself. -/
theorem spells_image {image : String} (valid : matchString imageRegex image = true) :
    Shell.Spells image.toList (Shell.lits image.toList) := by
  have plain : ∀ c ∈ image.toList, c ∉ metas :=
    forall_of_matchString (fun r member => only_of_avoids (avoids_imageParts r member)) valid
  have filled : image.toList ≠ [] := by
    intro empty
    rw [String.toList_eq_nil_iff] at empty
    rw [empty] at valid
    revert valid
    decide
  refine Shell.spells_of_not_special filled (fun c member => ?_) (fun head => ?_) (fun head => ?_)
  · have ordinary := mt (List.mem_append_left ['#', '~']) (plain c member)
    rwa [Shell.isSpecial, List.contains_eq_mem, decide_eq_false_iff_not]
  · exact plain '#' (List.mem_of_mem_head? head) (by decide)
  · exact plain '~' (List.mem_of_mem_head? head) (by decide)

/-! ### What a request is required to have -/

/-- The texts that a request has to have. -/
structure Required (params : InstallCmdRequest) where
  role : String
  infraEnvID : String
  clusterID : String
  hostID : String
  bootDevice : String
  controllerImage : String
  installerImage : String
  role_eq : params.role = some role
  infraEnvID_eq : params.infraEnvID = some infraEnvID
  clusterID_eq : params.clusterID = some clusterID
  hostID_eq : params.hostID = some hostID
  bootDevice_eq : params.bootDevice = some bootDevice
  controllerImage_eq : params.controllerImage = some controllerImage
  installerImage_eq : params.installerImage = some installerImage

theorem present_of_validateRequired {field : String} {value : Option String}
    {check : String → Option String} (valid : validateRequired field value check = none) :
    ∃ text, value = some text ∧ check text = none := by
  unfold validateRequired at valid
  split at valid
  · cases valid
  · rename_i text
    exact ⟨text, rfl, valid⟩

theorem required_of_validate {f : Formats} {params : InstallCmdRequest}
    (valid : params.validate f = none) :
    ∃ r : Required params, matchString imageRegex r.installerImage = true := by
  have errors := compositeError_eq_none_iff.mp valid
  have present {field : String} {value : Option String} {check : String → Option String}
      (listed : validateRequired field value check ∈ _) :=
    present_of_validateRequired (errors _ listed)
  simp only [List.mem_cons] at present
  obtain ⟨role, role_eq, -⟩ := @present "role" params.role (validateRole "role") (by simp)
  obtain ⟨infraEnvID, infraEnvID_eq, -⟩ :=
    @present "infra_env_id" params.infraEnvID (validateUUID f "infra_env_id") (by simp)
  obtain ⟨clusterID, clusterID_eq, -⟩ :=
    @present "cluster_id" params.clusterID (validateUUID f "cluster_id") (by simp)
  obtain ⟨hostID, hostID_eq, -⟩ := @present "host_id" params.hostID (validateUUID f "host_id") (by simp)
  obtain ⟨bootDevice, bootDevice_eq, -⟩ :=
    @present "boot_device" params.bootDevice (fun _ => none) (by simp)
  obtain ⟨controllerImage, controllerImage_eq, -⟩ :=
    @present "controller_image" params.controllerImage (validateImage "controller_image") (by simp)
  obtain ⟨installerImage, installerImage_eq, image⟩ :=
    @present "installer_image" params.installerImage (validateImage "installer_image") (by simp)
  refine ⟨⟨role, infraEnvID, clusterID, hostID, bootDevice, controllerImage, installerImage, role_eq,
    infraEnvID_eq, clusterID_eq, hostID_eq, bootDevice_eq, controllerImage_eq, installerImage_eq⟩, ?_⟩
  unfold validateImage validatePattern at image
  split at image
  · assumption
  · cases image

/-! ### The hosts without a proxy -/

theorem isAlphanum_bounds {c : Char} (alphanum : c.isAlphanum = true) :
    33 ≤ c.toNat ∧ c.toNat ≤ 126 := by
  rcases Bool.or_eq_true_iff.mp alphanum with alpha | digit
  · rcases Bool.or_eq_true_iff.mp alpha with upper | lower
    · have bounds : 65 ≤ c.toNat ∧ c.toNat ≤ 90 := of_decide_eq_true upper
      omega
    · have bounds : 97 ≤ c.toNat ∧ c.toNat ≤ 122 :=
        (Bool.and_eq_true_iff.mp lower).imp of_decide_eq_true of_decide_eq_true
      omega
  · have bounds : 48 ≤ c.toNat ∧ c.toNat ≤ 57 :=
      (Bool.and_eq_true_iff.mp digit).imp of_decide_eq_true of_decide_eq_true
    omega

theorem isSpace_of_isNameChar {c : Char} (isChar : isNameChar c = true) : isSpace c = false := by
  rw [isNameChar, isNameStart, Bool.or_eq_true, Bool.or_eq_true, beq_iff_eq, beq_iff_eq] at isChar
  rcases isChar with (alphanum | rfl) | rfl
  · obtain ⟨low, high⟩ := isAlphanum_bounds alphanum
    exact isSpace_of_printable low high
  · decide
  · decide

theorem only_labelRegex : labelRegex.Only fun c => isSpace c = false := by
  have start : ∀ c, isNameStart c = true → isSpace c = false := fun c isStart =>
    isSpace_of_isNameChar (by rw [isNameChar, isStart, Bool.true_or])
  exact ⟨start, only_upTo (r := .set isNameChar) (fun c => isSpace_of_isNameChar) 62⟩

theorem only_dnsNameParts : ∀ r ∈ dnsNameParts, r.Only fun c => isSpace c = false := by
  intro r member
  have dot : (Regex.char '.').Only fun c => isSpace c = false := by
    intro c is
    rw [beq_iff_eq.mp is]
    decide
  simp only [dnsNameParts, List.mem_cons, List.not_mem_nil, or_false] at member
  rcases member with rfl | rfl | rfl
  · exact only_labelRegex
  · exact ⟨dot, only_labelRegex⟩
  · refine ⟨fun c is => ?_, trivial⟩
    simp only [List.contains_eq_mem, List.mem_cons, List.not_mem_nil, or_false,
      decide_eq_true_eq] at is
    rcases is with rfl | rfl <;> decide

/-- An entry that is accepted has no white space. -/
theorem solid_of_validateNoProxyEntry {entry : String} (valid : validateNoProxyEntry entry = none) :
    ∀ c ∈ entry.toList, isSpace c = false := by
  have rest : ∀ c ∈ (trimPrefix entry ".").toList, isSpace c = false := by
    unfold validateNoProxyEntry at valid
    dsimp only at valid
    split at valid
    · rename_i isIP
      exact fun c member => isSpace_of_isAddrChar (isAddrChar_of_parseIP isIP c member)
    split at valid
    · rename_i isNet
      unfold isCIDR at isNet
      split at isNet
      · rename_i result parsed
        intro c member
        rcases isAddrChar_of_parseCIDR parsed c member with isChar | rfl
        · exact isSpace_of_isAddrChar isChar
        · decide
      · cases isNet
    split at valid
    · rename_i isName
      unfold isDNSName at isName
      split at isName
      · cases isName
      · exact forall_of_matchString only_dnsNameParts (Bool.and_eq_true_iff.mp isName).2
    · cases valid
  unfold trimPrefix at rest
  split at rest
  · rename_i dotted
    obtain ⟨tail, is⟩ := List.isPrefixOf_iff_prefix.mp dotted
    have dot : ".".toList = ['.'] := rfl
    rw [← is, String.toList_ofList, dot, List.drop_left' rfl] at rest
    rw [← is, dot]
    intro c member
    rcases List.mem_cons.mp member with rfl | later
    · decide
    · exact rest c later
  · exact rest

theorem valid_of_noProxyEntries {before entries : List String}
    (valid : noProxyEntries before entries = none) :
    ∀ entry ∈ entries, validateNoProxyEntry entry = none := by
  induction entries generalizing before with
  | nil => exact nofun
  | cons s rest ih =>
    unfold noProxyEntries at valid
    split at valid
    · cases valid
    split at valid
    · cases valid
    · rename_i first
      intro entry member
      rcases List.mem_cons.mp member with rfl | later
      · exact first
      · exact ih valid entry later

/-- **An accepted list has no white space.** -/
theorem solid_of_validateNoProxyFormat {noProxy : String}
    (valid : validateNoProxyFormat noProxy = none) : ∀ c ∈ noProxy.toList, isSpace c = false := by
  unfold validateNoProxyFormat at valid
  split at valid
  · rename_i star
    rw [star]
    exact List.forall_mem_singleton.mpr rfl
  · have joined : [','].intercalate (noProxy.toList.splitOn ',') = noProxy.toList :=
      List.intercalate_splitOn ','
    rw [← joined]
    refine forall_mem_intercalate (List.forall_mem_singleton.mpr rfl) fun part member => ?_
    have listed : String.ofList part ∈ split noProxy ',' := List.mem_map_of_mem member
    have solid := solid_of_validateNoProxyEntry (valid_of_noProxyEntries valid _ listed)
    rwa [String.toList_ofList] at solid

/-- In an accepted request trimming the hosts without a proxy changes nothing. -/
theorem trimSpace_noProxy {v : Validators} {proxy : Proxy} (valid : validateProxy v proxy = none) :
    trimSpace (proxy.noProxy.getD "") = proxy.noProxy.getD "" := by
  simp only [validateProxy, Option.or_eq_none_iff] at valid
  have noProxy := valid.2.2
  unfold checkFilled at noProxy
  split at noProxy
  · rename_i empty
    rw [empty]
    rfl
  · exact trimSpace_of_solid (solid_of_validateNoProxyFormat noProxy)

/-! ### A network that is configured by hand -/

/-- **A manual network configuration**: the console has run and has started at a known time, and a key file
of a connection has been written since. -/
def ManualNetworkConfig (fs : HostFs) : Prop :=
  ∃ log start entries name info content,
    fs.stat "/var/log/agent/agent-tui.log" = .ok log ∧ fs.birthTime "/var/log/agent" = some start ∧
    start ≠ 0 ∧ fs.readDir nmConnectionsDir = .ok entries ∧ (name, false) ∈ entries ∧
    fs.stat ((GoPath.Path.clean nmConnectionsDir).join [name]).text = .ok info ∧ start ≤ info.modTime ∧
    fs.readFile ((GoPath.Path.clean nmConnectionsDir).join [name]).text = .ok content ∧
    connectionHeader <:+: content

theorem isManualKeyfile_iff (fs : HostFs) (start : Int) (entry : String × Bool) :
    isManualKeyfile fs start entry = true ↔
      entry.2 = false ∧ ∃ info content,
        fs.stat ((GoPath.Path.clean nmConnectionsDir).join [entry.1]).text = .ok info ∧
        start ≤ info.modTime ∧
        fs.readFile ((GoPath.Path.clean nmConnectionsDir).join [entry.1]).text = .ok content ∧
        connectionHeader <:+: content := by
  unfold isManualKeyfile
  rw [Bool.and_eq_true, Bool.not_eq_true']
  refine and_congr_right fun _ => ?_
  cases fs.stat ((GoPath.Path.clean nmConnectionsDir).join [entry.1]).text with
  | error err => simp
  | ok info =>
    cases fs.readFile ((GoPath.Path.clean nmConnectionsDir).join [entry.1]).text with
    | error err => simp
    | ok content => simp

theorem hasManualNetworkConfig_iff (fs : HostFs) :
    hasManualNetworkConfig fs = true ↔ ManualNetworkConfig fs := by
  have started : agentTUIStartTime fs ≠ 0 ↔ ∃ log start, fs.stat "/var/log/agent/agent-tui.log" = .ok log ∧
      fs.birthTime "/var/log/agent" = some start ∧ start ≠ 0 ∧ agentTUIStartTime fs = start := by
    unfold agentTUIStartTime agentTUILogFile agentTUILogDir
    cases fs.stat "/var/log/agent/agent-tui.log" with
    | error err => simp
    | ok log =>
      cases fs.birthTime "/var/log/agent" with
      | none => simp
      | some start => simp
  have found : hasManualNetworkConfig fs = true ↔ agentTUIStartTime fs ≠ 0 ∧
      ∃ entries, fs.readDir nmConnectionsDir = .ok entries ∧
        ∃ entry ∈ entries, isManualKeyfile fs (agentTUIStartTime fs) entry = true := by
    unfold hasManualNetworkConfig
    dsimp only
    split
    · rename_i zero
      simp [zero]
    · rename_i known
      cases fs.readDir nmConnectionsDir with
      | error err => simp
      | ok entries => simp [known]
  rw [found, started]
  constructor
  · rintro ⟨⟨log, start, ran, born, known, is⟩, entries, listed, ⟨name, isDir⟩, member, manual⟩
    rw [is, isManualKeyfile_iff] at manual
    obtain ⟨rfl, info, content, inspected, recent, read, connection⟩ := manual
    exact ⟨log, start, entries, name, info, content, ran, born, known, listed, member, inspected, recent,
      read, connection⟩
  · rintro ⟨log, start, entries, name, info, content, ran, born, known, listed, member, inspected, recent,
      read, connection⟩
    have is : agentTUIStartTime fs = start := by
      simp [agentTUIStartTime, agentTUILogFile, agentTUILogDir, ran, born]
    refine ⟨⟨log, start, ran, born, known, is⟩, entries, listed, (name, false), member, ?_⟩
    rw [is, isManualKeyfile_iff]
    exact ⟨rfl, info, content, inspected, recent, read, connection⟩

/-- What goes on to coreos-installer: the arguments of the request, and the flag for a manual configuration
if it is not among them. -/
structure PassedOn (fs : HostFs) (given toCoreos : List String) : Prop where
  added : ManualNetworkConfig fs → "--copy-network" ∉ given → toCoreos = given ++ ["--copy-network"]
  automatic : ¬ ManualNetworkConfig fs → toCoreos = given
  present : "--copy-network" ∈ given → toCoreos = given

theorem buildInstallerArgs_passedOn (fs : HostFs) (params : InstallCmdRequest) :
    PassedOn fs (requestArgs params) (buildInstallerArgs fs params) := by
  unfold buildInstallerArgs
  constructor
  · intro manual absent
    rw [← hasManualNetworkConfig_iff] at manual
    simp [manual, absent]
  · intro automatic
    rw [← hasManualNetworkConfig_iff] at automatic
    simp [automatic]
  · intro there
    simp [there]

/-! ### What the installer is told -/

/-- An argument with its words, and whether it is given. -/
structure Argument where
  given : Bool
  words : List String

/-- The words of the arguments that are given. -/
def words (arguments : List Argument) : List String :=
  (arguments.filter (·.given)).flatMap (·.words)

@[simp] theorem words_nil : words [] = [] := rfl

@[simp] theorem words_cons (a : Argument) (rest : List Argument) :
    words (a :: rest) = (if a.given then a.words else []) ++ words rest := by
  unfold words
  cases given : a.given <;> simp [given]

@[simp] theorem words_append (before after : List Argument) :
    words (before ++ after) = words before ++ words after := by
  simp [words]

theorem words_formatDisks (disks : List String) :
    words (disks.map fun disk => ⟨true, ["--format-disk", disk]⟩) =
      disks.flatMap fun disk => ["--format-disk", disk] := by
  induction disks with
  | nil => rfl
  | cons disk disks ih => simp [ih]

/-- **What the installer is to be told** about a request, with a JSON text of what goes on to
coreos-installer. -/
def Required.arguments {params : InstallCmdRequest} (r : Required params) (config : AgentConfig)
    (toCoreos : List String) (json : String) : List Argument :=
  let httpProxy := (params.proxy.bind (·.httpProxy)).getD ""
  let httpsProxy := (params.proxy.bind (·.httpsProxy)).getD ""
  let noProxy := (params.proxy.bind (·.noProxy)).getD ""
  [⟨true, ["--role", r.role]⟩,
    ⟨true, ["--infra-env-id", r.infraEnvID]⟩,
    ⟨true, ["--cluster-id", r.clusterID]⟩,
    ⟨true, ["--host-id", r.hostID]⟩,
    ⟨true, ["--boot-device", r.bootDevice]⟩,
    ⟨true, ["--url", config.targetURL]⟩,
    ⟨true, ["--controller-image", r.controllerImage]⟩,
    ⟨true, ["--agent-image", config.agentVersion]⟩,
    ⟨params.controlPlaneCount ≠ 0, ["--control-plane-count", toString params.controlPlaneCount]⟩,
    ⟨params.mcoImage ≠ "", ["--mco-image", params.mcoImage]⟩,
    ⟨params.mustGatherImage ≠ "", ["--must-gather-image", params.mustGatherImage]⟩,
    ⟨params.openshiftVersion ≠ "", ["--openshift-version", params.openshiftVersion]⟩] ++
  params.disksToFormat.map (fun disk => ⟨true, ["--format-disk", disk]⟩) ++
  [⟨config.insecureConnection, ["--insecure"]⟩,
    ⟨params.checkCvo = some true, ["--check-cluster-version"]⟩,
    ⟨params.skipInstallationDiskCleanup, ["--skip-installation-disk-cleanup"]⟩,
    ⟨config.caCertificatePath ≠ "", ["--cacert", config.caCertificatePath]⟩,
    ⟨toCoreos ≠ [], ["--installer-args", json]⟩,
    ⟨params.enableSkipMcoReboot, ["--enable-skip-mco-reboot"]⟩,
    ⟨params.notifyNumReboots, ["--notify-num-reboots"]⟩,
    ⟨httpProxy ≠ "", ["--http-proxy", httpProxy]⟩,
    ⟨httpsProxy ≠ "", ["--https-proxy", httpsProxy]⟩,
    ⟨(httpProxy ≠ "" ∨ httpsProxy ≠ "") ∧ noProxy ≠ "", ["--no-proxy", noProxy]⟩,
    ⟨params.serviceIps ≠ [], ["--service-ips", ",".intercalate params.serviceIps]⟩,
    ⟨params.coreosImage ≠ "", ["--coreos-image", params.coreosImage]⟩]

/-- The arguments of the proxy in an accepted request. -/
theorem getProxyArguments_eq {v : Validators} {proxy : Option Proxy}
    (valid : proxy.bind (validateProxy v) = none) :
    getProxyArguments proxy =
      let httpProxy := (proxy.bind (·.httpProxy)).getD ""
      let httpsProxy := (proxy.bind (·.httpsProxy)).getD ""
      let noProxy := (proxy.bind (·.noProxy)).getD ""
      words [⟨httpProxy ≠ "", ["--http-proxy", httpProxy]⟩, ⟨httpsProxy ≠ "", ["--https-proxy", httpsProxy]⟩,
        ⟨(httpProxy ≠ "" ∨ httpsProxy ≠ "") ∧ noProxy ≠ "", ["--no-proxy", noProxy]⟩] := by
  cases proxy with
  | none => rfl
  | some proxy =>
    simp only [getProxyArguments, trimSpace_noProxy (v := v) valid, Option.bind_some, words_cons, words_nil]
    by_cases http : proxy.httpProxy.getD "" = ""
    · by_cases https : proxy.httpsProxy.getD "" = ""
      · simp [http, https]
      · by_cases noProxy : proxy.noProxy.getD "" = "" <;> simp [http, https, noProxy]
    · by_cases https : proxy.httpsProxy.getD "" = "" <;>
        by_cases noProxy : proxy.noProxy.getD "" = "" <;> simp [http, https, noProxy]

/-- **The words are those that the installer is to be told.** -/
theorem installerCmdArgs_eq {v : Validators} {params : InstallCmdRequest} (r : Required params)
    (valid : params.proxy.bind (validateProxy v) = none) (config : AgentConfig) (fs : HostFs) :
    installerCmdArgs config params fs =
      words (r.arguments config (buildInstallerArgs fs params) (strings (buildInstallerArgs fs params))) := by
  have checkCvo : params.checkCvo.getD false = decide (params.checkCvo = some true) := by
    rcases params.checkCvo with _ | _ | _ <;> rfl
  rw [installerCmdArgs, getProxyArguments_eq valid]
  generalize buildInstallerArgs fs params = toCoreos
  simp only [installerArguments, Required.arguments, textFlag, boolFlag, checkCvo, words_append, words_cons,
    words_nil, words_formatDisks, r.role_eq, r.infraEnvID_eq, r.clusterID_eq, r.hostID_eq, r.bootDevice_eq,
    r.controllerImage_eq, Option.getD_some, decide_eq_true_eq, ite_not, if_true, List.append_assoc,
    List.append_nil, List.cons_append, List.nil_append]

/-! ### The whole command -/

theorem checks_of_accepted {v : Validators} {unmarshal : Json → Option InstallCmdRequest} {fs : HostFs}
    {args : List String} {params : InstallCmdRequest}
    (accepted : validate v unmarshal fs args = .accepted params) :
    params.validate v.toFormats = none ∧ checkParams v fs params = none := by
  unfold validate at accepted
  split at accepted
  · rename_i decoded common
    split at accepted
    · cases accepted
    · rename_i checked
      cases accepted
      obtain ⟨-, arg, rest, json, -, -, -, valid⟩ := validateCommon_accepted common
      exact ⟨valid, checked⟩
  · cases accepted
  · cases accepted

/-- These are the installer's arguments of the request. -/
def Given (params : InstallCmdRequest) (given : List String) : Prop :=
  params.installerArgs = "" ∧ given = [] ∨
    params.installerArgs ≠ "" ∧ unmarshalStrings params.installerArgs = some given

theorem given_of_checkInstallerArgs {params : InstallCmdRequest}
    (checked : checkInstallerArgs params.installerArgs = none) : Given params (requestArgs params) := by
  unfold checkInstallerArgs at checked
  unfold requestArgs
  split at checked
  · rename_i empty
    exact .inl ⟨empty, if_pos empty⟩
  · rename_i filled
    split at checked
    · cases checked
    · rename_i args decoded
      refine .inr ⟨filled, ?_⟩
      rw [if_neg filled, decoded]
      rfl

/-- **The command of an accepted request, after any other commands, is split into the words that are
meant**, and the word after `--installer-args` is decoded to what goes on to coreos-installer. -/
theorem installerCommand_faithful {v : Validators} {unmarshal : Json → Option InstallCmdRequest}
    {validatedFs : HostFs} {args : List String} {params : InstallCmdRequest}
    (accepted : validate v unmarshal validatedFs args = .accepted params) (spare : Nat → Nat)
    (before : List (AgentConfig × InstallCmdRequest × HostFs)) (config : AgentConfig) (fs : HostFs) :
    ∃ (r : Required params) (given toCoreos : List String) (json : String),
      Given params given ∧ PassedOn fs given toCoreos ∧
      (toCoreos ≠ [] → unmarshalStrings json = some toCoreos) ∧
      Shell.argv (getFullInstallerCommand spare config params fs (afterCommands spare before)).2 =
        some (podmanBaseCmd ++ caVolume config ++ [r.installerImage] ++
          words (r.arguments config toCoreos json)) := by
  obtain ⟨valid, checked⟩ := checks_of_accepted accepted
  obtain ⟨r, pattern⟩ := required_of_validate valid
  simp only [checkParams, Option.or_eq_none_iff, Option.map_eq_none_iff] at checked
  obtain ⟨-, proxy, installerArgs, -, -⟩ := checked
  refine ⟨r, requestArgs params, buildInstallerArgs fs params, strings (buildInstallerArgs fs params),
    given_of_checkInstallerArgs installerArgs, buildInstallerArgs_passedOn fs params, parse_strings, ?_⟩
  rw [getFullInstallerCommand_eq, r.installerImage_eq, Option.getD_some,
    (podmanCmd_read spare config (intact_afterCommands spare before)).2, installerCmdArgs_eq r proxy]
  refine Shell.argv_quoteCommand_around (fun empty => ?_) (fun empty => ?_) (spells_image pattern)
  · cases (List.append_eq_nil_iff.mp empty).1
  · simp [Required.arguments] at empty

def sampleRequest : InstallCmdRequest where
  bootDevice := some "/dev/sda"
  checkCvo := some true
  clusterID := some "c"
  controlPlaneCount := 3
  controllerImage := some "q/c:1"
  coreosImage := ""
  disksToFormat := ["/dev/a b"]
  enableSkipMcoReboot := false
  hostID := some "h"
  infraEnvID := some "i"
  installerArgs := "[\"-n\"]"
  installerImage := some "q/i:1"
  mcoImage := ""
  mustGatherImage := ""
  notifyNumReboots := true
  openshiftVersion := "4.8"
  proxy := some ⟨some "http://p", none, some ".a,10.0.0.0/8"⟩
  role := some "master"
  serviceIps := ["10.0.0.1"]
  skipInstallationDiskCleanup := false

/-- Every format is accepted. -/
def sampleValidators : Validators where
  isUUID := fun _ => true
  isMAC := fun _ => true
  quote := id
  httpProxyFormat := fun _ => none
  newVersion := fun _ => none

/-- The console has run, and a connection has been written since. -/
def sampleFs : HostFs where
  stat := fun _ => .ok ⟨7⟩
  readDir := fun _ => .ok [("old", true), ("eth0.nmconnection", false)]
  readFile := fun _ => .ok connectionHeader
  birthTime := fun _ => some 5

theorem manualNetworkConfig_sampleFs : ManualNetworkConfig sampleFs :=
  ⟨_, 5, _, "eth0.nmconnection", _, _, rfl, rfl, by decide, rfl, by decide, rfl, by decide, rfl,
    List.infix_rfl⟩

theorem sampleRequest_accepted :
    validate sampleValidators (fun _ => some sampleRequest) sampleFs ["\x7b\x7d"] =
    .accepted sampleRequest := by
  decide +kernel

theorem installerCommand_faithful_sample :
    ∃ json, unmarshalStrings json = some ["-n", "--copy-network"] ∧
      Shell.argv (getFullInstallerCommand id ⟨"http://u", "a", true, "/c"⟩ sampleRequest sampleFs
          (afterCommands id [(⟨"", "", true, "/d"⟩, sampleRequest, sampleFs)])).2 =
        some (podmanBaseCmd ++ ["-v", "/c:/c:rw", "q/i:1", "--role", "master", "--infra-env-id", "i",
          "--cluster-id", "c", "--host-id", "h", "--boot-device", "/dev/sda", "--url", "http://u",
          "--controller-image", "q/c:1", "--agent-image", "a", "--control-plane-count", "3",
          "--openshift-version", "4.8", "--format-disk", "/dev/a b", "--insecure",
          "--check-cluster-version", "--cacert", "/c", "--installer-args", json, "--notify-num-reboots",
          "--http-proxy", "http://p", "--no-proxy", ".a,10.0.0.0/8", "--service-ips", "10.0.0.1"]) := by
  obtain ⟨⟨role, infraEnvID, clusterID, hostID, bootDevice, controllerImage, installerImage, role_eq,
    infraEnvID_eq, clusterID_eq, hostID_eq, bootDevice_eq, controllerImage_eq, installerImage_eq⟩, given,
    toCoreos, json, isGiven, passedOn, decoded, split⟩ :=
    installerCommand_faithful sampleRequest_accepted id
      [(⟨"", "", true, "/d"⟩, sampleRequest, sampleFs)] ⟨"http://u", "a", true, "/c"⟩ sampleFs
  cases role_eq
  cases infraEnvID_eq
  cases clusterID_eq
  cases hostID_eq
  cases bootDevice_eq
  cases controllerImage_eq
  cases installerImage_eq
  have requested : unmarshalStrings sampleRequest.installerArgs = some ["-n"] := by decide +kernel
  rcases isGiven with ⟨empty, -⟩ | ⟨-, isGiven⟩
  · exact absurd empty (by decide)
  · rw [requested, Option.some.injEq] at isGiven
    subst isGiven
    obtain rfl := passedOn.added manualNetworkConfig_sampleFs (by decide)
    refine ⟨json, decoded (by decide), split.trans ?_⟩
    rfl

end AssistedAgent.Actions.Install
