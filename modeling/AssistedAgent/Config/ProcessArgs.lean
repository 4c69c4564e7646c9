/-
**How the agent, the next-step runner and the logs sender are configured.**

Each of them reads its command line with the package `flag`; the defaults of the dry-run flags come from
the environment.

* `processArgs`, `processLogsSenderConfigArgs` — the configurations, or the exit of the program.
* `processArgs_writes`, `processLogsSenderConfigArgs_writes` — the configuration for the flags that a
  command line writes.
-/

import AssistedAgent.Actions.Validate
import AssistedAgent.Lib.GoFlag

namespace AssistedAgent.Config

open GoFlag

structure DryRunConfig where
  dryRunEnabled : Bool
  forcedHostID : String
  forcedHostIPv4 : String
  forcedMacAddress : String
  forcedHostname : String
  fakeRebootMarkerPath : String
deriving DecidableEq, Repr

structure LoggingConfig where
  textLogging : Bool
  journalLogging : Bool
  stdoutLogging : Bool
deriving DecidableEq, Repr

/-- `config.AgentConfig`. -/
structure AgentConfig extends Actions.AgentConfig, DryRunConfig, LoggingConfig where
  infraEnvID : String
  pullSecretToken : String
  intervalSecs : Int
  hostID : String
deriving DecidableEq, Repr

/-- What a program finds in its environment, and `strconv.ParseInt` for base 0. -/
structure Environ where
  /-- `envconfig.Process`. -/
  dryRun : Option DryRunConfig
  pullSecretToken : String
  parseInt : String → Option Int

/-- A program that starts. -/
inductive Started (α : Type)
  | running (config : α)
  | exited (code : Nat)
deriving DecidableEq, Repr

/-- `flag.ExitOnError`. -/
def exitCode : ParseError → Nat
  | .help => 0
  | _ => 2

/-! ### The flags -/

def dryRunFlag (name : String) : Option Flag :=
  if name = "dry-run" then some boolFlag
  else if ["force-id", "force-mac", "force-hostname", "forced-ipv4", "fake-reboot-marker-path"].contains
    name then some stringFlag
  else none

def dryRunConfig (defaultValues : DryRunConfig) (settings : List Setting) : DryRunConfig where
  dryRunEnabled := boolVar settings "dry-run" defaultValues.dryRunEnabled
  forcedHostID := stringVar settings "force-id" defaultValues.forcedHostID
  forcedHostIPv4 := stringVar settings "forced-ipv4" defaultValues.forcedHostIPv4
  forcedMacAddress := stringVar settings "force-mac" defaultValues.forcedMacAddress
  forcedHostname := stringVar settings "force-hostname" defaultValues.forcedHostname
  fakeRebootMarkerPath := stringVar settings "fake-reboot-marker-path" defaultValues.fakeRebootMarkerPath

def agentFlags (env : Environ) : FlagSet := fun name =>
  if ["with-journal-logging", "with-text-logging", "with-stdout-logging", "insecure", "help"].contains name
    then some boolFlag
  else if ["url", "infra-env-id", "agent-version", "cacert", "host-id"].contains name
    then some stringFlag
  else if name = "interval" then some ⟨false, fun text => (env.parseInt text).isSome⟩
  else dryRunFlag name

def agentConfig (env : Environ) (defaultValues : DryRunConfig) (settings : List Setting) :
    AgentConfig where
  toDryRunConfig := dryRunConfig defaultValues settings
  textLogging := boolVar settings "with-text-logging" false
  journalLogging := boolVar settings "with-journal-logging" true
  stdoutLogging := boolVar settings "with-stdout-logging" false
  targetURL := stringVar settings "url" ""
  infraEnvID := stringVar settings "infra-env-id" ""
  agentVersion := stringVar settings "agent-version" ""
  intervalSecs := ((lastSet settings "interval").bind env.parseInt).getD 60
  caCertificatePath := stringVar settings "cacert" ""
  insecureConnection := boolVar settings "insecure" false
  hostID := stringVar settings "host-id" ""
  pullSecretToken := env.pullSecretToken

/-- `ProcessArgs`. -/
def processArgs (env : Environ) (args : List String) : Started AgentConfig :=
  match env.dryRun with
  | none => .exited 1
  | some defaultValues =>
    match parse (agentFlags env) args with
    | .error err => .exited (exitCode err)
    | .ok (settings, _) =>
      if boolVar settings "help" false then .exited 0
      else
        let config := agentConfig env defaultValues settings
        if config.targetURL = "" then .exited 1
        else if config.infraEnvID = "" then .exited 1
        else .running config

/-- `config.LogsSenderConfig`, by the fields that are set. -/
structure LogsSenderConfig extends DryRunConfig where
  textLogging : Bool
  journalLogging : Bool
  since : String
  targetURL : String
  clusterID : String
  infraEnvID : String
  hostID : String
  pullSecretToken : String
  cleanWhenDone : Bool
  isBootstrap : Bool
  installerGatherlogging : Bool
  caCertificatePath : String
  insecureConnection : Bool
  mastersIPs : String
  tags : List String
  services : List String
deriving DecidableEq, Repr

def logsSenderFlags : FlagSet := fun name =>
  if ["with-journal-logging", "with-text-logging", "dont-clean", "bootstrap",
    "with-installer-gather-logging", "insecure", "help"].contains name then some boolFlag
  else if ["since", "url", "cluster-id", "infra-env-id", "host-id", "pull-secret-token", "cacert",
    "masters-ips"].contains name then some stringFlag
  else dryRunFlag name

def logsSenderConfig (env : Environ) (defaultValues : DryRunConfig)
    (defaultTextLogging defaultJournalLogging : Bool) (settings : List Setting) : LogsSenderConfig :=
  let isBootstrap := boolVar settings "bootstrap" false
  let pullSecretToken := stringVar settings "pull-secret-token" ""
  { toDryRunConfig := dryRunConfig defaultValues settings
    textLogging := boolVar settings "with-text-logging" defaultTextLogging
    journalLogging := boolVar settings "with-journal-logging" defaultJournalLogging
    since := stringVar settings "since" ""
    targetURL := stringVar settings "url" ""
    clusterID := stringVar settings "cluster-id" ""
    infraEnvID := stringVar settings "infra-env-id" ""
    hostID := stringVar settings "host-id" "host-id"
    pullSecretToken := if pullSecretToken = "" then env.pullSecretToken else pullSecretToken
    cleanWhenDone := !boolVar settings "dont-clean" false
    isBootstrap
    installerGatherlogging := boolVar settings "with-installer-gather-logging" false
    caCertificatePath := stringVar settings "cacert" ""
    insecureConnection := boolVar settings "insecure" false
    mastersIPs := stringVar settings "masters-ips" ""
    tags := ["agent", "installer"]
    services := if isBootstrap then ["ironic-agent", "bootkube"] else ["ironic-agent"] }

def logsSenderRequired : List String := ["host-id", "cluster-id", "url"]

/-- `flag.Visit` has seen the flag. -/
def seen (settings : List Setting) (name : String) : Bool := settings.any (·.name = name)

/-- `ProcessLogsSenderConfigArgs`. -/
def processLogsSenderConfigArgs (env : Environ) (defaultTextLogging defaultJournalLogging : Bool)
    (args : List String) : Started LogsSenderConfig :=
  match env.dryRun with
  | none => .exited 1
  | some defaultValues =>
    match parse logsSenderFlags args with
    | .error err => .exited (exitCode err)
    | .ok (settings, _) =>
      if boolVar settings "help" false then .exited 0
      else if logsSenderRequired.all (seen settings) then
        .running (logsSenderConfig env defaultValues defaultTextLogging defaultJournalLogging settings)
      else .exited 2

/-! ### Command lines that write their flags -/

theorem processArgs_writes {env : Environ} {defaultValues : DryRunConfig} {settings : List Setting}
    {args : List String} (known : env.dryRun = some defaultValues)
    (writes : Writes (agentFlags env) settings args) (noHelp : boolVar settings "help" false = false)
    (url : (agentConfig env defaultValues settings).targetURL ≠ "")
    (infraEnv : (agentConfig env defaultValues settings).infraEnvID ≠ "") :
    processArgs env args = .running (agentConfig env defaultValues settings) := by
  unfold processArgs
  rw [known]
  dsimp only
  rw [parse_writes writes]
  dsimp only
  rw [noHelp, if_neg Bool.false_ne_true, if_neg url, if_neg infraEnv]

theorem processLogsSenderConfigArgs_writes {env : Environ} {defaultValues : DryRunConfig}
    {settings : List Setting} {args : List String} (known : env.dryRun = some defaultValues)
    (writes : Writes logsSenderFlags settings args) (noHelp : boolVar settings "help" false = false)
    (required : logsSenderRequired.all (seen settings) = true)
    (defaultTextLogging defaultJournalLogging : Bool) :
    processLogsSenderConfigArgs env defaultTextLogging defaultJournalLogging args =
      .running (logsSenderConfig env defaultValues defaultTextLogging defaultJournalLogging settings) := by
  unfold processLogsSenderConfigArgs
  rw [known]
  dsimp only
  rw [parse_writes writes]
  dsimp only
  rw [noHelp, if_neg Bool.false_ne_true, if_pos required]

/-- A program that runs has a service and an infra-env. -/
theorem processArgs_running {env : Environ} {args : List String} {config : AgentConfig}
    (running : processArgs env args = .running config) :
    config.targetURL ≠ "" ∧ config.infraEnvID ≠ "" := by
  unfold processArgs at running
  split at running
  · cases running
  split at running
  · cases running
  split at running
  · cases running
  dsimp only at running
  split at running
  · cases running
  rename_i url
  split at running
  · cases running
  rename_i infraEnv
  cases running
  exact ⟨url, infraEnv⟩

end AssistedAgent.Config
