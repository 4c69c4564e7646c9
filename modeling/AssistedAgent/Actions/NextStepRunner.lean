/-
**How the agent starts the next-step runner.**

The runner is a container of the image that the service names in its answer to the registration. Its
command line hands on how the agent reaches the service, and the ids of the answer; the runner reads it
with the flags that the agent itself has.

* `validate`, `Args` — the checks of the answer, and the words of the command.
* `Names`, `Podman` — the form of the words after `podman run`, and what is known of `podman`.
* **`runner_configured`** — the runner is configured as the agent was, with the ids of the answer.
-/

import AssistedAgent.Config.ProcessArgs
import AssistedAgent.Actions.LogsGather
import AssistedAgent.Lib.GoUuid

namespace AssistedAgent.Actions.NextStepRunner

open Config GoFlag GoJson GoRegexp GoStrings
open LogsGather (formatBool)

/-! ### The action -/

/-- `models.NextStepCmdRequest`. -/
structure NextStepCmdRequest where
  agentVersion : Option String
  hostID : Option String
  infraEnvID : Option String
deriving DecidableEq, Repr

def NextStepCmdRequest.unmarshal : Json → Option NextStepCmdRequest
  | .object members => do
    let agentVersion ← fieldAt "agent_version" decodeStringPointer none members
    let hostID ← fieldAt "host_id" decodeStringPointer none members
    let infraEnvID ← fieldAt "infra_env_id" decodeStringPointer none members
    some ⟨agentVersion, hostID, infraEnvID⟩
  | _ => none

/-- The image, and the two identifiers. -/
def NextStepCmdRequest.validate (f : Formats) (m : NextStepCmdRequest) : Option String :=
  compositeError
    [validateRequired "agent_version" m.agentVersion (validateImage "agent_version"),
      validateRequired "host_id" m.hostID (validateUUID f "host_id"),
      validateRequired "infra_env_id" m.infraEnvID (validateUUID f "infra_env_id")]

def nextStepCmdRequest (f : Formats) : Model NextStepCmdRequest where
  unmarshal := NextStepCmdRequest.unmarshal
  validate := NextStepCmdRequest.validate f

/-- `Validate`. -/
def validate (f : Formats) (args : List String) : Validation NextStepCmdRequest :=
  validateCommon "next step runner" 1 args (nextStepCmdRequest f)

def containerName : String := "next-step-runner"

/-- What the container may see of the host. -/
def baseOptions : List String :=
  ["--rm", "-ti", "--privileged", "--pid=host", "--uts=host", "--net=host", "--pids-limit=0",
    "-v", "/dev:/dev:rw", "-v", "/opt:/opt:rw",
    "-v", "/run/systemd/journal/socket:/run/systemd/journal/socket", "-v", "/var/log:/var/log:rw",
    "-v", "/run/media:/run/media:rw", "-v", "/etc/pki:/etc/pki"]

/-- The variables that the container gets from the agent. -/
def envOptions : List String :=
  ["--env", "PULL_SECRET_TOKEN", "--env", "CONTAINERS_CONF", "--env", "CONTAINERS_STORAGE_CONF",
    "--env", "HTTP_PROXY", "--env", "HTTPS_PROXY", "--env", "NO_PROXY",
    "--env", "http_proxy", "--env", "https_proxy", "--env", "no_proxy", "--name", containerName]

/-- The volume of the certificate, if there is one. -/
def caCertVolume (caCertificatePath : String) : List String :=
  if caCertificatePath ≠ "" then ["-v", caCertificatePath ++ ":" ++ caCertificatePath] else []

/-- Its flag. -/
def caCertFlag (caCertificatePath : String) : List String :=
  if caCertificatePath ≠ "" then ["--cacert", caCertificatePath] else []

/-- The flags of the runner. -/
def runnerFlags (config : Config.AgentConfig) (params : NextStepCmdRequest) : List String :=
  ["--url", config.targetURL, "--infra-env-id", params.infraEnvID.getD "",
    "--host-id", params.hostID.getD "", "--agent-version", params.agentVersion.getD "",
    "--insecure=" ++ formatBool config.insecureConnection] ++ caCertFlag config.caCertificatePath

/-- The arguments of `podman` in `cleanupPrevious`, which `Args` calls first; a failure is only logged. -/
def cleanupPrevious : List String := ["rm", "-i", containerName]

/-- `Args`, without the clean-up. -/
def Args (config : Config.AgentConfig) (params : NextStepCmdRequest) : List String :=
  "run" :: (baseOptions ++ caCertVolume config.caCertificatePath ++ envOptions ++
    params.agentVersion.getD "" :: "next_step_runner" :: runnerFlags config params)

/-! ### What `podman run` starts -/

/-- The options of this program that take the next word as their value. -/
def valueOptions : List String := ["-v", "--env", "--name"]

/-- The options of this program that stand alone. -/
def plainOptions : List String :=
  ["--rm", "-ti", "--privileged", "--pid=host", "--uts=host", "--net=host", "--pids-limit=0"]

/-- Options of `podman run`, each with its value. -/
inductive Options : List String → Prop
  | nil : Options []
  | valued {word value : String} {words : List String} (takes : word ∈ valueOptions)
      (rest : Options words) : Options (word :: value :: words)
  | plain {word : String} {words : List String} (alone : word ∈ plainOptions)
      (rest : Options words) : Options (word :: words)

/-- Options after options. -/
theorem Options.append {words more : List String} (first : Options words) (second : Options more) :
    Options (words ++ more) := by
  induction first with
  | nil => exact second
  | valued takes _ ih => exact .valued takes ih
  | plain alone _ ih => exact .plain alone ih

theorem not_named_of_valued : ∀ word ∈ valueOptions, hasPrefix word "-" ≠ false := by decide

theorem not_named_of_plain : ∀ word ∈ plainOptions, hasPrefix word "-" ≠ false := by decide

theorem not_plain_of_valued : ∀ word ∈ valueOptions, word ∉ plainOptions := by decide

/-- The words after `run` have the form `[options] image [command [arg ...]]`, with options that this
program uses. -/
def Names (words : List String) (image : String) (command : List String) : Prop :=
  ∃ options, Options options ∧ hasPrefix image "-" = false ∧ words = options ++ image :: command

/-- An image is no option. -/
theorem Names.named {words : List String} {image : String} {command : List String}
    (names : Names words image command) : hasPrefix image "-" = false := by
  obtain ⟨-, -, named, -⟩ := names
  exact named

/-- Words have that form in one way. -/
theorem Names.unique {words : List String} {image image' : String} {command command' : List String}
    (names : Names words image command) (names' : Names words image' command') :
    image' = image ∧ command' = command := by
  obtain ⟨options, valid, named, rfl⟩ := names
  obtain ⟨options', valid', named', same⟩ := names'
  -- An option begins with a dash and the image does not, so the two lists of options end together.
  induction valid generalizing options' with
  | nil =>
    cases valid' with
    | nil =>
      rw [List.nil_append, List.nil_append, List.cons.injEq] at same
      exact ⟨same.1.symm, same.2.symm⟩
    | valued takes _ =>
      cases same
      exact absurd named (not_named_of_valued _ takes)
    | plain alone _ =>
      cases same
      exact absurd named (not_named_of_plain _ alone)
  | valued takes _ ih =>
    cases valid' with
    | nil =>
      cases same
      exact absurd named' (not_named_of_valued _ takes)
    | valued _ rest' =>
      simp only [List.cons_append, List.cons.injEq] at same
      exact ih _ rest' same.2.2
    | plain alone _ =>
      simp only [List.cons_append, List.cons.injEq] at same
      exact absurd (same.1 ▸ alone) (not_plain_of_valued _ takes)
  | plain alone _ ih =>
    cases valid' with
    | nil =>
      cases same
      exact absurd named' (not_named_of_plain _ alone)
    | valued takes _ =>
      simp only [List.cons_append, List.cons.injEq] at same
      exact absurd (same.1 ▸ alone) (not_plain_of_valued _ takes)
    | plain _ rest' =>
      rw [List.cons_append, List.cons_append, List.cons.injEq] at same
      exact ih _ rest' same.2

/-- The program `podman`, which is known here by the synopsis of `podman run` only: what it starts, if it
starts anything, is the image that the words name, with the command that they name. -/
structure Podman where
  /-- With these words after `run` it starts this image with this command. -/
  Starts : List String → String → List String → Prop
  synopsis : ∀ {words : List String} {image : String} {command : List String}, Names words image command →
    ∀ {started : String} {run : List String}, Starts words started run → started = image ∧ run = command

theorem options_base : Options baseOptions := by
  refine .plain (by decide) (.plain (by decide) (.plain (by decide) (.plain (by decide) (.plain (by decide)
    (.plain (by decide) (.plain (by decide) ?_))))))
  exact .valued (by decide) (.valued (by decide) (.valued (by decide) (.valued (by decide)
    (.valued (by decide) (.valued (by decide) .nil)))))

theorem options_env : Options envOptions :=
  .valued (by decide) (.valued (by decide) (.valued (by decide) (.valued (by decide) (.valued (by decide)
    (.valued (by decide) (.valued (by decide) (.valued (by decide) (.valued (by decide)
      (.valued (by decide) .nil)))))))))

/-- The volume is an option with its value. -/
theorem options_caCertVolume (caCertificatePath : String) : Options (caCertVolume caCertificatePath) := by
  unfold caCertVolume
  split
  · exact .valued (by decide) .nil
  · exact .nil

/-! ### The configuration of the runner -/

/-- An answer that was accepted has all of its fields. -/
theorem fields_of_validate {f : Formats} {args : List String} {params : NextStepCmdRequest}
    (accepted : validate f args = .accepted params) :
    ∃ agentVersion hostID infraEnvID, params = ⟨some agentVersion, some hostID, some infraEnvID⟩ ∧
      f.isUUID hostID = true ∧ f.isUUID infraEnvID = true := by
  obtain ⟨-, _, _, _, -, -, -, valid⟩ := validateCommon_accepted accepted
  have each := compositeError_eq_none_iff.mp valid
  have version := each _ (List.mem_cons_self)
  have host := each _ (List.mem_cons_of_mem _ List.mem_cons_self)
  have infraEnv := each _ (List.mem_cons_of_mem _ (List.mem_cons_of_mem _ List.mem_cons_self))
  obtain ⟨agentVersion, hostID, infraEnvID⟩ := params
  have uuid : ∀ {field : String} {value : Option String},
      validateRequired field value (validateUUID f field) = none →
        ∃ text, value = some text ∧ f.isUUID text = true := by
    intro field value valid
    cases value with
    | none => cases valid
    | some text =>
      refine ⟨text, rfl, ?_⟩
      by_contra other
      rw [validateRequired, validateUUID, if_neg other] at valid
      cases valid
  obtain ⟨hostID, rfl, isHost⟩ := uuid host
  obtain ⟨infraEnvID, rfl, isInfraEnv⟩ := uuid infraEnv
  cases agentVersion with
  | none => cases version
  | some agentVersion => exact ⟨agentVersion, hostID, infraEnvID, rfl, isHost, isInfraEnv⟩

/-- The settings that the flags of the runner write. -/
def runnerSettings (config : Config.AgentConfig) (agentVersion hostID infraEnvID : String) : List Setting :=
  [⟨"url", config.targetURL⟩, ⟨"infra-env-id", infraEnvID⟩, ⟨"host-id", hostID⟩,
    ⟨"agent-version", agentVersion⟩, ⟨"insecure", formatBool config.insecureConnection⟩] ++
  if config.caCertificatePath ≠ "" then [⟨"cacert", config.caCertificatePath⟩] else []

/-- The flags of the runner are those its own parser reads. -/
theorem writes_runnerFlags (env : Environ) (config : Config.AgentConfig)
    (agentVersion hostID infraEnvID : String) :
    Writes (agentFlags env) (runnerSettings config agentVersion hostID infraEnvID)
      (runnerFlags config ⟨some agentVersion, some hostID, some infraEnvID⟩) := by
  have insecure : ∀ b, classify ("--insecure=" ++ formatBool b) = .flag "insecure" (some (formatBool b)) := by
    decide
  refine Writes.append ?_ ?_
  · refine .separate rfl rfl rfl rfl (.separate rfl rfl rfl rfl (.separate rfl rfl rfl rfl
      (.separate rfl rfl rfl rfl (.joined (insecure _) rfl ?_ .nil))))
    cases config.insecureConnection <;> rfl
  · unfold caCertFlag
    split
    · exact .separate rfl rfl rfl rfl .nil
    · exact .nil

/-- How a runner with these ids is meant to be configured: it reaches the service as its agent does. -/
def runnerConfig (env : Environ) (defaultValues : DryRunConfig) (config : Config.AgentConfig)
    (agentVersion hostID infraEnvID : String) : Config.AgentConfig where
  toDryRunConfig := defaultValues
  textLogging := false
  journalLogging := true
  stdoutLogging := false
  targetURL := config.targetURL
  infraEnvID := infraEnvID
  agentVersion := agentVersion
  intervalSecs := 60
  caCertificatePath := config.caCertificatePath
  insecureConnection := config.insecureConnection
  hostID := hostID
  pullSecretToken := env.pullSecretToken

theorem agentConfig_runnerSettings (env : Environ) (defaultValues : DryRunConfig)
    (config : Config.AgentConfig)
    (agentVersion hostID infraEnvID : String) :
    agentConfig env defaultValues (runnerSettings config agentVersion hostID infraEnvID) =
      runnerConfig env defaultValues config agentVersion hostID infraEnvID := by
  have bools : ∀ b, (parseBool (formatBool b)).getD false = b := by decide
  unfold runnerSettings
  by_cases empty : config.caCertificatePath = ""
  · simp [agentConfig, runnerConfig, dryRunConfig, stringVar, boolVar, lastSet, bools, empty]
  · simp [agentConfig, runnerConfig, dryRunConfig, stringVar, boolVar, lastSet, bools, empty]

/-- The flags of an accepted answer configure a runner of an agent that runs. -/
theorem processArgs_runnerFlags {f : Formats} {env inner : Environ} {defaultValues : DryRunConfig}
    {argv : List String} {config : Config.AgentConfig} (uuids : f.isUUID = GoUuid.isUUID)
    (started : processArgs env argv = .running config) (known : inner.dryRun = some defaultValues)
    {infraEnvID : String} (isInfraEnv : f.isUUID infraEnvID = true) (agentVersion hostID : String) :
    processArgs inner (runnerFlags config ⟨some agentVersion, some hostID, some infraEnvID⟩) =
      .running (runnerConfig inner defaultValues config agentVersion hostID infraEnvID) := by
  have same := agentConfig_runnerSettings inner defaultValues config agentVersion hostID infraEnvID
  rw [← same]
  refine processArgs_writes known (writes_runnerFlags inner config _ _ _) ?_ ?_ ?_
  · unfold runnerSettings
    split <;> simp [boolVar, lastSet]
  · rw [same]
    exact (processArgs_running started).1
  · rw [same]
    rintro rfl
    rw [uuids] at isInfraEnv
    exact absurd isInfraEnv (by decide)

/-- **The words of the command name the image**, unless it looks like an option. -/
theorem names_runner (config : Config.AgentConfig) {agentVersion : String}
    (named : hasPrefix agentVersion "-" = false) (hostID infraEnvID : Option String) :
    Names (Args config ⟨some agentVersion, hostID, infraEnvID⟩).tail agentVersion
      ("next_step_runner" :: runnerFlags config ⟨some agentVersion, hostID, infraEnvID⟩) :=
  ⟨_, (options_base.append (options_caCertVolume _)).append options_env, named, rfl⟩

/-- **The runner is configured as its agent.** The command of an agent that runs names the image of the
service's answer, and a runner with the ids of that answer and with the agent's own address, certificates
and token of the service, exactly if that image does not begin with a dash; an answer with such an image is
accepted too. Otherwise whatever `podman` starts is that runner. -/
theorem runner_configured {f : Formats} {env inner : Environ} {defaultValues : DryRunConfig}
    {argv args : List String} {config : Config.AgentConfig} {params : NextStepCmdRequest}
    (uuids : f.isUUID = GoUuid.isUUID) (started : processArgs env argv = .running config)
    (known : inner.dryRun = some defaultValues) (accepted : validate f args = .accepted params) :
    ∃ agentVersion hostID infraEnvID, params = ⟨some agentVersion, some hostID, some infraEnvID⟩ ∧
      ((∃ flags, Names (Args config params).tail agentVersion ("next_step_runner" :: flags) ∧
          processArgs inner flags =
            .running (runnerConfig inner defaultValues config agentVersion hostID infraEnvID)) ↔
        hasPrefix agentVersion "-" = false) ∧
      (hasPrefix agentVersion "-" = false → ∀ (podman : Podman) image command,
        podman.Starts (Args config params).tail image command →
          image = agentVersion ∧ ∃ flags, command = "next_step_runner" :: flags ∧
            processArgs inner flags =
              .running (runnerConfig inner defaultValues config agentVersion hostID infraEnvID)) := by
  obtain ⟨agentVersion, hostID, infraEnvID, rfl, -, isInfraEnv⟩ := fields_of_validate accepted
  have running := processArgs_runnerFlags uuids started known isInfraEnv agentVersion hostID
  refine ⟨agentVersion, hostID, infraEnvID, rfl, ⟨?_, fun named => ?_⟩, ?_⟩
  · rintro ⟨flags, names, -⟩
    exact names.named
  · exact ⟨_, names_runner config named _ _, running⟩
  · intro named podman image command ran
    obtain ⟨rfl, rfl⟩ := podman.synopsis (names_runner config named _ _) ran
    exact ⟨rfl, _, rfl, running⟩

/-- The answer of a service that writes these. -/
def answerOf (agentVersion hostID infraEnvID : String) : String :=
  object [⟨"agent_version", agentVersion, false⟩, ⟨"host_id", hostID, false⟩,
    ⟨"infra_env_id", infraEnvID, false⟩]

theorem validate_answerOf {f : Formats} {agentVersion hostID infraEnvID : String}
    (image : matchString imageRegex agentVersion = true) (isHost : f.isUUID hostID = true)
    (isInfraEnv : f.isUUID infraEnvID = true) :
    validate f [answerOf agentVersion hostID infraEnvID] =
      .accepted ⟨some agentVersion, some hostID, some infraEnvID⟩ := by
  have valid : NextStepCmdRequest.validate f ⟨some agentVersion, some hostID, some infraEnvID⟩ = none := by
    simp [NextStepCmdRequest.validate, validateRequired, validateImage, validatePattern, validateUUID,
      image, isHost, isInfraEnv, compositeError]
  have decoded : NextStepCmdRequest.unmarshal (.object [("agent_version", .string agentVersion),
      ("host_id", .string hostID), ("infra_env_id", .string infraEnvID)]) =
        some ⟨some agentVersion, some hostID, some infraEnvID⟩ := rfl
  change validateModel (nextStepCmdRequest f) (answerOf agentVersion hostID infraEnvID) = _
  unfold validateModel
  rw [answerOf, parse_object]
  simp [writtenFields, nextStepCmdRequest, decoded, valid]

def sampleFormats : Formats := ⟨GoUuid.isUUID, fun _ => false, id⟩

def sampleEnviron : Environ := ⟨some ⟨false, "", "", "", "", ""⟩, "token", fun _ => none⟩

def sampleID : String := "00112233445566778899aabbccddeeff"

/-- A `podman` that starts whatever the words name. -/
def samplePodman : Podman := ⟨Names, fun names => names.unique⟩

theorem runner_configured_sample : ∃ config params flags,
    processArgs sampleEnviron ["--url", "https://service", "--infra-env-id", sampleID, "--cacert", "/ca"] =
        .running config ∧
      validate sampleFormats [answerOf "agent" sampleID sampleID] = .accepted params ∧
      samplePodman.Starts (Args config params).tail "agent" ("next_step_runner" :: flags) ∧
      processArgs sampleEnviron flags = .running (runnerConfig sampleEnviron ⟨false, "", "", "", "", ""⟩
        config "agent" sampleID sampleID) := by
  have id : GoUuid.isUUID sampleID = true := by decide +kernel
  have writes : Writes (agentFlags sampleEnviron)
      [⟨"url", "https://service"⟩, ⟨"infra-env-id", sampleID⟩, ⟨"cacert", "/ca"⟩]
      ["--url", "https://service", "--infra-env-id", sampleID, "--cacert", "/ca"] :=
    .separate rfl rfl rfl rfl (.separate rfl rfl rfl rfl (.separate rfl rfl rfl rfl .nil))
  have started := processArgs_writes rfl writes rfl (by decide) (by decide)
  have accepted : validate sampleFormats [answerOf "agent" sampleID sampleID] = _ :=
    validate_answerOf (by decide +kernel) id id
  have known : sampleEnviron.dryRun = some ⟨false, "", "", "", "", ""⟩ := rfl
  obtain ⟨agentVersion, hostID, infraEnvID, params, configured, ran⟩ :=
    runner_configured rfl started known accepted
  cases params
  obtain ⟨flags, names, -⟩ := configured.mpr (by decide)
  obtain ⟨-, _, rest, running⟩ := ran (by decide) samplePodman _ _ names
  cases rest
  exact ⟨_, _, flags, started, accepted, names, running⟩

end AssistedAgent.Actions.NextStepRunner
