/-
**How the logs sender is configured.**

The step `logs-gather` starts a container whose command is `logs_sender`; that program reads its command
line with flags of its own. The values of the command are those of the agent and of the service's request,
printed as texts of an HTML page.

* `names_sender`, `process_senderFlags` — what the command names, and what the program makes of it.
* **`logsSender_configured_iff`** — the sender is configured with the values of the agent and of the
  request exactly when HTML escapes none of them and the image does not begin with a dash.
-/

import AssistedAgent.Actions.NextStepRunner

namespace AssistedAgent.LogsSender

open Actions.LogsGather Actions.NextStepRunner Config GoFlag GoStrings HtmlText

/-! ### The words of the command -/

section Printed

variable (print : String → String) (config : Actions.AgentConfig) (params : Request)

/-- The options of `podman run`. -/
def gatherOptions : List String :=
  headWords.drop 3 ++ caCertVolumeWords print config.caCertificatePath ++ bootstrapWords params.bootstrap ++
    ["--env", "PULL_SECRET_TOKEN", "--name", "logs-sender", "--pid=host"]

/-- The words after `logs_sender`. -/
def senderFlags : List String :=
  ["-url", print config.targetURL, "-cluster-id", print params.clusterID,
      "-host-id", print params.hostID, "-infra-env-id", print params.infraEnvID,
      "--insecure=" ++ formatBool config.insecureConnection,
      "-bootstrap=" ++ formatBool params.bootstrap,
      "-with-installer-gather-logging=" ++ formatBool params.installerGather] ++
    (mastersFlagWords print (mastersIps params) ++ caCertFlagWords print config.caCertificatePath)

theorem command_drop : (command print config params).drop 3 =
    gatherOptions print config params ++
      print config.agentVersion :: "logs_sender" :: senderFlags print config params := by
  simp [command, gatherOptions, senderFlags, headWords]

theorem options_gather : Options (gatherOptions print config params) := by
  have first : Options (headWords.drop 3) :=
    .plain (by decide) (.plain (by decide) (.plain (by decide) (.valued (by decide) (.valued (by decide)
      (.valued (by decide) .nil)))))
  have last : Options ["--env", "PULL_SECRET_TOKEN", "--name", "logs-sender", "--pid=host"] :=
    .valued (by decide) (.valued (by decide) (.plain (by decide) .nil))
  refine ((first.append ?_).append ?_).append last
  · unfold caCertVolumeWords
    split
    · exact .nil
    · exact .valued (by decide) .nil
  · cases params.bootstrap with
    | false => exact .nil
    | true => exact .valued (by decide) (.valued (by decide) .nil)

/-- **What the command names.** -/
theorem names_sender (named : hasPrefix (print config.agentVersion) "-" = false) :
    Names ((command print config params).drop 3) (print config.agentVersion)
      ("logs_sender" :: senderFlags print config params) :=
  ⟨_, options_gather print config params, named, command_drop print config params⟩

/-! ### The configuration -/

def mastersSettings (mastersIps : String) : List Setting :=
  if mastersIps = "" then [] else [⟨"masters-ips", print mastersIps⟩]

def caCertSettings (caCertificatePath : String) : List Setting :=
  if caCertificatePath = "" then [] else [⟨"cacert", print caCertificatePath⟩]

/-- The settings that the flags write. -/
def senderSettings : List Setting :=
  [⟨"url", print config.targetURL⟩, ⟨"cluster-id", print params.clusterID⟩,
      ⟨"host-id", print params.hostID⟩, ⟨"infra-env-id", print params.infraEnvID⟩,
      ⟨"insecure", formatBool config.insecureConnection⟩, ⟨"bootstrap", formatBool params.bootstrap⟩,
      ⟨"with-installer-gather-logging", formatBool params.installerGather⟩] ++
    (mastersSettings print (mastersIps params) ++ caCertSettings print config.caCertificatePath)

theorem classify_masters (mastersIps : String) :
    classify ("-masters-ips=" ++ mastersIps) = .flag "masters-ips" (some mastersIps) := by
  have plain : ∀ c ∈ "masters-ips".toList, c ≠ '=' := by
    intro c member equals
    subst equals
    exact absurd member (by decide)
  have word : "-masters-ips=" ++ mastersIps =
      String.ofList ('-' :: "masters-ips".toList ++ '=' :: mastersIps.toList) := by
    rw [← String.toList_inj, String.toList_append]
    exact String.toList_ofList.symm
  have notDash : 'm' ≠ '-' := by decide
  rw [word, classify_joined plain rfl notDash]
  rfl

theorem writes_senderFlags :
    Writes logsSenderFlags (senderSettings print config params) (senderFlags print config params) := by
  have insecure : ∀ b, classify ("--insecure=" ++ formatBool b) = .flag "insecure" (some (formatBool b)) := by
    decide
  have bootstrap : ∀ b,
      classify ("-bootstrap=" ++ formatBool b) = .flag "bootstrap" (some (formatBool b)) := by
    decide
  have gather : ∀ b, classify ("-with-installer-gather-logging=" ++ formatBool b) =
      .flag "with-installer-gather-logging" (some (formatBool b)) := by
    decide
  have accepts : ∀ b, boolFlag.accepts (formatBool b) = true := by decide
  refine Writes.append ?_ (Writes.append ?_ ?_)
  · exact .separate rfl rfl rfl rfl (.separate rfl rfl rfl rfl (.separate rfl rfl rfl rfl
      (.separate rfl rfl rfl rfl (.joined (insecure _) rfl (accepts _) (.joined (bootstrap _) rfl (accepts _)
        (.joined (gather _) rfl (accepts _) .nil))))))
  · unfold mastersSettings mastersFlagWords
    split
    · exact .nil
    · exact .joined (classify_masters _) rfl rfl .nil
  · unfold caCertSettings caCertFlagWords
    split
    · exact .nil
    · exact .separate rfl rfl rfl rfl .nil

/-- A sender with these values; what the command does not set has its default. -/
def senderConfig (env : Environ) (defaultValues : DryRunConfig) : LogsSenderConfig where
  toDryRunConfig := defaultValues
  textLogging := true
  journalLogging := true
  since := ""
  targetURL := print config.targetURL
  clusterID := print params.clusterID
  infraEnvID := print params.infraEnvID
  hostID := print params.hostID
  pullSecretToken := env.pullSecretToken
  cleanWhenDone := true
  isBootstrap := params.bootstrap
  installerGatherlogging := params.installerGather
  caCertificatePath := print config.caCertificatePath
  insecureConnection := config.insecureConnection
  mastersIPs := print (mastersIps params)
  tags := ["agent", "installer"]
  services := if params.bootstrap then ["ironic-agent", "bootkube"] else ["ironic-agent"]

variable {print}

theorem logsSenderConfig_senderSettings (empty : print "" = "") (env : Environ)
    (defaultValues : DryRunConfig) :
    logsSenderConfig env defaultValues true true (senderSettings print config params) =
      senderConfig print config params env defaultValues := by
  have bools : ∀ b, (parseBool (formatBool b)).getD false = b := by decide
  unfold senderSettings mastersSettings caCertSettings
  by_cases noMasters : mastersIps params = "" <;> by_cases noPath : config.caCertificatePath = "" <;>
    simp [logsSenderConfig, senderConfig, dryRunConfig, stringVar, boolVar, lastSet, bools, empty, noMasters,
      noPath]

/-- **What the sender makes of its flags.** -/
theorem process_senderFlags (empty : print "" = "") {env : Environ} {defaultValues : DryRunConfig}
    (known : env.dryRun = some defaultValues) :
    processLogsSenderConfigArgs env true true (senderFlags print config params) =
      .running (senderConfig print config params env defaultValues) := by
  rw [← logsSenderConfig_senderSettings config params empty]
  refine processLogsSenderConfigArgs_writes known (writes_senderFlags print config params) ?_ ?_ true true
  · unfold senderSettings mastersSettings caCertSettings
    split <;> split <;> simp [boolVar, lastSet]
  · simp [logsSenderRequired, seen, senderSettings]

end Printed

/-! ### Which senders are configured as they should be -/

theorem hasPrefix_dash_iff (s : String) : hasPrefix s "-" = true ↔ s.toList.head? = some '-' := by
  have dash : "-".toList = ['-'] := rfl
  rw [hasPrefix, dash]
  cases s.toList with
  | nil => exact ⟨nofun, nofun⟩
  | cons c rest =>
    simp only [List.isPrefixOf, Bool.and_true, beq_iff_eq, List.head?_cons, Option.some.injEq]
    exact eq_comm

theorem head_escapeChar {c : Char} (dash : (escapeChar c).head? = some '-') : c = '-' := by
  have entries : ∀ entry ∈ table, entry.2.toList.head? ≠ some '-' := by decide
  unfold escapeChar at dash
  cases found : replacement c with
  | none =>
    rw [found] at dash
    exact Option.some.inj dash
  | some text =>
    rw [found] at dash
    exact absurd dash (entries (c, text) (mem_table found))

/-- What is printed for an image begins with a dash only if the image does. -/
theorem dash_of_escape {s : String} (dash : hasPrefix (escape s) "-" = true) : hasPrefix s "-" = true := by
  rw [hasPrefix_dash_iff] at dash ⊢
  rw [escape, String.toList_ofList] at dash
  cases text : s.toList with
  | nil =>
    rw [text] at dash
    cases dash
  | cons c rest =>
    obtain ⟨first, more, parts⟩ := List.exists_cons_of_length_pos (one_le_length_escapeChar c)
    rw [text, List.flatMap_cons, parts, List.cons_append, List.head?_cons] at dash
    refine congrArg some (head_escapeChar ?_)
    rw [parts]
    exact dash

/-- The values that a configuration shows are those that were printed. -/
theorem unescaped_of_senderConfig {config : Actions.AgentConfig} {params : Request} {env : Environ}
    {defaultValues : DryRunConfig} (image : escape config.agentVersion = config.agentVersion)
    (same : senderConfig escape config params env defaultValues =
      senderConfig id config params env defaultValues) : Unescaped config params where
  image := plain_of_escape_eq image
  url := plain_of_escape_eq (congrArg LogsSenderConfig.targetURL same)
  cluster := plain_of_escape_eq (congrArg LogsSenderConfig.clusterID same)
  host := plain_of_escape_eq (congrArg LogsSenderConfig.hostID same)
  infraEnv := plain_of_escape_eq (congrArg LogsSenderConfig.infraEnvID same)
  caCert := plain_of_escape_eq (congrArg LogsSenderConfig.caCertificatePath same)
  masters := plain_of_escape_eq (congrArg LogsSenderConfig.mastersIPs same)

/-- **The sender is configured as it should be.** The command names the agent's image, and a sender with
the values of the agent and of the request, exactly when HTML escapes none of the values and the image does
not begin with a dash. Then whatever `podman` starts is that sender. -/
theorem logsSender_configured_iff {config : Actions.AgentConfig} {params : Request}
    (usable : Usable config params) {env : Environ} {defaultValues : DryRunConfig}
    (known : env.dryRun = some defaultValues) :
    ((∃ flags, Names ((Args config params).drop 3) config.agentVersion ("logs_sender" :: flags) ∧
        processLogsSenderConfigArgs env true true flags =
          .running (senderConfig id config params env defaultValues)) ↔
      Unescaped config params ∧ hasPrefix config.agentVersion "-" = false) ∧
    (Unescaped config params → hasPrefix config.agentVersion "-" = false →
      ∀ (podman : Podman) image command, podman.Starts ((Args config params).drop 3) image command →
        image = config.agentVersion ∧ ∃ flags, command = "logs_sender" :: flags ∧
          processLogsSenderConfigArgs env true true flags =
            .running (senderConfig id config params env defaultValues)) := by
  have configured : processLogsSenderConfigArgs env true true (senderFlags id config params) = _ :=
    process_senderFlags config params rfl known
  rw [args_eq usable]
  refine ⟨⟨?_, ?_⟩, ?_⟩
  · rintro ⟨flags, names, running⟩
    have named := names.named
    have printed : hasPrefix (escape config.agentVersion) "-" = false := by
      by_contra dash
      rw [Bool.not_eq_false] at dash
      exact absurd (dash_of_escape dash) (by simp [named])
    obtain ⟨image, same⟩ := names.unique (names_sender escape config params printed)
    obtain ⟨-, rfl⟩ := List.cons.inj same
    rw [process_senderFlags config params rfl known, Started.running.injEq] at running
    exact ⟨unescaped_of_senderConfig image running, named⟩
  · rintro ⟨unescaped, named⟩
    rw [command_eq_of_unescaped unescaped]
    exact ⟨_, names_sender id config params named, configured⟩
  · intro unescaped named podman image command ran
    rw [command_eq_of_unescaped unescaped] at ran
    obtain ⟨rfl, rfl⟩ := podman.synopsis (names_sender id config params named) ran
    exact ⟨rfl, _, rfl, configured⟩

theorem logsSender_configured_plain :
    ∃ flags, samplePodman.Starts ((Args (agentOf "https://service") sampleRequest).drop 3)
        "quay.io/agent:latest" ("logs_sender" :: flags) ∧
      processLogsSenderConfigArgs sampleEnviron true true flags =
        .running (senderConfig id (agentOf "https://service") sampleRequest sampleEnviron
          ⟨false, "", "", "", "", ""⟩) := by
  have usable : Usable (agentOf "https://service") sampleRequest :=
    usable_sample ⟨by decide, forall_of_any rfl⟩
  have known : sampleEnviron.dryRun = some ⟨false, "", "", "", "", ""⟩ := rfl
  have plain : ∀ s, s.toList.all (fun c => (replacement c).isNone) = true → Plain s :=
    fun s all c member => Option.isNone_iff_eq_none.mp (List.all_eq_true.mp all c member)
  have unescaped : Unescaped (agentOf "https://service") sampleRequest :=
    ⟨plain _ rfl, plain _ rfl, plain _ rfl, plain _ rfl, plain _ rfl, plain _ rfl, plain _ (by decide)⟩
  obtain ⟨names, ran⟩ := logsSender_configured_iff usable known
  obtain ⟨flags, named, -⟩ := names.mpr ⟨unescaped, rfl⟩
  obtain ⟨-, _, rest, running⟩ := ran unescaped rfl samplePodman _ _ named
  cases rest
  exact ⟨flags, named, running⟩

end AssistedAgent.LogsSender
