/-
**The command that gathers the logs.**

`createUploadLogsCmd` prints the configuration and the request into a template of `html/template`, and
`Args` splits what is printed at white space. The values are printed as texts of an HTML page.

* `args_eq` — the words of the command, with every value escaped.
* **`args_unchanged_iff`** — the values arrive unchanged exactly when none of them has a character that
  HTML escapes.
* `args_escaped` — a URL with a query of two parameters does not arrive.
-/

import AssistedAgent.Actions.Validate
import AssistedAgent.Lib.GoStrings
import AssistedAgent.Lib.HtmlText

namespace AssistedAgent.Actions.LogsGather

open GoStrings HtmlText

/-- `models.LogsGatherCmdRequest`, whose pointers its validation requires. -/
structure Request where
  bootstrap : Bool
  clusterID : String
  hostID : String
  infraEnvID : String
  installerGather : Bool
  masterIps : List String
deriving DecidableEq, Repr

/-- `strconv.FormatBool`. -/
def formatBool (b : Bool) : String := if b then "true" else "false"

/-- The addresses in one word. -/
def mastersIps (params : Request) : String := ",".intercalate params.masterIps

/-- The words `-v` and `--cacert` of the template, if there is a path. -/
def caCertVolume (caCertPath : String) : String :=
  if caCertPath = "" then "" else " -v " ++ escape caCertPath ++ ":" ++ escape caCertPath ++ " "

def caCertFlag (caCertPath : String) : String :=
  if caCertPath = "" then "" else " --cacert " ++ escape caCertPath ++ " "

/-- The volumes of a bootstrap host. -/
def bootstrapVolumes (bootstrap : String) : String :=
  if bootstrap = "true" then " -v /root/.ssh:/root/.ssh -v /tmp:/tmp " else ""

/-- The flag of the masters, if there are any. -/
def mastersFlag (mastersIps : String) : String :=
  if mastersIps = "" then "" else " -masters-ips=" ++ escape mastersIps ++ " "

/-- The template, executed on the values. -/
def createUploadLogsCmd (config : AgentConfig) (params : Request) : String :=
  "1h podman run --rm --privileged --net=host " ++
    "-v /run/systemd/journal/socket:/run/systemd/journal/socket -v /var/log:/var/log " ++
    "-v /etc/pki:/etc/pki " ++
    caCertVolume config.caCertificatePath ++
    bootstrapVolumes (formatBool params.bootstrap) ++
    "--env PULL_SECRET_TOKEN --name logs-sender --pid=host " ++ escape config.agentVersion ++
    " logs_sender -url " ++ escape config.targetURL ++
    " -cluster-id " ++ escape params.clusterID ++
    " -host-id " ++ escape params.hostID ++
    " -infra-env-id " ++ escape params.infraEnvID ++
    " --insecure=" ++ escape (formatBool config.insecureConnection) ++
    " -bootstrap=" ++ escape (formatBool params.bootstrap) ++
    " -with-installer-gather-logging=" ++ escape (formatBool params.installerGather) ++
    mastersFlag (mastersIps params) ++
    caCertFlag config.caCertificatePath

/-- The output of the template, split at its blanks. -/
def Args (config : AgentConfig) (params : Request) : List String :=
  fields (createUploadLogsCmd config params)

/-! ### The words of the command -/

/-- The words before the first value. -/
def headWords : List String :=
  ["1h", "podman", "run", "--rm", "--privileged", "--net=host", "-v",
    "/run/systemd/journal/socket:/run/systemd/journal/socket", "-v", "/var/log:/var/log", "-v",
    "/etc/pki:/etc/pki"]

section Command

variable (print : String → String)

def caCertVolumeWords (caCertPath : String) : List String :=
  if caCertPath = "" then [] else ["-v", print caCertPath ++ ":" ++ print caCertPath]

def caCertFlagWords (caCertPath : String) : List String :=
  if caCertPath = "" then [] else ["--cacert", print caCertPath]

def bootstrapWords (bootstrap : Bool) : List String :=
  if bootstrap then ["-v", "/root/.ssh:/root/.ssh", "-v", "/tmp:/tmp"] else []

def mastersFlagWords (mastersIps : String) : List String :=
  if mastersIps = "" then [] else ["-masters-ips=" ++ print mastersIps]

/-- The words that are meant, with the values as they are printed. -/
def command (config : AgentConfig) (params : Request) : List String :=
  headWords ++ caCertVolumeWords print config.caCertificatePath ++ bootstrapWords params.bootstrap ++
    ["--env", "PULL_SECRET_TOKEN", "--name", "logs-sender", "--pid=host", print config.agentVersion,
      "logs_sender", "-url", print config.targetURL, "-cluster-id", print params.clusterID,
      "-host-id", print params.hostID, "-infra-env-id", print params.infraEnvID,
      "--insecure=" ++ formatBool config.insecureConnection,
      "-bootstrap=" ++ formatBool params.bootstrap,
      "-with-installer-gather-logging=" ++ formatBool params.installerGather] ++
    mastersFlagWords print (mastersIps params) ++ caCertFlagWords print config.caCertificatePath

end Command

/-- A value that is one word. -/
structure Solid (s : String) : Prop where
  filled : s ≠ ""
  solid : ∀ c ∈ s.toList, isSpace c = false

/-- The values that are always used are words, and the others have no white space. -/
structure Usable (config : AgentConfig) (params : Request) : Prop where
  image : Solid config.agentVersion
  url : Solid config.targetURL
  cluster : Solid params.clusterID
  host : Solid params.hostID
  infraEnv : Solid params.infraEnvID
  caCert : ∀ c ∈ config.caCertificatePath.toList, isSpace c = false
  masters : ∀ ip ∈ params.masterIps, ∀ c ∈ ip.toList, isSpace c = false

theorem solid_entities : ∀ entry ∈ table, entry.2.toList.any isSpace = false := by decide

/-- Escaping brings in no blanks. -/
theorem solid_escape {s : String} (solid : ∀ c ∈ s.toList, isSpace c = false) :
    ∀ c ∈ (escape s).toList, isSpace c = false :=
  forall_mem_escape solid fun entry member => forall_of_any (solid_entities entry member)

theorem Solid.escape {s : String} (word : Solid s) : Solid (HtmlText.escape s) :=
  ⟨escape_ne_empty word.filled, solid_escape word.solid⟩

theorem Solid.closing {s : String} (word : Solid s) :
    GoStrings.closing ([] ++ s.toList) = [s.toList] :=
  closing_of_ne_nil fun empty => word.filled (String.toList_eq_nil_iff.mp empty)

theorem words_head (more : List Char) :
    wordsFrom [] ("1h podman run --rm --privileged --net=host ".toList ++
        ("-v /run/systemd/journal/socket:/run/systemd/journal/socket -v /var/log:/var/log ".toList ++
          ("-v /etc/pki:/etc/pki ".toList ++ more))) =
      headWords.map String.toList ++ wordsFrom [] more := by
  rw [wordsFrom_ended (by decide +kernel), wordsFrom_ended (by decide +kernel),
    wordsFrom_ended (by decide +kernel), ← List.append_assoc, ← List.append_assoc]
  refine congrArg (· ++ wordsFrom [] more) ?_
  decide +kernel

/-- A text between blanks, after a word. -/
theorem words_spaced {text : List Char} (front : text.head? = some ' ')
    (back : text.getLast? = some ' ') (cur more : List Char) :
    wordsFrom cur (text ++ more) = closing cur ++ (wordsFrom [] text ++ wordsFrom [] more) := by
  rw [wordsFrom_ended back, wordsFrom_begun front, List.append_assoc]

/-- A value before a text between blanks. -/
theorem Solid.words {s : String} (word : Solid s) {text : List Char} (front : text.head? = some ' ')
    (back : text.getLast? = some ' ') (more : List Char) :
    wordsFrom [] (s.toList ++ (text ++ more)) =
      s.toList :: (wordsFrom [] text ++ wordsFrom [] more) := by
  rw [wordsFrom_word word.solid, words_spaced front back, word.closing, List.singleton_append]

/-- A flag and its value, which are one word. -/
theorem words_flag {text name : List Char} (is : text = ' ' :: name)
    (solidName : ∀ c ∈ name, isSpace c = false) {value : String}
    (solid : ∀ c ∈ value.toList, isSpace c = false) (cur more : List Char) :
    wordsFrom cur (text ++ (value.toList ++ more)) =
      closing cur ++ wordsFrom (name ++ value.toList) more := by
  have blank : isSpace ' ' = true := by decide
  rw [is, List.cons_append, wordsFrom, if_pos blank, wordsFrom_word solidName, List.nil_append,
    wordsFrom_word solid]

theorem closing_flag {name : String} (filled : name ≠ "") (value : String) :
    closing (name.toList ++ value.toList) = [(name ++ value).toList] := by
  rw [String.toList_append]
  exact closing_of_ne_nil fun empty =>
    filled (String.toList_eq_nil_iff.mp (List.append_eq_nil_iff.mp empty).1)

theorem words_blank (cur more : List Char) :
    wordsFrom cur (" ".toList ++ more) = closing cur ++ wordsFrom [] more :=
  wordsFrom_append_space (by decide) cur [] more

/-- The two words of the volume, or none. -/
theorem words_caCertVolume {caCertPath : String}
    (solid : ∀ c ∈ caCertPath.toList, isSpace c = false) (more : List Char) :
    wordsFrom [] ((caCertVolume caCertPath).toList ++ more) =
      (caCertVolumeWords escape caCertPath).map String.toList ++ wordsFrom [] more := by
  unfold caCertVolume caCertVolumeWords
  split
  · rfl
  · have path := solid_escape solid
    have colon : ∀ c ∈ ":".toList, isSpace c = false := forall_of_any rfl
    have volume : wordsFrom [] " -v ".toList = ["-v".toList] := rfl
    have begun : [] ++ (escape caCertPath).toList ++ ":".toList ++ (escape caCertPath).toList ≠ [] := by
      simp
    rw [String.toList_append, String.toList_append, String.toList_append, String.toList_append,
      List.append_assoc, List.append_assoc, List.append_assoc, List.append_assoc,
      words_spaced rfl rfl, volume, wordsFrom_word path, wordsFrom_word colon, wordsFrom_word path,
      words_blank, closing_of_ne_nil begun]
    simp [closing]

/-- The four words of the volumes, or none. -/
theorem words_bootstrapVolumes (bootstrap : Bool) (more : List Char) :
    wordsFrom [] ((bootstrapVolumes (formatBool bootstrap)).toList ++ more) =
      (bootstrapWords bootstrap).map String.toList ++ wordsFrom [] more := by
  cases bootstrap with
  | false => rfl
  | true =>
    have volumes : bootstrapVolumes (formatBool true) = " -v /root/.ssh:/root/.ssh -v /tmp:/tmp " := rfl
    rw [volumes, words_spaced (by decide +kernel) (by decide +kernel), ← List.append_assoc]
    refine congrArg (· ++ wordsFrom [] more) ?_
    decide +kernel

/-- The two words of the flag end the command. -/
theorem words_caCertFlag {caCertPath : String}
    (solid : ∀ c ∈ caCertPath.toList, isSpace c = false) (cur : List Char) :
    wordsFrom cur (caCertFlag caCertPath).toList =
      closing cur ++ (caCertFlagWords escape caCertPath).map String.toList := by
  unfold caCertFlag caCertFlagWords
  split
  · exact (List.append_nil _).symm
  · rename_i filled
    have path : Solid caCertPath := ⟨filled, solid⟩
    have flag : wordsFrom [] " --cacert ".toList = ["--cacert".toList] := rfl
    rw [String.toList_append, String.toList_append, List.append_assoc,
      words_spaced rfl rfl, flag, wordsFrom_word path.escape.solid]
    refine congrArg (fun words => closing cur ++ ("--cacert".toList :: words)) ?_
    rw [← List.append_nil " ".toList, words_blank, path.escape.closing]
    rfl

/-- What follows the flags of a command. -/
theorem words_tail {mastersIps caCertPath : String}
    (solidMasters : ∀ c ∈ mastersIps.toList, isSpace c = false)
    (solid : ∀ c ∈ caCertPath.toList, isSpace c = false) (cur : List Char) :
    wordsFrom cur ((mastersFlag mastersIps).toList ++ (caCertFlag caCertPath).toList) =
      closing cur ++ ((mastersFlagWords escape mastersIps).map String.toList ++
        (caCertFlagWords escape caCertPath).map String.toList) := by
  unfold mastersFlag mastersFlagWords
  split
  · exact words_caCertFlag solid cur
  · have name : " -masters-ips=".toList = ' ' :: "-masters-ips=".toList := rfl
    rw [String.toList_append, String.toList_append, List.append_assoc, List.append_assoc,
      words_flag name (forall_of_any rfl) (solid_escape solidMasters), words_blank,
      closing_flag (by decide), words_caCertFlag solid]
    rfl

theorem escape_formatBool (b : Bool) : escape (formatBool b) = formatBool b := by
  cases b <;> rfl

theorem solid_formatBool (b : Bool) : ∀ c ∈ (formatBool b).toList, isSpace c = false := by
  cases b <;> exact forall_of_any rfl

theorem solid_mastersIps {params : Request}
    (masters : ∀ ip ∈ params.masterIps, ∀ c ∈ ip.toList, isSpace c = false) :
    ∀ c ∈ (mastersIps params).toList, isSpace c = false := by
  rw [mastersIps, String.toList_intercalate]
  refine forall_mem_intercalate (forall_of_any rfl) fun part member => ?_
  obtain ⟨ip, listed, rfl⟩ := List.mem_map.mp member
  exact masters ip listed

/-- **The words of the command.** -/
theorem args_eq {config : AgentConfig} {params : Request} (usable : Usable config params) :
    Args config params = command escape config params := by
  have url : wordsFrom [] " logs_sender -url ".toList = ["logs_sender".toList, "-url".toList] := by
    decide +kernel
  have env : wordsFrom [] "--env PULL_SECRET_TOKEN --name logs-sender --pid=host ".toList =
      ["--env".toList, "PULL_SECRET_TOKEN".toList, "--name".toList, "logs-sender".toList,
        "--pid=host".toList] := by
    decide +kernel
  have cluster : wordsFrom [] " -cluster-id ".toList = ["-cluster-id".toList] := rfl
  have host : wordsFrom [] " -host-id ".toList = ["-host-id".toList] := rfl
  have infraEnv : wordsFrom [] " -infra-env-id ".toList = ["-infra-env-id".toList] := rfl
  have insecure : " --insecure=".toList = ' ' :: "--insecure=".toList := rfl
  have bootstrap : " -bootstrap=".toList = ' ' :: "-bootstrap=".toList := rfl
  have gather : " -with-installer-gather-logging=".toList =
    ' ' :: "-with-installer-gather-logging=".toList := rfl
  have words : wordsFrom [] (createUploadLogsCmd config params).toList =
      (command escape config params).map String.toList := by
    unfold createUploadLogsCmd
    simp only [String.toList_append, List.append_assoc, escape_formatBool]
    rw [words_head, words_caCertVolume usable.caCert, words_bootstrapVolumes,
      wordsFrom_ended (by decide +kernel), env, usable.image.escape.words rfl rfl, url,
      usable.url.escape.words rfl rfl, cluster, usable.cluster.escape.words rfl rfl, host,
      usable.host.escape.words rfl rfl, infraEnv, wordsFrom_word usable.infraEnv.escape.solid,
      words_flag insecure (forall_of_any rfl) (solid_formatBool _), usable.infraEnv.escape.closing,
      words_flag bootstrap (forall_of_any rfl) (solid_formatBool _),
      words_flag gather (forall_of_any rfl) (solid_formatBool _),
      words_tail (solid_mastersIps usable.masters) usable.caCert, closing_flag (by decide),
      closing_flag (by decide), closing_flag (by decide)]
    simp only [command, List.map_append, List.map_cons, List.append_assoc,
      List.cons_append, List.nil_append]
  rw [Args, fields, words, List.map_map]
  exact List.map_id'' (fun s => String.ofList_toList) _

/-! ### Which values arrive -/

/-- No value has a character that HTML escapes. -/
structure Unescaped (config : AgentConfig) (params : Request) : Prop where
  image : Plain config.agentVersion
  url : Plain config.targetURL
  cluster : Plain params.clusterID
  host : Plain params.hostID
  infraEnv : Plain params.infraEnvID
  caCert : Plain config.caCertificatePath
  masters : Plain (mastersIps params)

theorem plain_of_escape_eq {s : String} (same : escape s = s) : Plain s := (escape_eq_iff s).mp same

theorem plain_empty : Plain "" := plain_of_escape_eq rfl

theorem plain_of_caCertFlagWords {caCertPath : String}
    (same : caCertFlagWords escape caCertPath = caCertFlagWords id caCertPath) : Plain caCertPath := by
  unfold caCertFlagWords at same
  split at same
  · rename_i empty
    exact empty ▸ plain_empty
  · rw [List.cons.injEq, List.cons.injEq] at same
    exact plain_of_escape_eq same.2.1

theorem plain_of_mastersFlagWords {mastersIps : String}
    (same : mastersFlagWords escape mastersIps = mastersFlagWords id mastersIps) : Plain mastersIps := by
  unfold mastersFlagWords at same
  split at same
  · rename_i empty
    exact empty ▸ plain_empty
  · rw [List.cons.injEq, String.append_right_inj] at same
    exact plain_of_escape_eq same.1

/-- The command with escaped values has each value at its place. -/
theorem unescaped_of_command_eq {config : AgentConfig} {params : Request}
    (same : command escape config params = command id config params) : Unescaped config params := by
  have flagLength : (caCertFlagWords escape config.caCertificatePath).length =
      (caCertFlagWords id config.caCertificatePath).length := by
    unfold caCertFlagWords
    split <;> rfl
  have mastersLength : (mastersFlagWords escape (mastersIps params)).length =
      (mastersFlagWords id (mastersIps params)).length := by
    unfold mastersFlagWords
    split <;> rfl
  obtain ⟨same, caCert⟩ := List.append_inj' same flagLength
  obtain ⟨same, masters⟩ := List.append_inj' same mastersLength
  obtain ⟨-, values⟩ := List.append_inj' same (by simp only [List.length_cons])
  simp only [List.cons.injEq, id_eq, true_and, and_true] at values
  obtain ⟨image, url, cluster, host, infraEnv⟩ := values
  exact ⟨plain_of_escape_eq image, plain_of_escape_eq url, plain_of_escape_eq cluster,
    plain_of_escape_eq host, plain_of_escape_eq infraEnv, plain_of_caCertFlagWords caCert,
    plain_of_mastersFlagWords masters⟩

/-- Values without characters of HTML are left as they are. -/
theorem command_eq_of_unescaped {config : AgentConfig} {params : Request}
    (unescaped : Unescaped config params) :
    command escape config params = command id config params := by
  unfold command caCertVolumeWords caCertFlagWords mastersFlagWords
  rw [(escape_eq_iff _).mpr unescaped.image, (escape_eq_iff _).mpr unescaped.url,
    (escape_eq_iff _).mpr unescaped.cluster, (escape_eq_iff _).mpr unescaped.host,
    (escape_eq_iff _).mpr unescaped.infraEnv, (escape_eq_iff _).mpr unescaped.caCert,
    (escape_eq_iff _).mpr unescaped.masters]
  rfl

/-- **The values arrive unchanged exactly when HTML escapes none of them.** -/
theorem args_unchanged_iff {config : AgentConfig} {params : Request} (usable : Usable config params) :
    Args config params = command id config params ↔ Unescaped config params := by
  rw [args_eq usable]
  exact ⟨unescaped_of_command_eq, command_eq_of_unescaped⟩

/-- An agent whose service is behind this URL. -/
def agentOf (targetURL : String) : AgentConfig where
  targetURL := targetURL
  agentVersion := "quay.io/agent:latest"
  insecureConnection := false
  caCertificatePath := "/etc/ca.pem"

/-- A request of a bootstrap host. -/
def sampleRequest : Request where
  bootstrap := true
  clusterID := "c1"
  hostID := "h1"
  infraEnvID := "i1"
  installerGather := true
  masterIps := ["10.0.0.1", "10.0.0.2"]

theorem solid_masterIps : ∀ ip ∈ sampleRequest.masterIps, ip.toList.any isSpace = false := by decide

theorem usable_sample {targetURL : String} (url : Solid targetURL) :
    Usable (agentOf targetURL) sampleRequest where
  image := (⟨by decide, forall_of_any rfl⟩ : Solid "quay.io/agent:latest")
  url := url
  cluster := ⟨by decide, forall_of_any rfl⟩
  host := ⟨by decide, forall_of_any rfl⟩
  infraEnv := ⟨by decide, forall_of_any rfl⟩
  caCert := (forall_of_any rfl : ∀ c ∈ "/etc/ca.pem".toList, isSpace c = false)
  masters := fun ip member => forall_of_any (solid_masterIps ip member)

theorem args_unchanged_plain :
    Usable (agentOf "https://service") sampleRequest ∧
      (Args (agentOf "https://service") sampleRequest =
          command id (agentOf "https://service") sampleRequest ↔
        Unescaped (agentOf "https://service") sampleRequest) :=
  ⟨usable_sample ⟨by decide, forall_of_any rfl⟩,
    args_unchanged_iff (usable_sample ⟨by decide, forall_of_any rfl⟩)⟩

/-- **A URL with two parameters arrives with an entity in it.** -/
theorem args_escaped :
    Usable (agentOf "https://service?a=1&b=2") sampleRequest ∧
      "https://service?a=1&amp;b=2" ∈ Args (agentOf "https://service?a=1&b=2") sampleRequest ∧
      Args (agentOf "https://service?a=1&b=2") sampleRequest ≠
        command id (agentOf "https://service?a=1&b=2") sampleRequest := by
  have usable : Usable (agentOf "https://service?a=1&b=2") sampleRequest :=
    usable_sample ⟨by decide, forall_of_any rfl⟩
  rw [args_eq usable]
  refine ⟨usable, ?_, fun same => ?_⟩
  · have printed : "https://service?a=1&amp;b=2" = escape (agentOf "https://service?a=1&b=2").targetURL := by
      decide
    rw [printed]
    simp [command]
  · have plain := (unescaped_of_command_eq same).url '&' (by decide)
    cases plain

end AssistedAgent.Actions.LogsGather
