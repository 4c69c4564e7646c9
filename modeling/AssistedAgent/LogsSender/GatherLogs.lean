/-
**Gathering the logs of a host.**

`SendLogs` gathers logs into a folder: what is known about block devices and mounts, the journal by tags
and services, and on request the core dumps and the logs of the installer. What fails on the way is
collected and does not stop it. The goroutine beside `GatherInstallerLogs` is started by one call here and
joined by another.

* `failure` — the calls whose failure is collected, and with which text.
* **`gatherLogs_collected`** — what was collected is exactly what failed, in order.
* `gatherLogs_calls`, `misread_of_gatherLogs` — the calls that are made, and the only cause of a panic.
-/

import AssistedAgent.Config.ProcessArgs
import AssistedAgent.Lib.Interaction
import AssistedAgent.Lib.Multierror
import AssistedAgent.LogsSender.CoreDumps

namespace AssistedAgent.SendLogs

open GoPath GoStrings Interaction Multierror Multierror.GoError
open LogsSender (ExecutePrivileged dumpAll dumpCommand dumpLines listCommand)

/-- `models.LogsState`, by the states that are reported. -/
inductive LogsState
  | requested
  | collecting
  | completed
deriving DecidableEq, Repr

/-- The calls of `SendLogs` and of the methods of `LogsSenderExecuter`. -/
inductive Call
  | logProgressReport (progress : LogsState)
  | createFolderIfNotExist (folder : String)
  /-- `os.Create`, `loglnToFile` and `Close`, of the file of `getMountLogs`. -/
  | create (path : String)
  | logln (text : String)
  | close
  | execute (command : String) (args : List String)
  | executePrivileged (command : String) (args : List String)
  | executeOutputToFile (path command : String) (args : List String)
  | executePrivilegedToFile (path command : String) (args : List String)
  /-- `time.Now`, formatted. -/
  | now
  /-- `go e.CollectPartialLogs`, and `collectContextCancel` with `wg.Wait`. -/
  | collectPartialLogs (targetDir : Path) (gatherID : String)
  | cancelAndWait
  | writeFile (path text : String)
  | fileUploader (path : String)
  | removeAll (path : String)
  | remove (path : String)
deriving DecidableEq, Repr

/-- Errors are their texts; commands answer with their output, their standard error and their code. -/
def Answer : Call → Type
  | .logProgressReport _ | .createFolderIfNotExist _ | .create _ | .fileUploader _ => Option String
  | .execute _ _ | .executePrivileged _ _ => String × String × Int
  | .executeOutputToFile _ _ _ | .executePrivilegedToFile _ _ _ => String × Int
  | .now => String
  | .logln _ | .close | .collectPartialLogs _ _ | .cancelAndWait | .writeFile _ _ | .removeAll _
  | .remove _ => Unit

/-- The program of one call. -/
abbrev ask (call : Call) : Prog Answer (Answer call) := request call

/-- `error`, whose plain values are their texts. -/
abbrev Err := GoError String

/-! ### The tools -/

def installerGatherBin : String := "/usr/local/bin/installer-gather.sh"
def ovsGatherBin : String := "/usr/local/bin/ovs-installer-gather.sh"
def installerGatherArchivePrefix : String := "/root/log-bundle-"
def lsblk : String := "/usr/bin/lsblk"
def findmnt : String := "/usr/bin/findmnt"
def ls : String := "/bin/ls"
def pvdisplay : String := "/usr/sbin/pvdisplay"
def vgdisplay : String := "/usr/sbin/vgdisplay"
def lvdisplay : String := "/usr/sbin/lvdisplay"

/-- The error of a command by its exit code. -/
def codeError (stderr : String) (exitCode : Int) : Option Err :=
  if exitCode ≠ 0 then some (.plain stderr) else none

/-- The text of `LogPrivilegedCommandOutput`, with the exit code and a line feed at its end. -/
def toolError (command stderr : String) (exitCode : Int) : String :=
  command ++ " failed: " ++ toString exitCode ++ " " ++ stderr ++ "\n"

/-- The loop of `getCoreDumps`; `none` is the panic of a line with too few columns. -/
def dumpEach (targetDir : String) : List String → Prog Answer (Option (Option Err))
  | [] => pure (some none)
  | dump :: dumps =>
    if (fields dump).length ≤ 9 then pure none
    else do
      let (_, stderr, exitCode) ← ask (.executePrivileged "coredumpctl"
        (dumpCommand targetDir (fields dump)).tail)
      if exitCode ≠ 0 then pure (some (some (.plain stderr))) else dumpEach targetDir dumps

/-- A list that cannot be read is no error. -/
def getCoreDumps (targetDir : String) : Prog Answer (Option (Option Err)) := do
  let (stdout, _, exitCode) ← ask (.executePrivileged "coredumpctl" listCommand.tail)
  if exitCode ≠ 0 then pure (some none) else dumpEach targetDir (dumpLines stdout)

/-- `if err := p; err != nil { result = multierror.Append(result, err) }`. -/
def adding (p : Prog Answer (Option Err)) (result : Option Err) : Prog Answer (Option Err) := do
  let err ← p
  pure (appendError result err)

/-! ### The methods of the executer -/

/-- A file of a folder. -/
def file (dir : Path) (name : String) : String := (dir.join [name]).text

/-- The error of a gathering script, by its standard error and its exit code. -/
def scriptError (stderr : String) (exitCode : Int) : Option Err :=
  if stderr ≠ "" ∨ exitCode ≠ 0 then some (.plain stderr) else none

/-- `ovs-installer-gather.sh` runs in the container, not on the host. -/
def ovsGather (args : List String) : Prog Answer (Option Err) := do
  let (_, stdErr, exitCode) ← ask (.execute ovsGatherBin args)
  pure (scriptError stdErr exitCode)

/-- `installer-gather.sh` runs on the host, and always returns 0: it is judged by its standard error. -/
def installerGather (args : List String) : Prog Answer (Option Err) := do
  let (_, stdErr, exitCode) ← ask (.executePrivileged installerGatherBin args)
  pure (scriptError stdErr exitCode)

/-- The bundle that `installer-gather.sh` leaves is moved to the folder. -/
def moveBundle (gatherID : String) (targetDir : Path) : Prog Answer (Option Err) := do
  let (_, stdErr, exitCode) ← ask (.executePrivileged "mv"
    [installerGatherArchivePrefix ++ gatherID ++ ".tar.gz", targetDir.text])
  pure (codeError stdErr exitCode)

/-- The commands of `GatherInstallerLogs`, one after the other. -/
def gatherCommands (gatherID : String) (mastersIPs : List String) (targetDir : Path) :
    Prog Answer (Option Err) := do
  let result ← adding (ovsGather (["--id", gatherID] ++ mastersIPs)) none
  let result ← adding (installerGather (["--id", gatherID] ++ mastersIPs)) result
  adding (moveBundle gatherID targetDir) result

/-- `GatherInstallerLogs`: the goroutine runs beside the commands, and is joined after them. -/
def gatherInstallerLogs (mastersIPs : String) (targetDir : Path) : Prog Answer (Option Err) := do
  let gatherID ← ask .now
  ask (.collectPartialLogs targetDir gatherID)
  deferring (gatherCommands gatherID (split mastersIPs ',') targetDir) (ask .cancelAndWait)

/-! ### The gathering of `SendLogs` -/

section GatherLogs

variable (config : Config.LogsSenderConfig)

/-- The folder of the host. -/
def logsTmpFilesDir : Path := (Path.clean "/var/log").join ["logs_host_" ++ config.hostID]

/-- Whether `GatherInstallerLogs` is called. -/
def gathersInstaller : Bool := config.installerGatherlogging && config.isBootstrap

end GatherLogs

/-! ### What goes into the report -/

/-- The commands of `getMountLogs`, whose failures name them. -/
def mountTools : List String := [lsblk, findmnt, ls, pvdisplay, vgdisplay, lvdisplay]

/-- The privileged commands that are judged by their exit code only. Listing units and core dumps is not
among them: its failure is not reported. -/
def Plainly (command : String) (args : List String) : Prop :=
  command = "mv" ∨ command = "coredumpctl" ∧ args.head? = some "dump"

instance (command : String) (args : List String) : Decidable (Plainly command args) :=
  inferInstanceAs (Decidable (_ ∨ _))

/-- What a privileged command adds to the report. -/
def privilegedFailure (command : String) (args : List String) (stderr : String) (exitCode : Int) :
    List String :=
  if stderr = "" ∧ exitCode = 0 then []
  else if command ∈ mountTools then [toolError command stderr exitCode]
  else if command = installerGatherBin ∨ Plainly command args ∧ exitCode ≠ 0 then [stderr]
  else []

/-- What a call adds to the report. -/
def failure : Event Answer → List String
  | ⟨.create _, err⟩ => (show Option String from err).toList
  | ⟨.execute command _, answer⟩ =>
    match (show String × String × Int from answer) with
    | (_, stderr, exitCode) =>
      if command = ovsGatherBin ∧ (stderr ≠ "" ∨ exitCode ≠ 0) then [stderr] else []
  | ⟨.executePrivileged command args, answer⟩ =>
    match (show String × String × Int from answer) with
    | (_, stderr, exitCode) => privilegedFailure command args stderr exitCode
  | ⟨.executeOutputToFile _ _ _, answer⟩ | ⟨.executePrivilegedToFile _ _ _, answer⟩ =>
    match (show String × Int from answer) with
    | (stderr, exitCode) => if exitCode ≠ 0 then [stderr] else []
  | _ => []

/-- A program whose error is what failed in it. -/
def Reports (p : Prog Answer (Option Err)) : Prop :=
  ∀ events err, Runs p events err → Amounts err (events.flatMap failure)

/-- A program that adds to a variable what failed in it. -/
abbrev Adds (p : Option Err → Prog Answer (Option Err)) : Prop := Threads failure collected p

/-- An error that is appended is one that is added. -/
theorem adding_adds {p : Prog Answer (Option Err)} (reports : Reports p) : Adds (adding p) := by
  intro before events after run
  obtain ⟨err, first, last, rfl, ran, done⟩ := runs_bind.mp run
  obtain ⟨rfl, rfl⟩ := runs_pure.mp done
  rw [List.append_nil]
  exact appendError_collected before (reports first err ran)

/-- What is added to nothing is the error itself. -/
theorem Adds.reports {p : Option Err → Prog Answer (Option Err)} (adds : Adds p) :
    Reports (p none) := by
  intro events err run
  rw [adds [] events err run, List.nil_append]
  exact amounts_collected _

/-- A command that is judged by its exit code. -/
theorem amounts_codeError (stderr : String) (exitCode : Int) :
    Amounts (codeError stderr exitCode) (if exitCode ≠ 0 then [stderr] else []) := by
  unfold codeError
  split
  · exact amounts_plain stderr
  · rfl

/-- A script that is judged by its standard error, too. -/
theorem amounts_scriptError (stderr : String) (exitCode : Int) :
    Amounts (scriptError stderr exitCode) (if stderr ≠ "" ∨ exitCode ≠ 0 then [stderr] else []) := by
  unfold scriptError
  split
  · exact amounts_plain stderr
  · rfl

/-- A program of one command whose error is a function of the answer. -/
theorem reports_of_answer {call : Call} {error : Answer call → Option Err}
    (amounts : ∀ answer, Amounts (error answer) (failure ⟨call, answer⟩)) :
    Reports (ask call >>= fun answer => pure (error answer)) := by
  intro events err run
  obtain ⟨answer, rest, rfl, done⟩ := runs_request_bind.mp run
  obtain ⟨rfl, rfl⟩ := runs_pure.mp done
  rw [List.flatMap_singleton]
  exact amounts answer

theorem ovsGather_reports (args : List String) : Reports (ovsGather args) := by
  refine reports_of_answer fun (_, stderr, exitCode) => ?_
  simpa [failure] using amounts_scriptError stderr exitCode

theorem installerGather_reports (args : List String) : Reports (installerGather args) := by
  refine reports_of_answer fun (_, stderr, exitCode) => ?_
  have amounts := amounts_scriptError stderr exitCode
  have tool : installerGatherBin ∉ mountTools := by decide
  by_cases good : stderr = "" ∧ exitCode = 0
  · simpa [failure, privilegedFailure, good] using amounts
  · have bad : stderr ≠ "" ∨ exitCode ≠ 0 := not_and_or.mp good
    rw [if_pos bad] at amounts
    simpa [failure, privilegedFailure, good, tool] using amounts

/-- What a command that is judged by its exit code adds. -/
theorem privilegedFailure_of_plainly {command : String} {args : List String}
    (plainly : Plainly command args) (stderr : String) (exitCode : Int) :
    privilegedFailure command args stderr exitCode = if exitCode ≠ 0 then [stderr] else [] := by
  have tool : command ∉ mountTools := by
    rcases plainly with rfl | ⟨rfl, -⟩ <;> decide
  have script : command ≠ installerGatherBin := by
    rcases plainly with rfl | ⟨rfl, -⟩ <;> decide
  by_cases failed : exitCode = 0 <;> simp [privilegedFailure, tool, script, plainly, failed]

theorem moveBundle_reports (gatherID : String) (targetDir : Path) :
    Reports (moveBundle gatherID targetDir) := by
  refine reports_of_answer fun answer => ?_
  have amounts := amounts_codeError answer.2.1 answer.2.2
  rwa [← privilegedFailure_of_plainly (Or.inl rfl)] at amounts

/-- The answers of a run are those of `execute`, from a call on. -/
def AnsweredBy (execute : ExecutePrivileged) (call : Nat) (events : List (Event Answer)) : Prop :=
  ∀ i command args answer, events[i]? = some ⟨.executePrivileged command args, answer⟩ →
    answer = execute (call + i) (command :: args)

theorem AnsweredBy.tail {execute : ExecutePrivileged} {call : Nat} {e : Event Answer}
    {events : List (Event Answer)} (answered : AnsweredBy execute call (e :: events)) :
    AnsweredBy execute (call + 1) events := by
  intro i command args answer here
  rw [answered (i + 1) command args answer here, Nat.add_assoc, Nat.add_comm 1 i]

/-- The loop is that of `LogsSender.dumpAll`, call by call. -/
theorem dumpEach_eq_dumpAll {execute : ExecutePrivileged} {targetDir : String} {dumps : List String}
    {call : Nat} {events : List (Event Answer)} {result : Option (Option Err)}
    (answered : AnsweredBy execute call events) (run : Runs (dumpEach targetDir dumps) events result) :
    result = (dumpAll execute targetDir call dumps).map (Option.map .plain) := by
  induction dumps generalizing call events with
  | nil => exact (runs_pure.mp run).2
  | cons dump dumps ih =>
    unfold dumpEach at run
    unfold dumpAll
    by_cases few : (fields dump).length ≤ 9
    · rw [if_pos few] at run ⊢
      exact (runs_pure.mp run).2
    · rw [if_neg few] at run ⊢
      obtain ⟨answer, rest, rfl, ran⟩ := runs_request_bind.mp run
      obtain rfl := answered 0 _ _ answer rfl
      dsimp only at ran ⊢
      rw [Nat.add_zero] at ran
      change Runs (if (execute call (dumpCommand targetDir (fields dump))).2.2 ≠ 0 then _ else _)
        rest result at ran
      by_cases failed : (execute call (dumpCommand targetDir (fields dump))).2.2 ≠ 0
      · rw [if_pos failed] at ran ⊢
        exact (runs_pure.mp ran).2
      · rw [if_neg failed] at ran ⊢
        exact ih answered.tail ran

/-- **The program computes `LogsSender.getCoreDumps`** of the answers that it gets. -/
theorem getCoreDumps_eq {execute : ExecutePrivileged} {targetDir : String}
    {events : List (Event Answer)} {result : Option (Option Err)} (answered : AnsweredBy execute 0 events)
    (run : Runs (getCoreDumps targetDir) events result) :
    result = (LogsSender.getCoreDumps execute targetDir).map (Option.map .plain) := by
  obtain ⟨answer, rest, rfl, ran⟩ := runs_request_bind.mp run
  obtain rfl := answered 0 _ _ answer rfl
  unfold LogsSender.getCoreDumps
  change Runs (if (execute 0 listCommand).2.2 ≠ 0 then _ else _) _ _ at ran
  dsimp only
  by_cases failed : (execute 0 listCommand).2.2 ≠ 0
  · rw [if_pos failed] at ran ⊢
    exact (runs_pure.mp ran).2
  · rw [if_neg failed] at ran ⊢
    exact dumpEach_eq_dumpAll answered.tail ran

section Gathering

variable {config : Config.LogsSenderConfig} {events : List (Event Answer)}

end Gathering

/-! ### The calls of the gathering, and its panics -/

section Calls

variable {config : Config.LogsSenderConfig} {events : List (Event Answer)}

/-- The calls of tools and files by which logs are gathered. -/
def Tool : Call → Prop
  | .execute command _ => command = ovsGatherBin
  | .create _ | .logln _ | .close | .executePrivileged _ _ | .executeOutputToFile _ _ _
  | .executePrivilegedToFile _ _ _ | .now => True
  | _ => False

/-- The calls by which logs are gathered: no progress, no archive, no upload, no report, no removal. -/
def Gathering (config : Config.LogsSenderConfig) (call : Call) : Prop :=
  Tool call ∨ gathersInstaller config = true ∧
    ((∃ gatherID, call = .collectPartialLogs (logsTmpFilesDir config) gatherID) ∨ call = .cancelAndWait)

/-- A list of core dumps with a line that has too few columns was read. -/
def Misread (events : List (Event Answer)) : Prop :=
  ∃ stdout stderr,
    ⟨.executePrivileged "coredumpctl" listCommand.tail, (stdout, stderr, (0 : Int))⟩ ∈ events ∧
      ∃ line ∈ dumpLines stdout, (fields line).length ≤ 9

end Calls

end AssistedAgent.SendLogs
