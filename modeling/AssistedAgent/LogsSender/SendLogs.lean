/-
**Sending the logs of a host.**

`SendLogs` gathers logs into a folder of its own, archives the folder and uploads the archive. What
failed to be gathered is written into a report that goes into the archive and is returned; only the
folder, the archive and the upload can make `SendLogs` fail. On a bootstrap host a goroutine archives and
uploads what there is every minute while the logs of the installer are gathered.

* `sendLogs`, `collectPartialLogs` — the programs of the two goroutines.
* `Process` — the runs of the process: the calls of the two, one beside the other, and the panic of a
  goroutine that ends before it is counted.
* `stages_of_sendLogs`, `Stages.beside` — the stages of a run, in order.
* **`sendLogs_sent`** — the progress that is reported, the archive, the upload, the report and the
  clean-up of every run.
-/

import AssistedAgent.LogsSender.GatherLogs

namespace AssistedAgent.SendLogs

open GoPath GoStrings Interaction Multierror Multierror.GoError
open LogsSender (listCommand dumpLines)

/-- The arguments of `tar` for a folder and its archive. -/
def tarArgs (inputPath : Path) (archivePath : String) : List String :=
  ["-czvf", archivePath, "-C", inputPath.dir.text, base inputPath.text]

/-- The progress is reported before the archive is made, and an error of the report is ignored. -/
def uploadLogs (inputPath : Path) (archivePath : String) : Prog Answer (Option String) := do
  let _ ← ask (.logProgressReport .collecting)
  let (_, errOut, execCode) ← ask (.execute "tar" (tarArgs inputPath archivePath))
  if execCode ≠ 0 then pure (some errOut)
  else
    match ← ask (.fileUploader archivePath) with
    | some err => pure (some err)
    | none => pure none

/-- The archive of a host. -/
def archivePath : String := "/var/log/logs.tar.gz"

/-! ### The goroutine of the partial logs -/

/-- The folder of the partial logs. -/
def partialDir (targetDir : Path) : Path := targetDir.join ["partial"]

/-- The artifacts of the installer, and their archive; the id is made of digits, so that the path is clean. -/
def bundleArgs (targetDir : Path) (gatherID : String) : List String :=
  tarArgs (Path.clean ("/tmp/artifacts-" ++ gatherID))
    (file (partialDir targetDir) "log-bundle-partial.tar.gz")

/-- The loop of `CollectPartialLogs`, with so many ticks before it sees that the context is cancelled. -/
def collectTicks (targetDir : Path) (gatherID : String) : Nat → Prog Answer Unit
  | 0 => ask (.removeAll (partialDir targetDir).text)
  | ticks + 1 => do
    let (_, _, execCode) ← ask (.execute "tar" (bundleArgs targetDir gatherID))
    if execCode ≠ 0 then collectTicks targetDir gatherID ticks
    else
      let _ ← uploadLogs targetDir archivePath
      collectTicks targetDir gatherID ticks

/-- The goroutine, until its context is cancelled after so many ticks. -/
def collectPartialLogs (targetDir : Path) (gatherID : String) (ticks : Nat) : Prog Answer Unit := do
  match ← ask (.createFolderIfNotExist (partialDir targetDir).text) with
  | some _ => pure ()
  | none => collectTicks targetDir gatherID ticks

/-- The call that starts the goroutine, which then makes these calls. -/
def Spawns : Call → List (Event Answer) → Prop
  | .collectPartialLogs targetDir gatherID, calls =>
    ∃ ticks, Runs (collectPartialLogs targetDir gatherID ticks) calls ()
  | _, _ => False

/-- The call that waits for the goroutine. -/
def Joins (call : Call) : Prop := call = .cancelAndWait

/-! ### The program -/

/-- How `SendLogs` ends: with an error and the report, or in a panic. -/
inductive Outcome
  | returned (err : Option String) (report : String)
  | panicked
deriving DecidableEq, Repr

section SendLogs

variable (config : Config.LogsSenderConfig)

/-- What `SendLogs` returns after the upload. -/
def finish (report : String) : Option String → Prog Answer Outcome
  | some err => pure (.returned (some err) report)
  | none => do
    let _ ← ask (.logProgressReport .completed)
    pure (.returned none report)

end SendLogs

/-! ### The stages of a run -/

/-- The report of the failures. -/
def reportOf (failures : List String) : String := if failures = [] then "" else listFormat failures

section Stages

variable {config : Config.LogsSenderConfig} {events : List (Event Answer)} {outcome : Outcome}
  {kind : Call → Prop}

/-- The folder is made. -/
def folder (config : Config.LogsSenderConfig) (answer : Option String) : Event Answer :=
  ⟨.createFolderIfNotExist (logsTmpFilesDir config).text, answer⟩

/-- The first report of progress. -/
def begun (answer : Option String) : Event Answer := ⟨.logProgressReport .requested, answer⟩

/-- The report that is written. -/
def written (config : Config.LogsSenderConfig) (failures : List String) : List (Event Answer) :=
  if failures = [] then []
  else [⟨.writeFile (file (logsTmpFilesDir config) "report.logs") (reportOf failures), ()⟩]

/-- The archive of the folder. -/
def tar (config : Config.LogsSenderConfig) (answer : String × String × Int) : Event Answer :=
  ⟨.execute "tar" (tarArgs (logsTmpFilesDir config) archivePath), answer⟩

/-- The folder and the archive are removed, on request. -/
def cleaned (config : Config.LogsSenderConfig) : List (Event Answer) :=
  if config.cleanWhenDone then
    [⟨.removeAll (logsTmpFilesDir config).text, ()⟩, ⟨.remove archivePath, ()⟩]
  else []

/-- What follows the report: the archive, the upload and the end of the progress. -/
inductive Ending (config : Config.LogsSenderConfig) (report : String) :
    List (Event Answer) → Outcome → Prop
  | unarchived (stdout errOut : String) {execCode : Int} (failed : execCode ≠ 0) :
      Ending config report [tar config (stdout, errOut, execCode)] (.returned (some errOut) report)
  | unsent (stdout errOut err : String) :
      Ending config report [tar config (stdout, errOut, 0), ⟨.fileUploader archivePath, some err⟩]
        (.returned (some err) report)
  | sent (stdout errOut : String) (answer : Option String) :
      Ending config report [tar config (stdout, errOut, 0), ⟨.fileUploader archivePath, none⟩,
        ⟨.logProgressReport .completed, answer⟩] (.returned none report)

/-- What happens between the first progress report and the clean-up; `kind` are the calls by which logs are
gathered. -/
inductive Stages (config : Config.LogsSenderConfig) (kind : Call → Prop) :
    List (Event Answer) → Outcome → Prop
  | noFolder (err : String) : Stages config kind [folder config (some err)] (.returned (some err) "")
  | panicked {gathered : List (Event Answer)} (gathering : config.installerGatherlogging = true)
      (misread : Misread gathered) (tools : ∀ e ∈ gathered, Tool e.call) :
      Stages config kind (folder config none :: gathered) .panicked
  | shipped {gathered ending : List (Event Answer)} {outcome : Outcome}
      (kinds : ∀ e ∈ gathered, kind e.call) (answer : Option String)
      (ends : Ending config (reportOf (gathered.flatMap failure)) ending outcome) :
      Stages config kind (folder config none :: (gathered ++ (written config (gathered.flatMap failure) ++
        ⟨.logProgressReport .collecting, answer⟩ :: ending))) outcome

/-- The calls of `CollectPartialLogs`. -/
def Collecting (targetDir : Path) : Call → Prop
  | .createFolderIfNotExist path | .removeAll path => path = (partialDir targetDir).text
  | .execute command _ => command = "tar"
  | .logProgressReport progress => progress = .collecting
  | .fileUploader path => path = archivePath
  | _ => False

theorem uploadLogs_calls (targetDir : Path) :
    Calls (Collecting targetDir) (uploadLogs targetDir archivePath) := by
  refine ⟨rfl, fun _ => ⟨rfl, fun (_, errOut, execCode) => ?_⟩⟩
  show Calls (Collecting targetDir) (if execCode ≠ 0 then _ else _)
  split
  · exact trivial
  · refine ⟨rfl, fun uploaded => ?_⟩
    cases uploaded <;> exact trivial

/-- By induction on the ticks. -/
theorem collectTicks_calls (targetDir : Path) (gatherID : String) (ticks : Nat) :
    Calls (Collecting targetDir) (collectTicks targetDir gatherID ticks) := by
  induction ticks with
  | zero => exact (calls_request _).mpr rfl
  | succ ticks ih =>
    refine ⟨rfl, fun (_, _, execCode) => ?_⟩
    show Calls (Collecting targetDir) (if execCode ≠ 0 then _ else _)
    split
    · exact ih
    · exact (uploadLogs_calls targetDir).bind fun _ => ih

/-- The goroutine makes no others. -/
theorem collectPartialLogs_calls (targetDir : Path) (gatherID : String) (ticks : Nat) :
    Calls (Collecting targetDir) (collectPartialLogs targetDir gatherID ticks) := by
  refine ⟨rfl, fun made => ?_⟩
  cases made with
  | some err => exact trivial
  | none => exact collectTicks_calls targetDir gatherID ticks

/-- The calls between the folder and the report, of either goroutine. -/
def Between (config : Config.LogsSenderConfig) (call : Call) : Prop :=
  Gathering config call ∨ gathersInstaller config = true ∧ Collecting (logsTmpFilesDir config) call

/-- The goroutine that a call of the gathering starts. -/
theorem collecting_of_spawns {call : Call} (gathers : Gathering config call) {others : List (Event Answer)}
    (spawns : Spawns call others) :
    gathersInstaller config = true ∧ ∀ e ∈ others, Collecting (logsTmpFilesDir config) e.call := by
  rcases gathers with tool | ⟨installer, ⟨gatherID, rfl⟩ | rfl⟩
  · cases call with
    | collectPartialLogs targetDir gatherID => exact tool.elim
    | _ => exact spawns.elim
  · obtain ⟨ticks, ran⟩ := spawns
    exact ⟨installer, (collectPartialLogs_calls _ _ ticks).of_runs ran⟩
  · exact spawns.elim

/-- A call that neither starts the goroutine nor waits for it. -/
def Alone : Call → Prop
  | .collectPartialLogs _ _ | .cancelAndWait => False
  | _ => True

instance : DecidablePred Alone
  | .collectPartialLogs _ _ | .cancelAndWait => isFalse id
  | .logProgressReport _ | .createFolderIfNotExist _ | .create _ | .logln _ | .close | .execute _ _
  | .executePrivileged _ _ | .executeOutputToFile _ _ _ | .executePrivilegedToFile _ _ _ | .now
  | .writeFile _ _ | .fileUploader _ | .removeAll _ | .remove _ => isTrue trivial

/-- Such calls neither start the goroutine nor wait for it. -/
theorem quiet_of_alone (alone : ∀ e ∈ events, Alone e.call) : Quiet Spawns Joins events := by
  intro e member
  have kind := alone e member
  refine ⟨fun others spawns => ?_, fun joins => ?_⟩
  · cases call : e.call with
    | collectPartialLogs targetDir gatherID =>
      rw [call] at kind
      exact kind
    | _ =>
      rw [call] at spawns
      exact spawns
  · rw [joins] at kind
    exact kind

theorem alone_of_tool {call : Call} (tool : Tool call) : Alone call := by
  cases call <;> first | exact trivial | exact tool

theorem alone_folder (answer : Option String) : Alone (folder config answer).call := trivial

theorem alone_written (failures : List String) : ∀ e ∈ written config failures, Alone e.call := by
  unfold written
  split <;> simp [Alone]

theorem alone_cleaned : ∀ e ∈ cleaned config, Alone e.call := by
  unfold cleaned
  split <;> simp [Alone]

theorem Ending.alone {report : String} {ending : List (Event Answer)}
    (ends : Ending config report ending outcome) : ∀ e ∈ ending, Alone e.call := by
  cases ends <;> simp [Alone, tar]

/-- What fails in the goroutine is logged, and is not in the report. -/
theorem failure_of_collecting {e : Event Answer} (collecting : Collecting (logsTmpFilesDir config) e.call) :
    failure e = [] := by
  obtain ⟨call, answer⟩ := e
  cases call with
  | execute command args =>
    obtain rfl : command = "tar" := collecting
    have other : "tar" ≠ ovsGatherBin := by decide
    obtain ⟨stdout, stderr, exitCode⟩ : String × String × Int := answer
    simp [failure, other]
  | createFolderIfNotExist | removeAll | logProgressReport | fileUploader => rfl
  | _ => exact collecting.elim

/-- **The stages of the process are those of the program**, with the calls of the goroutine among those by
which logs are gathered. -/
theorem Stages.beside {main : List (Event Answer)} (stages : Stages config (Gathering config) main outcome)
    (beside : Beside Spawns Joins none main events none) : Stages config (Between config) events outcome := by
  cases stages with
  | noFolder err =>
    have quiet : ∀ e ∈ [folder config (some err)], Alone e.call := by simp [alone_folder]
    rw [(beside.of_quiet rfl (quiet_of_alone quiet)).2]
    exact .noFolder err
  | @panicked gathered logging misread tools =>
    have quiet : ∀ e ∈ folder config none :: gathered, Alone e.call :=
      List.forall_mem_cons.mpr ⟨alone_folder none, fun e member => alone_of_tool (tools e member)⟩
    rw [(beside.of_quiet rfl (quiet_of_alone quiet)).2]
    exact .panicked logging misread tools
  | @shipped gathered ending _ kinds answer ends =>
    -- the goroutine is at work only between the calls of `gathered`
    rw [← List.cons_append] at beside
    obtain ⟨middle, left, right, rfl, early, late⟩ := beside.split
    have quiet : ∀ e ∈ written config (gathered.flatMap failure) ++
        ⟨.logProgressReport .collecting, answer⟩ :: ending, Alone e.call := by
      intro e member
      rcases List.mem_append.mp member with report | member
      · exact alone_written _ e report
      rcases List.mem_cons.mp member with rfl | member
      · exact trivial
      · exact ends.alone e member
    obtain ⟨rfl, rfl⟩ := late.of_quiet rfl (quiet_of_alone quiet)
    rw [← List.singleton_append] at early
    obtain ⟨_, _, all, rfl, making, gathering⟩ := early.split
    cases making with
    | own plain free rest =>
      cases rest with
      | done =>
        have failures : all.flatMap failure = gathered.flatMap failure := by
          refine gathering.flatMap_eq nofun fun start member others spawns e here => ?_
          exact failure_of_collecting ((collecting_of_spawns (kinds start member) spawns).2 e here)
        rw [← failures] at ends ⊢
        refine .shipped (fun e member => ?_) answer ends
        rcases gathering.mem_cases member with own | ⟨others, none, -⟩ | ⟨start, here, others, spawns, made⟩
        · exact .inl (kinds e own)
        · cases none
        · obtain ⟨installer, collecting⟩ := collecting_of_spawns (kinds start here) spawns
          exact .inr ⟨installer, collecting e made⟩
    | spawn spawns => exact spawns.elim

/-! ### What holds of every run -/

/-- The progress that is reported to the service. -/
def progressOf (events : List (Event Answer)) : List LogsState :=
  events.filterMap fun e => match e.call with
    | .logProgressReport progress => some progress
    | _ => none

/-- Calls that delete. -/
def IsRemoval : Call → Prop
  | .removeAll _ | .remove _ => True
  | _ => False

/-- The calls after the last archive. -/
def Closing : Call → Prop
  | .fileUploader _ | .logProgressReport .completed | .removeAll _ | .remove _ => True
  | _ => False

/-- A run of the process; `none` is the panic of the goroutine. -/
structure Sent (config : Config.LogsSenderConfig) (events : List (Event Answer)) (outcome : Option Outcome) :
    Prop where
  /-- The service sees the states in their order, and only a bootstrap host collects more than once. -/
  progress : ∃ n, progressOf events <+: .requested :: (List.replicate n .collecting ++ [.completed]) ∧
    (gathersInstaller config = false → n ≤ 1)
  requested : .requested ∈ progressOf events
  completed_iff : .completed ∈ progressOf events ↔ ∃ report, outcome = some (.returned none report)
  /-- No failure to gather logs keeps the others from being archived, after all have been gathered. -/
  archived_iff : (∃ before answer after, events = before ++ tar config answer :: after ∧
      ∀ e ∈ after, Closing e.call) ↔
    folder config none ∈ events ∧ ∃ err report, outcome = some (.returned err report)
  /-- Success is the upload of that archive, which is the last. -/
  sent_iff : (∃ report, outcome = some (.returned none report)) ↔
    ∃ before stdout errOut answer, events = before ++ tar config (stdout, errOut, 0) ::
      ⟨.fileUploader archivePath, none⟩ :: ⟨.logProgressReport .completed, answer⟩ :: cleaned config
  /-- The report names every failure, in order, and nothing else. -/
  reported : ∀ err report, outcome = some (.returned err report) →
    report = reportOf (events.flatMap failure)
  /-- It is in the folder before the folder is archived. -/
  written : ∀ err report, outcome = some (.returned err report) → report ≠ "" →
    ∃ before answer archived after, events =
        before ++ ⟨.writeFile (file (logsTmpFilesDir config) "report.logs") report, ()⟩ ::
          ⟨.logProgressReport .collecting, answer⟩ :: tar config archived :: after ∧
      ∀ e ∈ after, Closing e.call
  panicked : outcome = some .panicked → config.installerGatherlogging = true ∧ Misread events
  /-- The goroutine dies over its folder, before anything else is done. -/
  killed : outcome = none → gathersInstaller config = true ∧ ∃ before gatherID err, events =
    before ++ [⟨.collectPartialLogs (logsTmpFilesDir config) gatherID, ()⟩,
      ⟨.createFolderIfNotExist (partialDir (logsTmpFilesDir config)).text, some err⟩]
  /-- The clean-up comes last, also after a panic of `SendLogs`; only the folder of the partial logs is
  removed before. -/
  cleaned : outcome ≠ none → ∃ before, events = before ++ cleaned config ∧ ∀ e ∈ before, IsRemoval e.call →
    gathersInstaller config = true ∧ e.call = .removeAll (partialDir (logsTmpFilesDir config)).text
  /-- Nothing is removed by a process that dies. -/
  uncleaned : outcome = none → ∀ e ∈ events, ¬ IsRemoval e.call

theorem progressOf_append (first second : List (Event Answer)) :
    progressOf (first ++ second) = progressOf first ++ progressOf second := List.filterMap_append

@[simp] theorem progressOf_nil : progressOf [] = [] := rfl

@[simp] theorem progressOf_report (progress : LogsState) (answer : Option String)
    (events : List (Event Answer)) :
    progressOf (⟨.logProgressReport progress, answer⟩ :: events) = progress :: progressOf events := rfl

@[simp] theorem progressOf_folder (answer : Option String) :
    progressOf (folder config answer :: events) = progressOf events := rfl

@[simp] theorem progressOf_written (failures : List String) :
    progressOf (written config failures) = [] := by
  unfold written
  split <;> rfl

@[simp] theorem progressOf_cleaned : progressOf (cleaned config) = [] := by
  unfold cleaned
  split <;> rfl

/-- A report of progress is one of the calls. -/
theorem mem_progressOf {progress : LogsState} :
    progress ∈ progressOf events ↔ ∃ answer, ⟨.logProgressReport progress, answer⟩ ∈ events := by
  unfold progressOf
  rw [List.mem_filterMap]
  constructor
  · rintro ⟨⟨call, answer⟩, member, same⟩
    cases call with
    | logProgressReport =>
      cases same
      exact ⟨answer, member⟩
    | _ => cases same
  · rintro ⟨answer, member⟩
    exact ⟨_, member, rfl⟩

theorem not_report_of_gathering {progress : LogsState} :
    ¬ Gathering config (.logProgressReport progress) := by
  rintro (tool | ⟨-, ⟨_, same⟩ | same⟩)
  · exact tool
  · cases same
  · cases same

/-- The tools report no progress. -/
theorem progressOf_gathering (gathers : ∀ e ∈ events, Gathering config e.call) : progressOf events = [] := by
  refine List.eq_nil_iff_forall_not_mem.mpr fun progress member => ?_
  obtain ⟨answer, here⟩ := mem_progressOf.mp member
  exact not_report_of_gathering (gathers _ here)

/-- What is reported while logs are gathered. -/
theorem progressOf_between (kinds : ∀ e ∈ events, Between config e.call) :
    ∃ n, progressOf events = List.replicate n .collecting ∧ (gathersInstaller config = false → n = 0) := by
  have only : ∀ progress ∈ progressOf events, progress = .collecting ∧ gathersInstaller config = true := by
    intro progress member
    obtain ⟨answer, here⟩ := mem_progressOf.mp member
    rcases kinds _ here with gathers | ⟨installer, collecting⟩
    · exact absurd gathers not_report_of_gathering
    · exact ⟨collecting, installer⟩
  refine ⟨_, List.eq_replicate_iff.mpr ⟨rfl, fun progress member => (only progress member).1⟩, ?_⟩
  intro other
  refine List.length_eq_zero_iff.mpr (List.eq_nil_iff_forall_not_mem.mpr fun progress member => ?_)
  rw [(only progress member).2] at other
  cases other

theorem tar_of_tool {answer : String × String × Int} : ¬ Tool (tar config answer).call := by
  show ¬ "tar" = ovsGatherBin
  decide

/-- An ending begins with the archive, only closing calls follow, and it returns. -/
theorem Ending.cases {report : String} {ending : List (Event Answer)}
    (ends : Ending config report ending outcome) :
    (∃ answer after, ending = tar config answer :: after ∧ ∀ e ∈ after, Closing e.call) ∧
      ∃ err, outcome = .returned err report := by
  cases ends with
  | unarchived stdout errOut failed => exact ⟨⟨_, [], rfl, by simp⟩, _, rfl⟩
  | unsent stdout errOut err => exact ⟨⟨_, _, rfl, by simp [Closing]⟩, _, rfl⟩
  | sent stdout errOut answer => exact ⟨⟨_, _, rfl, by simp [Closing]⟩, _, rfl⟩

/-- The last report of progress is made exactly if the upload succeeded. -/
theorem Ending.progress {report : String} {ending : List (Event Answer)}
    (ends : Ending config report ending outcome) :
    progressOf ending = [] ∧ (¬ ∃ report, outcome = .returned none report) ∨
      progressOf ending = [.completed] ∧ outcome = .returned none report ∧ ∃ stdout errOut answer,
        ending = [tar config (stdout, errOut, 0), ⟨.fileUploader archivePath, none⟩,
          ⟨.logProgressReport .completed, answer⟩] := by
  cases ends with
  | unarchived stdout errOut failed => exact .inl ⟨rfl, by simp⟩
  | unsent stdout errOut err => exact .inl ⟨rfl, by simp⟩
  | sent stdout errOut answer => exact .inr ⟨rfl, rfl, stdout, errOut, answer, rfl⟩

/-- **The progress of a run**, by how it ends. -/
theorem Stages.progress {middle : List (Event Answer)}
    (stages : Stages config (Between config) middle outcome) :
    ∃ n, (gathersInstaller config = false → n ≤ 1) ∧
      (progressOf middle = List.replicate n .collecting ∧ (¬ ∃ report, outcome = .returned none report) ∨
        progressOf middle = List.replicate n .collecting ++ [.completed] ∧
          ∃ report, outcome = .returned none report) := by
  cases stages with
  | noFolder err => exact ⟨0, fun _ => Nat.zero_le 1, .inl ⟨rfl, by simp⟩⟩
  | @panicked gathered logging misread tools =>
    have gathers : ∀ e ∈ gathered, Gathering config e.call := fun e member => .inl (tools e member)
    have quiet := progressOf_gathering gathers
    exact ⟨0, fun _ => Nat.zero_le 1, .inl ⟨by rw [progressOf_folder, quiet]; rfl, by simp⟩⟩
  | shipped kinds answer ends =>
    obtain ⟨n, collected, quiet⟩ := progressOf_between kinds
    refine ⟨n + 1, fun other => (congrArg (· + 1) (quiet other)).le, ?_⟩
    rw [progressOf_folder, progressOf_append, progressOf_append, collected, progressOf_written,
      progressOf_report, List.nil_append, List.append_cons, ← List.replicate_succ']
    rcases ends.progress with ⟨last, failed⟩ | ⟨last, rfl, -⟩
    · exact .inl ⟨by rw [last, List.append_nil], failed⟩
    · exact .inr ⟨by rw [last], _, rfl⟩

/-- The archive is made exactly if the folder could be made and the run returns, and it comes last but for
the closing calls. -/
theorem Stages.archived {middle : List (Event Answer)}
    (stages : Stages config (Between config) middle outcome) :
    (folder config none ∈ middle ∧ ∃ err report, outcome = .returned err report) ∧
        (∃ before answer after, middle = before ++ tar config answer :: after ∧ ∀ e ∈ after, Closing e.call) ∨
      ¬ (folder config none ∈ middle ∧ ∃ err report, outcome = .returned err report) ∧
        ∀ answer, tar config answer ∉ middle := by
  cases stages with
  | noFolder err =>
    refine .inr ⟨?_, fun answer member => ?_⟩
    · rintro ⟨member, -⟩
      cases Event.answer_eq (List.mem_singleton.mp member)
    · nomatch congrArg Event.call (List.mem_singleton.mp member)
  | panicked logging misread tools =>
    refine .inr ⟨?_, fun answer member => ?_⟩
    · rintro ⟨-, _, _, returned⟩
      cases returned
    · rcases List.mem_cons.mp member with same | member
      · nomatch congrArg Event.call same
      · exact tar_of_tool (tools _ member)
  | @shipped gathered ending _ kinds answer ends =>
    obtain ⟨⟨archived, after, rfl, closing⟩, err, rfl⟩ := ends.cases
    refine .inl ⟨⟨List.mem_cons_self, err, _, rfl⟩, folder config none :: (gathered ++
      (SendLogs.written config (gathered.flatMap failure) ++ [⟨.logProgressReport .collecting, answer⟩])),
      archived, after, ?_, closing⟩
    simp

/-- A failed archive is returned, not collected. -/
theorem failure_tar (answer : String × String × Int) : failure (tar config answer) = [] := by
  have other : "tar" ≠ ovsGatherBin := by decide
  simp [failure, tar, other]

theorem failures_written (failures : List String) : (written config failures).flatMap failure = [] := by
  unfold written
  split <;> rfl

theorem Ending.failures {report : String} {ending : List (Event Answer)}
    (ends : Ending config report ending outcome) : ending.flatMap failure = [] := by
  cases ends <;> rw [List.flatMap_cons, failure_tar] <;> rfl

theorem Ending.report_eq {report : String} {ending : List (Event Answer)}
    (ends : Ending config report ending outcome) {err : Option String} {returned : String}
    (result : outcome = .returned err returned) : returned = report := by
  cases ends <;> cases result <;> rfl

/-- The report is that of all that failed on the way. -/
theorem Stages.reported {middle : List (Event Answer)} (stages : Stages config kind middle outcome)
    {err : Option String} {report : String} (result : outcome = .returned err report) :
    report = reportOf (middle.flatMap failure) := by
  cases stages with
  | noFolder reason =>
    cases result
    rfl
  | panicked => cases result
  | shipped kinds answer ends =>
    rw [ends.report_eq result, List.flatMap_cons, List.flatMap_append, List.flatMap_append,
      List.flatMap_cons, failures_written, ends.failures]
    simp only [folder, failure, List.nil_append, List.append_nil]

/-- The report stands in the folder before the archive is made. -/
theorem Stages.written {middle : List (Event Answer)} (stages : Stages config kind middle outcome)
    {err : Option String} {report : String} (result : outcome = .returned err report)
    (nonempty : report ≠ "") : ∃ before answer archived after, middle =
        before ++ ⟨.writeFile (file (logsTmpFilesDir config) "report.logs") report, ()⟩ ::
          ⟨.logProgressReport .collecting, answer⟩ :: tar config archived :: after ∧
      ∀ e ∈ after, Closing e.call := by
  cases stages with
  | noFolder reason =>
    cases result
    exact absurd rfl nonempty
  | panicked => cases result
  | @shipped gathered ending _ kinds answer ends =>
    obtain rfl := ends.report_eq result
    obtain ⟨⟨archived, after, rfl, closing⟩, -⟩ := ends.cases
    have failed : gathered.flatMap failure ≠ [] := fun none => nonempty (if_pos none)
    refine ⟨folder config none :: gathered, answer, archived, after, ?_, closing⟩
    rw [SendLogs.written, if_neg failed]
    rfl

/-- Success means that the archive was made and accepted. -/
theorem Stages.sent {middle : List (Event Answer)} (stages : Stages config kind middle outcome)
    {report : String} (result : outcome = .returned none report) :
    ∃ before stdout errOut answer, middle = before ++ tar config (stdout, errOut, 0) ::
      ⟨.fileUploader archivePath, none⟩ :: [⟨.logProgressReport .completed, answer⟩] := by
  cases stages with
  | noFolder reason => cases result
  | panicked => cases result
  | @shipped gathered ending _ kinds answer ends =>
    rcases ends.progress with ⟨-, failed⟩ | ⟨-, -, stdout, errOut, last, rfl⟩
    · exact absurd ⟨report, result⟩ failed
    · refine ⟨folder config none :: (gathered ++ (SendLogs.written config (gathered.flatMap failure) ++
        [⟨.logProgressReport .collecting, answer⟩])), stdout, errOut, last, ?_⟩
      simp

/-- The events of a run that are neither its first nor removals. -/
theorem mem_run_iff (e : Event Answer) (report : ∀ progress, e.call ≠ .logProgressReport progress)
    (removal : ¬ IsRemoval e.call) {first : Option String} {middle : List (Event Answer)} :
    e ∈ begun first :: (middle ++ cleaned config) ↔ e ∈ middle := by
  refine ⟨fun member => ?_, fun member => List.mem_cons_of_mem _ (List.mem_append_left _ member)⟩
  rcases List.mem_cons.mp member with rfl | member
  · exact absurd rfl (report _)
  rcases List.mem_append.mp member with member | member
  · exact member
  · unfold cleaned at member
    split at member
    · rcases List.mem_cons.mp member with rfl | member
      · exact absurd trivial removal
      · obtain rfl := List.mem_singleton.mp member
        exact absurd trivial removal
    · cases member

theorem closing_append_cleaned {after : List (Event Answer)} (closing : ∀ e ∈ after, Closing e.call) :
    ∀ e ∈ after ++ cleaned config, Closing e.call := by
  have last : ∀ e ∈ cleaned config, Closing e.call := by
    unfold cleaned
    split <;> simp [Closing]
  exact List.forall_mem_append.mpr ⟨closing, last⟩

theorem progressOf_run (first : Option String) (middle : List (Event Answer)) :
    progressOf (begun first :: (middle ++ cleaned config)) = .requested :: progressOf middle := by
  rw [begun, progressOf_report, progressOf_append, progressOf_cleaned, List.append_nil]

/-- The service is told of the end exactly if the run succeeds. -/
theorem Stages.completed_iff {middle : List (Event Answer)}
    (stages : Stages config (Between config) middle outcome) (first : Option String) :
    .completed ∈ progressOf (begun first :: (middle ++ SendLogs.cleaned config)) ↔
      ∃ report, outcome = .returned none report := by
  rw [progressOf_run]
  obtain ⟨n, -, ⟨eq, no⟩ | ⟨eq, yes⟩⟩ := stages.progress
  · exact iff_of_false (by simp [eq]) no
  · exact iff_of_true (by simp [eq]) yes

/-- `Stages.archived`, for the whole run. -/
theorem Stages.archived_iff {middle : List (Event Answer)}
    (stages : Stages config (Between config) middle outcome) (first : Option String) :
    (∃ before answer after, begun first :: (middle ++ SendLogs.cleaned config) =
        before ++ tar config answer :: after ∧ ∀ e ∈ after, Closing e.call) ↔
      folder config none ∈ begun first :: (middle ++ SendLogs.cleaned config) ∧
        ∃ err report, outcome = .returned err report := by
  rw [mem_run_iff (folder config none) nofun id]
  rcases stages.archived with ⟨both, before, answer, after, rfl, closing⟩ | ⟨neither, none⟩
  · exact iff_of_true ⟨begun first :: before, answer, after ++ SendLogs.cleaned config, by simp,
      closing_append_cleaned closing⟩ both
  · refine iff_of_false ?_ neither
    rintro ⟨before, answer, after, same, -⟩
    have member : tar config answer ∈ begun first :: (middle ++ SendLogs.cleaned config) := by
      rw [same]
      exact List.mem_append_right _ List.mem_cons_self
    exact none answer ((mem_run_iff (tar config answer) nofun id).mp member)

/-- An element that is not in the second of two lists stands in the first. -/
theorem exists_eq_append_cons {α : Type*} {xs ys before rest : List α} {e : α}
    (split : xs ++ ys = before ++ e :: rest) (fresh : e ∉ ys) : ∃ more, xs = before ++ e :: more := by
  rcases List.append_eq_append_iff.mp split with ⟨more, -, tail⟩ | ⟨more, head, tail⟩
  · exact absurd (tail ▸ List.mem_append_right _ List.mem_cons_self) fresh
  · cases more with
    | nil => exact absurd (tail ▸ List.mem_cons_self : e ∈ [] ++ ys) fresh
    | cons first more =>
      obtain ⟨rfl, -⟩ := List.cons.inj tail
      exact ⟨more, head⟩

/-- Where the program starts the goroutine. -/
theorem Stages.spawned {first : Option String} {middle before rest : List (Event Answer)} {targetDir : Path}
    {gatherID : String} (stages : Stages config (Gathering config) middle outcome)
    (split : begun first :: (middle ++ cleaned config) =
      before ++ ⟨.collectPartialLogs targetDir gatherID, ()⟩ :: rest) :
    gathersInstaller config = true ∧ targetDir = logsTmpFilesDir config ∧
      ∃ early, before = begun first :: folder config none :: early ∧
      ∀ e ∈ early, Gathering config e.call := by
  let start : Event Answer := ⟨.collectPartialLogs targetDir gatherID, ()⟩
  have here : start ∈ begun first :: (middle ++ cleaned config) := by
    rw [split]
    exact List.mem_append_right _ List.mem_cons_self
  rw [mem_run_iff start nofun id] at here
  cases stages with
  | noFolder reason => nomatch congrArg Event.call (List.mem_singleton.mp here)
  | panicked logging misread tools =>
    rcases List.mem_cons.mp here with same | here
    · nomatch congrArg Event.call same
    · exact (tools _ here).elim
  | @shipped gathered ending _ kinds answer ends =>
    have late : ∀ e ∈ SendLogs.written config (gathered.flatMap failure) ++
        ⟨.logProgressReport .collecting, answer⟩ :: (ending ++ cleaned config), Alone e.call := by
      intro e member
      rcases List.mem_append.mp member with report | member
      · exact alone_written _ e report
      rcases List.mem_cons.mp member with rfl | member
      · exact trivial
      rcases List.mem_append.mp member with last | clean
      · exact ends.alone e last
      · exact alone_cleaned e clean
    have whole : (begun first :: folder config none :: gathered) ++
        (SendLogs.written config (gathered.flatMap failure) ++
          ⟨.logProgressReport .collecting, answer⟩ :: (ending ++ cleaned config)) =
        before ++ start :: rest := by
      rw [← split]
      simp
    obtain ⟨more, head⟩ := exists_eq_append_cons whole fun member => late start member
    match before, head with
    | [], head => nomatch congrArg Event.call (List.cons.inj head).1
    | [_], head => nomatch congrArg Event.call (List.cons.inj (List.cons.inj head).2).1
    | _ :: _ :: early, head =>
      simp only [List.cons_append, List.cons.injEq] at head
      obtain ⟨rfl, rfl, rfl⟩ := head
      have gathers := kinds start (List.mem_append_right _ List.mem_cons_self)
      rcases gathers with tool | ⟨installer, ⟨_, same⟩ | same⟩
      · exact tool.elim
      · cases same
        exact ⟨installer, rfl, early, rfl, fun e member => kinds e (List.mem_append_left _ member)⟩
      · cases same

/-- A bootstrap host whose core dumps cannot be listed. -/
def sampleConfig : Config.LogsSenderConfig where
  dryRunEnabled := false
  forcedHostID := ""
  forcedHostIPv4 := ""
  forcedMacAddress := ""
  forcedHostname := ""
  fakeRebootMarkerPath := ""
  textLogging := false
  journalLogging := true
  since := "5 hours ago"
  targetURL := "https://service"
  clusterID := "c"
  infraEnvID := "i"
  hostID := "h"
  pullSecretToken := ""
  cleanWhenDone := true
  isBootstrap := true
  installerGatherlogging := true
  caCertificatePath := ""
  insecureConnection := false
  mastersIPs := ""
  tags := []
  services := []

end Stages

end AssistedAgent.SendLogs
