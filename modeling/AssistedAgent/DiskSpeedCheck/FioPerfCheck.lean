/-
**The speed of a disk, from several concurrent runs of fio.**

`FioPerfCheck` starts one job per run of fio and waits for all of them. It then reads their results off
the channel and answers with the worst latency, or with an error if every job has failed. The jobs and
the loop that reads the channel are a fan-in (`Lib.FanIn`), the results of the jobs are those of
`getDiskPerf`. No result of `getDiskPerf` is a panic: a report of fio without jobs.

* `getDiskPerf_cases` — what a job returns for a report that has a latency, and for any other answer.
* `worst_isGreatest`, `worst_of_perm` — the loop over the results, in any order.
* **`fioPerfCheck_worst`** — no interleaving of the jobs blocks or panics, each of them returns, and
  what is returned is the worst latency of the jobs that have one.
-/

import AssistedAgent.Lib.FanIn
import AssistedAgent.Lib.JsonPointers
import Mathlib.Order.Bounds.Defs

namespace AssistedAgent.DiskSpeedCheck

open GoJson Transition

/-! ### The functions -/

/-- What `Execute` answers a job: standard output, standard error and the exit code. -/
abbrev Execute := String → List String → String × String × Int

/-- `fioCheckResponse`. -/
structure FioCheckResponse where
  latency : Int
  err : Option String
deriving DecidableEq, Repr

def dryModeSyncDurationInNS : Int := 1000000

/-- `time.Duration.Milliseconds`. -/
def milliseconds (ns : Int) : Int := ns.tdiv 1000000

/-- `strings.ReplaceAll(path, ":", "\\:")`. -/
def escapedPath (path : String) : String :=
  String.ofList (path.toList.flatMap fun c => if c = ':' then ['\\', ':'] else [c])

def fioArgs (path : String) : List String :=
  ["--filename", escapedPath path, "--name=test", "--rw=write", "--ioengine=sync", "--size=22m",
    "-bs=2300", "--fdatasync=1", "--output-format=json"]

/-- `FIO`, by the latencies of its jobs. -/
def decodeFio : Json → DecodedSlice Int → Option (DecodedSlice Int) :=
  decodeStruct "jobs" (decodeSlice (decodeStruct "sync" (decodeStruct "lat_ns"
    (decodeStruct "percentile" (decodeStruct "99.000000" decodeInt64)))) 0)

def unmarshalFio (stdout : String) : Option (List Int) :=
  ((parse stdout).bind (decodeFio · .nil)).map (·.elems)

/-- `models.DiskSpeedCheckRequest`, by its path. -/
def decodeRequest (json : Json) : Option (Option String) :=
  decodeStruct "path" decodeStringPointer json none

def unmarshalRequest (request : String) : Option (Option String) := (parse request).bind decodeRequest

/-- `createResponse`: the fields that are not empty. -/
def createResponse (ioSyncDuration : Int) (path : String) : String :=
  let duration := if ioSyncDuration = 0 then [] else ["\"io_sync_duration\":" ++ toString ioSyncDuration]
  let device := if path = "" then [] else ["\"path\":" ++ quote path]
  "\x7b" ++ ",".intercalate (duration ++ device) ++ "\x7d"

/-- `json.Unmarshal` to a `models.DiskSpeedCheckResponse`, as its duration and its path. -/
def unmarshalResponse (response : String) : Option (Int × String) := do
  let json ← parse response
  let ioSyncDuration ← decodeStruct "io_sync_duration" decodeInt64 json 0
  let path ← decodeStruct "path" decodeString json ""
  some (ioSyncDuration, path)

structure Reply where
  stdout : String
  stderr : String
  exitCode : Int
deriving DecidableEq, Repr

/-- One round of the loop over the results: the worst latency and the last error. -/
def storeWorst (acc : Int × String) (res : FioCheckResponse) : Int × String :=
  match res.err with
  | some err => (acc.1, err)
  | none => (if res.latency > acc.1 then res.latency else acc.1, acc.2)

/-- What is returned for the results, in the order in which they are received. -/
def replyOf (path : String) (results : List FioCheckResponse) : Reply :=
  match results.foldl storeWorst (-1, "") with
  | (maxLatency, errMsg) =>
    if maxLatency = -1 then ⟨createResponse 0 path, errMsg, -1⟩
    else ⟨createResponse maxLatency path, "", 0⟩

section Check

-- `jsonError` is the text of the error that `json.Unmarshal` returns for a document.
variable (dryRunEnabled : Bool) (jsonError : String → String)

def getDiskPerf (path : String) (execute : Execute) : Option FioCheckResponse :=
  if path = "" then some ⟨-1, some "Missing disk path"⟩
  else if dryRunEnabled then some ⟨milliseconds dryModeSyncDurationInNS, none⟩
  else
    match execute "fio" (fioArgs path) with
    | (stdout, stderr, exitCode) =>
      if exitCode ≠ 0 then
        some ⟨-1, some ("Could not get I/O performance for path " ++ path ++ " (fio exit code: " ++
          toString exitCode ++ ", stderr: " ++ stderr ++ ")")⟩
      else
        match unmarshalFio stdout with
        | none => some ⟨-1, some ("Failed to get sync duration from I/O info for path " ++ path ++ ": " ++
            jsonError stdout)⟩
        | some [] => none
        | some (syncDurationInNS :: _) => some ⟨milliseconds syncDurationInNS, none⟩

/-- The goroutines of `executeMultipleDiskPerf`, and the loop that reads the channel when it has
returned. There is one job for each of the given `Execute`s, and the channel has room for as many. -/
def executeMultipleDiskPerf (path : String) (jobs : List Execute) :
    FanIn.State FioCheckResponse → FanIn.Goroutine → FanIn.State FioCheckResponse → Prop :=
  ofPartial (FanIn.State.step jobs.length (jobs.map (getDiskPerf dryRunEnabled jsonError path)))

/-- What `FioPerfCheck` returns for a request, in some interleaving of its jobs. -/
inductive FioPerfCheck (request : String) (jobs : List Execute) : Reply → Prop
  | malformed (err : unmarshalRequest request = none) :
      FioPerfCheck request jobs
        ⟨"", "Failed to unmarshal DiskSpeedCheckRequest: " ++ jsonError request, -1⟩
  | missing (err : unmarshalRequest request = some none) :
      FioPerfCheck request jobs ⟨"", "Missing Filename in DiskSpeedCheckRequest", -1⟩
  | checked {path : String} {s : FanIn.State FioCheckResponse}
      (asked : unmarshalRequest request = some (some path))
      (reach : Reachable (executeMultipleDiskPerf dryRunEnabled jsonError path jobs) FanIn.State.init s)
      (returned : s.parent = .returned) :
      FioPerfCheck request jobs (replyOf path s.received)

/-! ### The response -/

/-- The members of a response that are written. -/
def responseMembers (duration : Nat) (path : String) : List Written :=
  (if duration = 0 then [] else [.ofNat "io_sync_duration" duration]) ++
    (if path = "" then [] else [.ofString "path" path])

theorem toList_createResponse (duration : Nat) (path : String) :
    (createResponse duration path).toList =
      '\x7b' :: ([','].intercalate ((responseMembers duration path).map Written.member) ++ ['\x7d']) := by
  have labels : "\"io_sync_duration\":" = quote "io_sync_duration" ++ ":" ∧
      "\"path\":" = quote "path" ++ ":" := by decide +kernel
  have colon : ":".toList = [':'] := rfl
  have digits : (toString (duration : Int)).toList = Nat.toDigits 10 duration := Nat.toList_repr
  have number : ("\"io_sync_duration\":" ++ toString (duration : Int)).toList =
      (Written.ofNat "io_sync_duration" duration).member := by
    rw [labels.1, String.toList_append, String.toList_append, digits, colon, List.append_assoc,
      List.singleton_append, Written.member, Written.ofNat]
  have device : ("\"path\":" ++ quote path).toList = (Written.ofString "path" path).member := by
    rw [labels.2, String.toList_append, String.toList_append, colon, List.append_assoc,
      List.singleton_append, Written.member, Written.ofString]
  have braces : "\x7b".toList = ['\x7b'] ∧ "\x7d".toList = ['\x7d'] ∧ ",".toList = [','] := ⟨rfl, rfl, rfl⟩
  unfold createResponse responseMembers
  dsimp only
  rw [String.toList_append, String.toList_append, String.toList_intercalate, braces.1, braces.2.1,
    braces.2.2, List.append_assoc, List.singleton_append, List.map_append, List.map_append]
  congr 4
  · by_cases zero : duration = 0
    · rw [if_pos (by rw [zero]; rfl), if_pos zero, List.map_nil, List.map_nil]
    · rw [if_neg (by omega), if_neg zero, List.map_singleton, List.map_singleton, number]
  · by_cases empty : path = ""
    · rw [if_pos empty, if_pos empty, List.map_nil, List.map_nil]
    · rw [if_neg empty, if_neg empty, List.map_singleton, List.map_singleton, device]

/-- **The response is decoded to what it was made of.** -/
theorem unmarshal_createResponse {duration : Int} (nonneg : 0 ≤ duration) (small : duration < 2 ^ 63)
    (path : String) : unmarshalResponse (createResponse duration path) = some (duration, path) := by
  obtain ⟨n, rfl⟩ := Int.eq_ofNat_of_zero_le nonneg
  have reads : ∀ m ∈ responseMembers n path, m.Reads := by
    intro m member
    rcases List.mem_append.mp member with number | device
    · split at number
      · cases number
      · rw [List.mem_singleton.mp number]
        exact reads_ofNat _ (Nat.pos_of_ne_zero ‹_›)
    · split at device
      · cases device
      · rw [List.mem_singleton.mp device]
        exact reads_ofString _ _
  have names : foldName "io_sync_duration" ≠ foldName "path" := by decide
  have decoded : GoStrconv.parseInt64 (Nat.toDigits 10 n) = ((n : Int), none) :=
    GoStrconv.parseInt64_toDigits (by omega)
  rw [unmarshalResponse, parse_written reads (toList_createResponse n path)]
  unfold responseMembers
  by_cases zero : n = 0 <;> by_cases empty : path = "" <;>
    simp [zero, empty, decodeStruct, fieldAt, names, names.symm, decodeInt64, decodeString, decoded,
      Written.ofNat, Written.ofString]

/-! ### What a job returns -/

/-- A run of fio has succeeded with a 99th percentile of this many nanoseconds; a dry run has one of its
own. -/
def Reports (path : String) (execute : Execute) (ns : Int) : Prop :=
  path ≠ "" ∧
    if dryRunEnabled then ns = dryModeSyncDurationInNS
    else ∃ stdout stderr rest, execute "fio" (fioArgs path) = (stdout, stderr, 0) ∧
      unmarshalFio stdout = some (ns :: rest)

/-- A run of fio has failed, or its report has a job, and no negative latency. -/
def WellFormed (path : String) (execute : Execute) : Prop :=
  path ≠ "" → dryRunEnabled = false → ∀ stdout stderr latencies,
    execute "fio" (fioArgs path) = (stdout, stderr, 0) → unmarshalFio stdout = some latencies →
    ∃ ns rest, latencies = ns :: rest ∧ 0 ≤ ns

variable {dryRunEnabled}

/-- **A job succeeds with the latency of its report, and fails without one.** -/
theorem getDiskPerf_cases {path : String} {execute : Execute}
    (formed : WellFormed dryRunEnabled path execute) :
    (∃ ns, 0 ≤ ns ∧ (∀ ns', Reports dryRunEnabled path execute ns' ↔ ns' = ns) ∧
      getDiskPerf dryRunEnabled jsonError path execute = some ⟨ns / 1000000, none⟩) ∨
    (∃ err, (∀ ns, ¬ Reports dryRunEnabled path execute ns) ∧
      getDiskPerf dryRunEnabled jsonError path execute = some ⟨-1, some err⟩) := by
  unfold Reports getDiskPerf
  by_cases empty : path = ""
  · rw [if_pos empty]
    exact .inr ⟨_, fun _ reports => reports.1 empty, rfl⟩
  rw [if_neg empty]
  cases dryRunEnabled with
  | true =>
    rw [if_pos rfl]
    refine .inl ⟨dryModeSyncDurationInNS, by decide, fun ns' => ?_, rfl⟩
    simp [empty]
  | false =>
    simp only [Bool.false_eq_true, if_false]
    rcases answer : execute "fio" (fioArgs path) with ⟨stdout, stderr, exitCode⟩
    by_cases failed : exitCode = 0
    · subst failed
      simp only [ne_eq, not_true_eq_false, if_false]
      cases decoded : unmarshalFio stdout with
      | none =>
        refine .inr ⟨_, ?_, rfl⟩
        rintro ns ⟨-, stdout', stderr', rest, same, other⟩
        cases same
        rw [decoded] at other
        cases other
      | some latencies =>
        obtain ⟨ns, rest, rfl, positive⟩ := formed empty rfl stdout stderr latencies answer decoded
        refine .inl ⟨ns, positive, ?_, ?_⟩
        · intro ns'
          constructor
          · rintro ⟨-, stdout', stderr', rest', same, other⟩
            cases same
            rw [decoded] at other
            cases other
            rfl
          · rintro rfl
            exact ⟨empty, stdout, stderr, rest, rfl, decoded⟩
        · show some (FioCheckResponse.mk (milliseconds ns) none) = _
          rw [milliseconds, Int.tdiv_eq_ediv_of_nonneg positive]
    · rw [if_pos failed]
      refine .inr ⟨_, ?_, rfl⟩
      rintro ns ⟨-, stdout', stderr', rest, same, -⟩
      cases same
      exact failed rfl

end Check

/-! ### The worst of the results -/

/-- The latency is kept that is the greatest of the one before and those of the results without an
error. -/
theorem worst_isGreatest (results : List FioCheckResponse) (acc : Int × String) :
    IsGreatest {latency | latency = acc.1 ∨ ⟨latency, none⟩ ∈ results}
      (results.foldl storeWorst acc).1 := by
  induction results generalizing acc with
  | nil =>
    refine ⟨.inl rfl, ?_⟩
    rintro latency (rfl | member)
    · exact Int.le_refl _
    · cases member
  | cons res results ih =>
    obtain ⟨kept, bound⟩ := ih (storeWorst acc res)
    rw [List.foldl_cons]
    obtain ⟨latency, err⟩ := res
    cases err with
    | some err =>
      refine ⟨kept.imp_right (List.mem_cons_of_mem _), ?_⟩
      rintro other (rfl | member)
      · exact bound (.inl rfl)
      · rcases List.mem_cons.mp member with same | member
        · cases same
        · exact bound (.inr member)
    | none =>
      have start : acc.1 ≤ (storeWorst acc ⟨latency, none⟩).1 ∧
          latency ≤ (storeWorst acc ⟨latency, none⟩).1 ∧
          ((storeWorst acc ⟨latency, none⟩).1 = acc.1 ∨
            (storeWorst acc ⟨latency, none⟩).1 = latency) := by
        simp only [storeWorst]
        split <;> omega
      constructor
      · rcases kept with same | member
        · rcases start.2.2 with old | new
          · exact .inl (same.trans old)
          · right
            rw [same, new]
            exact List.mem_cons_self
        · exact .inr (List.mem_cons_of_mem _ member)
      · rintro other (rfl | member)
        · exact Int.le_trans start.1 (bound (.inl rfl))
        · rcases List.mem_cons.mp member with same | member
          · cases same
            exact Int.le_trans start.2.1 (bound (.inl rfl))
          · exact bound (.inr member)

/-- The message is that of a result with an error, or the one before if there is none. -/
theorem message_spec (results : List FioCheckResponse) (acc : Int × String) :
    (∃ res ∈ results, res.err = some (results.foldl storeWorst acc).2) ∨
      ((∀ res ∈ results, res.err = none) ∧ (results.foldl storeWorst acc).2 = acc.2) := by
  induction results generalizing acc with
  | nil => exact .inr ⟨nofun, rfl⟩
  | cons res results ih =>
    rw [List.foldl_cons]
    rcases ih (storeWorst acc res) with ⟨other, member, is⟩ | ⟨fine, same⟩
    · exact .inl ⟨other, List.mem_cons_of_mem _ member, is⟩
    · rw [same]
      obtain ⟨latency, err⟩ := res
      cases err with
      | some err => exact .inl ⟨⟨latency, some err⟩, List.mem_cons_self, rfl⟩
      | none =>
        refine .inr ⟨?_, rfl⟩
        intro other member
        rcases List.mem_cons.mp member with rfl | member
        · rfl
        · exact fine other member

section Replies

variable {dryRunEnabled : Bool} {jsonError : String → String} {path : String} {jobs : List Execute}

variable (jsonError) in
/-- Where no report is malformed, every job returns a response. -/
theorem exists_responses (formed : ∀ execute ∈ jobs, WellFormed dryRunEnabled path execute) :
    ∃ responses : List FioCheckResponse,
      jobs.map (getDiskPerf dryRunEnabled jsonError path) = responses.map some := by
  induction jobs with
  | nil => exact ⟨[], rfl⟩
  | cons execute jobs ih =>
    obtain ⟨responses, rest⟩ := ih fun other member => formed other (List.mem_cons_of_mem _ member)
    rcases getDiskPerf_cases jsonError (formed execute List.mem_cons_self) with
      ⟨ns, -, -, is⟩ | ⟨err, -, is⟩
    · exact ⟨_ :: responses, by rw [List.map_cons, is, rest, List.map_cons]⟩
    · exact ⟨_ :: responses, by rw [List.map_cons, is, rest, List.map_cons]⟩

/-- The reply for the responses of all jobs, in any order. -/
structure Worst (dryRunEnabled : Bool) (jsonError : String → String) (path : String)
    (jobs : List Execute) (reply : Reply) : Prop where
  exitCode : reply.exitCode = 0 ↔ ∃ execute ∈ jobs, ∃ ns, Reports dryRunEnabled path execute ns
  success : reply.exitCode = 0 → ∃ worst,
    IsGreatest {ms | ∃ execute ∈ jobs, ∃ ns, Reports dryRunEnabled path execute ns ∧
      ms = ns / 1000000} worst ∧ unmarshalResponse reply.stdout = some (worst, path) ∧ reply.stderr = ""
  failure : reply.exitCode ≠ 0 → reply.exitCode = -1 ∧ unmarshalResponse reply.stdout = some (0, path) ∧
    (jobs ≠ [] → ∃ execute ∈ jobs,
      getDiskPerf dryRunEnabled jsonError path execute = some ⟨-1, some reply.stderr⟩)

/-- The results without an error are those of the jobs that report, and are not negative. -/
theorem mem_none_iff (formed : ∀ execute ∈ jobs, WellFormed dryRunEnabled path execute)
    (latency : Int) :
    some (FioCheckResponse.mk latency none) ∈ jobs.map (getDiskPerf dryRunEnabled jsonError path) ↔
      ∃ execute ∈ jobs, ∃ ns, Reports dryRunEnabled path execute ns ∧ latency = ns / 1000000 := by
  rw [List.mem_map]
  constructor
  · rintro ⟨execute, member, is⟩
    rcases getDiskPerf_cases jsonError (formed execute member) with
      ⟨ns, -, reports, result⟩ | ⟨err, -, result⟩
    · cases result.symm.trans is
      exact ⟨execute, member, ns, (reports ns).mpr rfl, rfl⟩
    · cases result.symm.trans is
  · rintro ⟨execute, member, ns, reported, rfl⟩
    refine ⟨execute, member, ?_⟩
    rcases getDiskPerf_cases jsonError (formed execute member) with
      ⟨ns', -, reports, result⟩ | ⟨err, silent, -⟩
    · obtain rfl := (reports ns).mp reported
      exact result
    · exact absurd reported (silent ns)

/-- A latency that is decoded is an `int64`. -/
theorem lt_of_unmarshalFio {stdout : String} {latencies : List Int}
    (decoded : unmarshalFio stdout = some latencies) : ∀ ns ∈ latencies, ns < 2 ^ 63 := by
  obtain ⟨slice, read, rfl⟩ := Option.map_eq_some_iff.mp decoded
  obtain ⟨json, -, read⟩ := Option.bind_eq_some_iff.mp read
  have keeps : Keeps (fun slice : DecodedSlice Int => ∀ ns ∈ slice.elems ++ slice.beyond, ns < 2 ^ 63)
      decodeFio :=
    (((((keeps_decodeInt64.decodeStruct _).decodeStruct _).decodeStruct _).decodeStruct _).decodeSlice
      (by decide)).decodeStruct _
  exact fun ns member => keeps json .nil slice nofun read ns (List.mem_append_left _ member)

theorem reports_lt {execute : Execute} {ns : Int} (reported : Reports dryRunEnabled path execute ns) :
    ns < 2 ^ 63 := by
  obtain ⟨-, reported⟩ := reported
  split at reported
  · rw [reported]
    decide
  · obtain ⟨stdout, stderr, rest, -, decoded⟩ := reported
    exact lt_of_unmarshalFio decoded ns List.mem_cons_self

theorem reports_nonneg {execute : Execute} (formed : WellFormed dryRunEnabled path execute) {ns : Int}
    (reported : Reports dryRunEnabled path execute ns) : 0 ≤ ns / 1000000 := by
  rcases getDiskPerf_cases (fun _ => "") formed with ⟨ns', positive, reports, -⟩ | ⟨err, silent, -⟩
  · obtain rfl := (reports ns).mp reported
    exact Int.ediv_nonneg positive (by decide)
  · exact absurd reported (silent ns)

/-- **The reply for the results of the jobs, in any order.** -/
theorem worst_of_perm (formed : ∀ execute ∈ jobs, WellFormed dryRunEnabled path execute)
    {responses received : List FioCheckResponse}
    (all : jobs.map (getDiskPerf dryRunEnabled jsonError path) = responses.map some)
    (perm : received.Perm responses) :
    Worst dryRunEnabled jsonError path jobs (replyOf path received) := by
  have mem_iff (res : FioCheckResponse) :
      res ∈ received ↔ some res ∈ jobs.map (getDiskPerf dryRunEnabled jsonError path) := by
    rw [all, perm.mem_iff]
    simp
  have succeeded (latency : Int) := (mem_iff ⟨latency, none⟩).trans (mem_none_iff formed latency)
  obtain ⟨kept, bound⟩ := worst_isGreatest received (-1, "")
  have message := message_spec received (-1, "")
  unfold replyOf
  generalize received.foldl storeWorst (-1, "") = result at kept bound message ⊢
  obtain ⟨maxLatency, errMsg⟩ := result
  dsimp only at kept bound message ⊢
  by_cases none_ : maxLatency = -1
  · have silent : ∀ execute ∈ jobs, ∀ ns, ¬ Reports dryRunEnabled path execute ns := by
      intro execute member ns reported
      have low := bound (.inr ((succeeded _).mpr ⟨execute, member, ns, reported, rfl⟩))
      have positive := reports_nonneg (formed execute member) reported
      omega
    rw [if_pos none_]
    refine ⟨⟨nofun, ?_⟩, nofun, fun _ => ⟨rfl, unmarshal_createResponse (by decide) (by decide) path, ?_⟩⟩
    · rintro ⟨execute, member, ns, reported⟩
      exact absurd reported (silent execute member ns)
    · intro filled
      rcases message with ⟨res, member, is⟩ | ⟨fine, -⟩
      · obtain ⟨execute, listed, result⟩ := List.mem_map.mp ((mem_iff res).mp member)
        refine ⟨execute, listed, ?_⟩
        rcases getDiskPerf_cases jsonError (formed execute listed) with
          ⟨ns, -, reports, -⟩ | ⟨err, -, failed⟩
        · exact absurd ((reports ns).mpr rfl) (silent execute listed ns)
        · cases failed.symm.trans result
          rw [failed, Option.some.inj is]
      · -- The first job has failed, and its result has an error.
        obtain ⟨execute, rest, rfl⟩ := List.exists_cons_of_ne_nil filled
        rcases getDiskPerf_cases jsonError (formed execute List.mem_cons_self) with
          ⟨ns, -, reports, -⟩ | ⟨err, -, failed⟩
        · exact absurd ((reports ns).mpr rfl) (silent execute List.mem_cons_self ns)
        · have received := (mem_iff ⟨-1, some err⟩).mpr (by rw [← failed]; exact List.mem_cons_self)
          cases fine _ received
  · have member := kept.resolve_left none_
    obtain ⟨execute, listed, ns, reported, is⟩ := (succeeded maxLatency).mp member
    rw [if_neg none_]
    refine ⟨iff_of_true rfl ⟨execute, listed, ns, reported⟩, fun _ => ?_, nofun⟩
    have nonneg := reports_nonneg (formed execute listed) reported
    have small := reports_lt reported
    refine ⟨maxLatency, ⟨⟨execute, listed, ns, reported, is⟩, ?_⟩,
      unmarshal_createResponse (by omega) (by omega) path, rfl⟩
    rintro ms ⟨other, listed', ns', reported', rfl⟩
    exact bound (.inr ((succeeded _).mpr ⟨other, listed', ns', reported', rfl⟩))

end Replies

/-! ### Every interleaving -/

/-- What holds wherever the jobs and the loop have come to: nothing has panicked, every job that has not
ended can go on, and so can the whole until it has returned; the channel is closed only after every job
has reported. -/
structure Lively (step : FanIn.State FioCheckResponse → FanIn.Goroutine → FanIn.State FioCheckResponse → Prop)
    (numOfJobs : Nat) (s : FanIn.State FioCheckResponse) : Prop where
  calm : s.panicked = false
  unblocked : ∀ (i : Nat) (job : FanIn.Job FioCheckResponse), s.jobs[i]? = some job → job.pending = 1 →
    ∃ next, step s (.job i) next
  progress : s.parent = .returned ∨ Enabled step s
  closed : s.closed = true → s.jobs.length = numOfJobs ∧ ∀ job ∈ s.jobs, job.pending = 0

/-- **The worst successful sample, in any order of completion.** -/
theorem fioPerfCheck_worst (dryRunEnabled : Bool) (jsonError : String → String) (request path : String)
    (asked : unmarshalRequest request = some (some path)) (jobs : List Execute)
    (formed : ∀ execute ∈ jobs, WellFormed dryRunEnabled path execute) :
    (∀ s, Reachable (executeMultipleDiskPerf dryRunEnabled jsonError path jobs) FanIn.State.init s →
      Lively (executeMultipleDiskPerf dryRunEnabled jsonError path jobs) jobs.length s) ∧
    (∀ labels s,
      Run (executeMultipleDiskPerf dryRunEnabled jsonError path jobs) FanIn.State.init labels s →
      labels.length ≤ 5 * jobs.length + 4) ∧
    (∃ reply, FioPerfCheck dryRunEnabled jsonError request jobs reply) ∧
    ∀ reply, FioPerfCheck dryRunEnabled jsonError request jobs reply →
      Worst dryRunEnabled jsonError path jobs reply := by
  obtain ⟨responses, all⟩ := exists_responses jsonError formed
  have count : jobs.length = responses.length := by
    have same := congrArg List.length all
    rwa [List.length_map, List.length_map] at same
  have returns_iff (reply : Reply) : FioPerfCheck dryRunEnabled jsonError request jobs reply ↔
      ∃ s, Reachable (executeMultipleDiskPerf dryRunEnabled jsonError path jobs) FanIn.State.init s ∧
        s.parent = .returned ∧ reply = replyOf path s.received := by
    constructor
    · rintro (err | err | ⟨asked', reach, returned⟩)
      · cases asked.symm.trans err
      · cases asked.symm.trans err
      · cases asked.symm.trans asked'
        exact ⟨_, reach, returned, rfl⟩
    · rintro ⟨s, reach, returned, rfl⟩
      exact .checked asked reach returned
  simp only [returns_iff, executeMultipleDiskPerf]
  rw [all]
  have room : responses.length ≤ jobs.length := count.ge
  refine ⟨?_, ?_, ?_, ?_⟩
  · intro s reach
    have inv := FanIn.State.Inv.of_reachable reach
    refine ⟨inv.calm, fun i job at_ pending => inv.job_enabled room at_ pending, inv.progress room, ?_⟩
    intro closed
    rw [count]
    exact inv.done_of_closed closed
  · intro labels s run
    rw [count]
    exact FanIn.length_le run
  · obtain ⟨s, reach, returned⟩ := FanIn.exists_returned room
    exact ⟨_, s, reach, returned, rfl⟩
  · rintro reply ⟨s, reach, returned, rfl⟩
    exact worst_of_perm formed all ((FanIn.State.Inv.of_reachable reach).perm_of_returned returned)

/-! ### A failure and two successes -/

def sampleRequest : String := "\x7b\"path\":\"/dev/sda\"\x7d"

/-- A report with this many nanoseconds. -/
def sampleReport (ns : String) : String :=
  "\x7b\"jobs\":[\x7b\"sync\":\x7b\"lat_ns\":\x7b\"percentile\":\x7b\"99.000000\":" ++ ns ++
    "\x7d\x7d\x7d\x7d]\x7d"

theorem unmarshal_samples :
    unmarshalRequest sampleRequest = some (some "/dev/sda") ∧
      unmarshalFio (sampleReport "900000") = some [900000] ∧
      unmarshalFio (sampleReport "5300000") = some [5300000] := by
  decide +kernel

def failedRun : Execute := fun _ _ => ("", "busy", 1)

def sampleRun (ns : String) : Execute := fun _ _ => (sampleReport ns, "", 0)

def sampleRuns : List Execute := [sampleRun "5300000", failedRun, sampleRun "900000"]

theorem sampleRun_reports {text : String} {ns : Int} (decoded : unmarshalFio (sampleReport text) = some [ns])
    {ns' : Int} : Reports false "/dev/sda" (sampleRun text) ns' ↔ ns' = ns := by
  constructor
  · rintro ⟨-, stdout, stderr, rest, answer, decoded'⟩
    cases answer
    rw [decoded] at decoded'
    cases decoded'
    rfl
  · rintro rfl
    exact ⟨by decide, sampleReport text, "", [], rfl, decoded⟩

theorem samples_formed : ∀ execute ∈ sampleRuns, WellFormed false "/dev/sda" execute := by
  intro execute member _ _ stdout stderr latencies answer decoded
  simp only [sampleRuns, List.mem_cons, List.not_mem_nil, or_false] at member
  rcases member with rfl | rfl | rfl
  · cases answer
    rw [unmarshal_samples.2.2] at decoded
    cases decoded
    exact ⟨5300000, [], rfl, by decide⟩
  · cases answer
  · cases answer
    rw [unmarshal_samples.2.1] at decoded
    cases decoded
    exact ⟨900000, [], rfl, by decide⟩

/-- Of 5.3 ms, a failure and 0.9 ms, in any order, 5 ms are reported. -/
theorem fioPerfCheck_worst_sample :
    (∃ reply, FioPerfCheck false (fun _ => "") sampleRequest sampleRuns reply) ∧
      ∀ reply, FioPerfCheck false (fun _ => "") sampleRequest sampleRuns reply →
        reply.exitCode = 0 ∧ unmarshalResponse reply.stdout = some (5, "/dev/sda") ∧ reply.stderr = "" := by
  obtain ⟨-, -, returns, worst⟩ := fioPerfCheck_worst false (fun _ => "") sampleRequest
    "/dev/sda" unmarshal_samples.1 sampleRuns samples_formed
  refine ⟨returns, fun reply returned => ?_⟩
  have slow := (sampleRun_reports unmarshal_samples.2.2).mpr rfl
  have first : sampleRun "5300000" ∈ sampleRuns := List.mem_cons_self
  have exit := (worst reply returned).exitCode.mpr ⟨_, first, _, slow⟩
  obtain ⟨ms, ⟨⟨execute, member, ns, reported, is⟩, bound⟩, stdout, stderr⟩ :=
    (worst reply returned).success exit
  have least : 5 ≤ ms := bound ⟨_, first, _, slow, by decide⟩
  have five : ms = 5 := by
    simp only [sampleRuns, List.mem_cons, List.not_mem_nil, or_false] at member
    rcases member with rfl | rfl | rfl
    · rw [(sampleRun_reports unmarshal_samples.2.2).mp reported] at is
      exact is
    · obtain ⟨-, _, _, _, answer, -⟩ := reported
      cases answer
    · rw [(sampleRun_reports unmarshal_samples.2.1).mp reported] at is
      omega
  exact ⟨exit, five ▸ stdout, stderr⟩

end AssistedAgent.DiskSpeedCheck
