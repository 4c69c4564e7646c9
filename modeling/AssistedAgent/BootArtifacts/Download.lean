/-
**The attempts of one download.**

`download` asks for the artifact until a response is in the 200s, at most `retry` times. An attempt
without a response is handled like one with a bad status: the message of its error reads the status
code of a nil response.

* `downloadTrace_first`, `downloadTrace_failed` — where the loop ends, and how many requests it sends.
* **`download_handles_iff`** — a download handles the outcomes of its attempts exactly when each
  attempt that it makes has a response.
* `download_refused` — a server that is down for a moment ends the process.
-/

import Mathlib.Data.Nat.Find
import AssistedAgent.BootArtifacts.AllOrNothing

namespace AssistedAgent.BootArtifacts

open GoPath

/-! ### Outcomes of an attempt -/

def Response.isTransportError : Response → Bool
  | .transportError _ => true
  | .response _ _ => false

/-- A status in the 200s. -/
def Response.isSuccess : Response → Bool
  | .transportError _ => false
  | .response statusCode _ => decide (200 ≤ statusCode ∧ statusCode < 300)

/-- A response that is asked for again. -/
def Response.isBadStatus (r : Response) : Bool := ! r.isTransportError && ! r.isSuccess

theorem Response.isBadStatus_of {r : Response} (answered : r.isTransportError = false)
    (bad : r.isSuccess = false) : r.isBadStatus = true := by
  rw [isBadStatus, answered, bad]
  rfl

section Attempts

variable (o : Outside) (a : Artifact)

/-- The number of requests of a download. -/
def requests (url : String) (retry : Nat) : Nat := (downloadTrace o a url retry retry 0 none).2

/-- What the loop ends with at a response that it does not ask for again. -/
def Response.got : Response → Got
  | .transportError _ => .panicked
  | .response _ body => .body body

variable {o a}

theorem downloadTrace_ends {attempts : Nat} (ends : (o.get a attempts).isBadStatus = false)
    (url : String) (retry left : Nat) (err : Option String) :
    downloadTrace o a url retry (left + 1) attempts err = ((o.get a attempts).got, 1) := by
  rw [downloadTrace]
  cases answer : o.get a attempts with
  | transportError err => rfl
  | response statusCode body =>
    have success : 200 ≤ statusCode ∧ statusCode < 300 := by
      simpa [answer, Response.isBadStatus, Response.isTransportError, Response.isSuccess] using ends
    dsimp only
    rw [if_pos success]
    rfl

theorem downloadTrace_again {attempts : Nat} (bad : (o.get a attempts).isBadStatus = true)
    (url : String) (retry left : Nat) (err : Option String) :
    ∃ err', downloadTrace o a url retry (left + 1) attempts err =
      ((downloadTrace o a url retry left (attempts + 1) (some err')).1,
        (downloadTrace o a url retry left (attempts + 1) (some err')).2 + 1) := by
  rw [downloadTrace]
  cases answer : o.get a attempts with
  | transportError err =>
    rw [answer] at bad
    cases bad
  | response statusCode body =>
    have failure : ¬ (200 ≤ statusCode ∧ statusCode < 300) := by
      rw [answer, Response.isBadStatus, Bool.and_eq_true, Bool.not_eq_true', Bool.not_eq_true',
        Response.isSuccess] at bad
      exact of_decide_eq_false bad.2
    dsimp only
    rw [if_neg failure]
    exact ⟨_, rfl⟩

/-- **The loop ends at the first response that is not asked for again.** -/
theorem downloadTrace_first (url : String) (retry : Nat) {k left : Nat} (within : k < left)
    {attempts : Nat} (before : ∀ j < k, (o.get a (attempts + j)).isBadStatus = true)
    (ends : (o.get a (attempts + k)).isBadStatus = false) (err : Option String) :
    downloadTrace o a url retry left attempts err = ((o.get a (attempts + k)).got, k + 1) := by
  induction k generalizing left attempts err with
  | zero =>
    obtain ⟨left, rfl⟩ := Nat.exists_eq_succ_of_ne_zero (Nat.ne_of_gt within)
    exact downloadTrace_ends ends url retry left err
  | succ k ih =>
    obtain ⟨left, rfl⟩ := Nat.exists_eq_succ_of_ne_zero (Nat.ne_of_gt (Nat.zero_lt_of_lt within))
    have bad : (o.get a attempts).isBadStatus = true := before 0 k.succ_pos
    obtain ⟨err', again⟩ := downloadTrace_again bad url retry left err
    have shift : ∀ j, attempts + (j + 1) = attempts + 1 + j := fun j => by omega
    have rest := ih (Nat.lt_of_succ_lt_succ within)
      (fun j less => shift j ▸ before (j + 1) (Nat.succ_lt_succ less)) (shift k ▸ ends) (some err')
    rw [again, rest, shift k]

/-- **A loop in which every response is asked for again** ends with an error. -/
theorem downloadTrace_failed (url : String) (retry : Nat) {left attempts : Nat}
    (bad : ∀ j < left, (o.get a (attempts + j)).isBadStatus = true) (err : String) :
    ∃ err', downloadTrace o a url retry left attempts (some err) = (.failed err', left) := by
  induction left generalizing attempts err with
  | zero => exact ⟨err, rfl⟩
  | succ left ih =>
    have first : (o.get a attempts).isBadStatus = true := bad 0 left.succ_pos
    obtain ⟨err', again⟩ := downloadTrace_again first url retry left (some err)
    have shift : ∀ j, attempts + (j + 1) = attempts + 1 + j := fun j => by omega
    obtain ⟨last, rest⟩ := ih (fun j less => shift j ▸ bad (j + 1) (Nat.succ_lt_succ less)) err'
    exact ⟨last, by rw [again, rest]⟩

end Attempts

/-! ### Which outcomes are handled -/

section Handles

variable (o : Outside) (files : Files) (a : Artifact) (url : String) (retry : Nat)

/-- The first attempt with a status in the 200s. -/
def FirstSuccess (k : Nat) : Prop :=
  (o.get a k).isSuccess = true ∧ ∀ j < k, (o.get a j).isSuccess = false

/-- Every attempt up to the first with a status in the 200s has a response. -/
def Answered : Prop :=
  ∀ k < retry, (∀ j < k, (o.get a j).isSuccess = false) → (o.get a k).isTransportError = false

/-- The body of the first success can be read and written. -/
def Fetched (body : Bytes) : Prop :=
  ∃ k < retry, FirstSuccess o a k ∧ (o.get a k).got = .body (.ok body) ∧ o.write a = .done

/-- What is expected of a download: it returns, it sends no request after the first success, it
returns nil exactly when the body of that success was read and written, and then the file holds it. -/
structure Handles : Prop where
  returns : (download o files a url retry).2 = .done ∨ ∃ err, (download o files a url retry).2 = .failed err
  stops : ∀ k < retry, FirstSuccess o a k → requests o a url retry = k + 1
  bounded : requests o a url retry ≤ retry
  nil_iff : (download o files a url retry).2 = .done ↔ ∃ body, Fetched o a retry body
  content : ∀ body, Fetched o a retry body →
    (download o files a url retry).1 (tempPath a) = some body

variable {o a retry}

theorem FirstSuccess.unique {k k' : Nat} (first : FirstSuccess o a k) (first' : FirstSuccess o a k') :
    k = k' := by
  rcases Nat.lt_trichotomy k k' with less | same | greater
  · exact absurd first.1 (Bool.eq_false_iff.mp (first'.2 k less))
  · exact same
  · exact absurd first'.1 (Bool.eq_false_iff.mp (first.2 k' greater))

theorem Answered.isBadStatus (answered : Answered o a retry) {k : Nat} (within : k < retry)
    (bad : ∀ j ≤ k, (o.get a j).isSuccess = false) : (o.get a k).isBadStatus = true :=
  Response.isBadStatus_of (answered k within fun j less => bad j (Nat.le_of_lt less))
    (bad k (Nat.le_refl k))

/-- The loop under answered attempts, with a success. -/
theorem trace_of_success (answered : Answered o a retry) {k : Nat} (within : k < retry)
    (first : FirstSuccess o a k) :
    downloadTrace o a url retry retry 0 none = ((o.get a k).got, k + 1) := by
  have before : ∀ j < k, (o.get a (0 + j)).isBadStatus = true := by
    intro j less
    rw [Nat.zero_add]
    exact answered.isBadStatus (Nat.lt_trans less within) fun i most =>
      first.2 i (Nat.lt_of_le_of_lt most less)
  have ends : (o.get a (0 + k)).isBadStatus = false := by
    rw [Nat.zero_add, Response.isBadStatus, first.1]
    exact Bool.and_false _
  rw [downloadTrace_first url retry within before ends, Nat.zero_add]

/-- The loop under answered attempts, without one. -/
theorem trace_of_failure (answered : Answered o a retry) (positive : 0 < retry)
    (failing : ∀ k < retry, (o.get a k).isSuccess = false) :
    ∃ err, downloadTrace o a url retry retry 0 none = (.failed err, retry) := by
  have bad : ∀ k < retry, (o.get a k).isBadStatus = true := fun k within =>
    Response.isBadStatus_of (answered k within fun j less => failing j (Nat.lt_trans less within))
      (failing k within)
  obtain ⟨left, rfl⟩ := Nat.exists_eq_succ_of_ne_zero (Nat.ne_of_gt positive)
  obtain ⟨err, again⟩ := downloadTrace_again (bad 0 positive) url (left + 1) left none
  obtain ⟨last, rest⟩ := downloadTrace_failed (o := o) (a := a) url (left + 1)
    (fun j less => Nat.add_comm 1 j ▸ bad (j + 1) (Nat.succ_lt_succ less)) err
  exact ⟨last, by rw [again, rest]⟩

/-- A download ends as its loop does, and then reads and writes. -/
theorem download_of_trace {got : Got} {n : Nat}
    (trace : downloadTrace o a url retry retry 0 none = (got, n)) :
    requests o a url retry = n ∧ downloadLoop o a url retry = got := by
  rw [requests, downloadLoop, trace]
  exact ⟨rfl, rfl⟩

theorem exists_firstSuccess_or (o : Outside) (a : Artifact) (retry : Nat) :
    (∃ k < retry, FirstSuccess o a k) ∨ ∀ k < retry, (o.get a k).isSuccess = false := by
  by_cases found : ∃ k, k < retry ∧ (o.get a k).isSuccess = true
  · obtain ⟨within, success⟩ := Nat.find_spec found
    refine Or.inl ⟨Nat.find found, within, success, fun j less => ?_⟩
    have earlier := Nat.find_min found less
    exact Bool.eq_false_iff.mpr fun success => earlier ⟨Nat.lt_trans less within, success⟩
  · refine Or.inr fun k within => Bool.eq_false_iff.mpr fun success => found ⟨k, within, success⟩

/-- A download that fails, when there is nothing to fetch. -/
theorem handles_of_failed {left : Files} {err : String}
    (ended : download o files a url retry = (left, .failed err))
    (stops : ∀ k < retry, FirstSuccess o a k → requests o a url retry = k + 1)
    (bounded : requests o a url retry ≤ retry) (unfetched : ∀ body, ¬ Fetched o a retry body) :
    Handles o files a url retry := by
  refine ⟨Or.inr ⟨err, congrArg Prod.snd ended⟩, stops, bounded, ?_,
    fun body fetched => absurd fetched (unfetched body)⟩
  rw [ended]
  constructor
  · intro done
    cases done
  · rintro ⟨body, fetched⟩
    exact absurd fetched (unfetched body)

theorem handles_of_success (answered : Answered o a retry) {k : Nat} (within : k < retry)
    (first : FirstSuccess o a k) : Handles o files a url retry := by
  obtain ⟨sent, loop⟩ := download_of_trace url (trace_of_success url answered within first)
  have only : ∀ body, Fetched o a retry body ↔
      (o.get a k).got = .body (.ok body) ∧ o.write a = .done := by
    intro body
    constructor
    · rintro ⟨k', -, first', got, written⟩
      rw [first.unique first']
      exact ⟨got, written⟩
    · rintro ⟨got, written⟩
      exact ⟨k, within, first, got, written⟩
  have stops : ∀ k' < retry, FirstSuccess o a k' → requests o a url retry = k' + 1 := by
    intro k' _ first'
    rw [sent, first.unique first']
  have bounded : requests o a url retry ≤ retry := sent ▸ within
  -- What is left of the download is the read and the write of this body.
  cases answer : o.get a k with
  | transportError err =>
    rw [FirstSuccess, answer] at first
    cases first.1
  | response statusCode body =>
    rw [answer] at loop only
    cases body with
    | error err =>
      have ended : download o files a url retry =
          (files, .failed ("failed to read body while getting url " ++ url ++ ": " ++ err)) := by
        rw [download, loop]
        rfl
      refine handles_of_failed files url ended stops bounded fun body fetched => ?_
      cases ((only body).mp fetched).1
    | ok body =>
      have ended : download o files a url retry = writeFile files (tempPath a) body (o.write a)
          ("failed writing file " ++ (tempPath a).text) := by
        rw [download, loop]
        rfl
      cases write : o.write a with
      | done =>
        rw [write] at ended only
        refine ⟨Or.inl (congrArg Prod.snd ended), stops, bounded, ?_, ?_⟩
        · rw [ended]
          exact ⟨fun _ => ⟨body, (only body).mpr ⟨rfl, rfl⟩⟩, fun _ => rfl⟩
        · intro body' fetched
          cases ((only body').mp fetched).1
          rw [ended]
          exact setFile_same _ _ _
      | failed err left =>
        rw [write] at ended only
        refine handles_of_failed files url ended stops bounded fun body fetched => ?_
        cases ((only body).mp fetched).2

theorem handles_of_failure (answered : Answered o a retry) (positive : 0 < retry)
    (failing : ∀ k < retry, (o.get a k).isSuccess = false) : Handles o files a url retry := by
  obtain ⟨err, trace⟩ := trace_of_failure url answered positive failing
  obtain ⟨sent, loop⟩ := download_of_trace url trace
  have ended : download o files a url retry = (files, .failed ("failed getting " ++ url ++ ": " ++ err)) := by
    rw [download, loop]
  have unsuccessful : ∀ k < retry, ¬ FirstSuccess o a k := by
    intro k within first
    exact absurd first.1 (Bool.eq_false_iff.mp (failing k within))
  refine handles_of_failed files url ended (fun k within first => absurd first (unsuccessful k within))
    (Nat.le_of_eq sent) ?_
  rintro body ⟨k, within, first, -⟩
  exact absurd first (unsuccessful k within)

/-- An attempt without a response ends the process. -/
theorem download_panicked {k : Nat} (within : k < retry)
    (bad : ∀ j < k, (o.get a j).isBadStatus = true) (lost : (o.get a k).isTransportError = true) :
    download o files a url retry = (files, .panicked) := by
  have ends : (o.get a (0 + k)).isBadStatus = false := by
    rw [Nat.zero_add, Response.isBadStatus, lost]
    rfl
  have trace := downloadTrace_first url retry within (fun j less => by rw [Nat.zero_add]; exact bad j less)
    ends none
  have got : (o.get a (0 + k)).got = .panicked := by
    rw [Nat.zero_add]
    cases answer : o.get a k with
    | transportError err => rfl
    | response statusCode body =>
      rw [answer] at lost
      cases lost
  rw [download, (download_of_trace url trace).2, got]

/-- Attempts that are not all answered have a first one that is not. -/
theorem exists_lost_of_not_answered (unanswered : ¬ Answered o a retry) :
    ∃ k < retry, (∀ j < k, (o.get a j).isBadStatus = true) ∧ (o.get a k).isTransportError = true := by
  have found : ∃ k, k < retry ∧ (∀ j < k, (o.get a j).isSuccess = false) ∧
      (o.get a k).isTransportError = true := by
    rw [Answered] at unanswered
    push Not at unanswered
    obtain ⟨k, within, bad, lost⟩ := unanswered
    exact ⟨k, within, bad, Bool.not_eq_false _ ▸ lost⟩
  obtain ⟨within, bad, lost⟩ := Nat.find_spec found
  refine ⟨Nat.find found, within, fun j less => ?_, lost⟩
  refine Response.isBadStatus_of (Bool.eq_false_iff.mpr fun lost => ?_) (bad j less)
  exact Nat.find_min found less
    ⟨Nat.lt_trans less within, fun i less' => bad i (Nat.lt_trans less' less), lost⟩

/-- **The outcomes of the attempts are handled exactly when each attempt that is made is answered.** -/
theorem download_handles_iff (positive : 0 < retry) :
    Handles o files a url retry ↔ Answered o a retry := by
  constructor
  · intro handles
    by_contra unanswered
    obtain ⟨k, within, bad, lost⟩ := exists_lost_of_not_answered unanswered
    have returns := handles.returns
    rw [download_panicked files url within bad lost] at returns
    rcases returns with done | ⟨err, failed⟩
    · cases done
    · cases failed
  · intro answered
    rcases exists_firstSuccess_or o a retry with ⟨k, within, first⟩ | failing
    · exact handles_of_success files url answered within first
    · exact handles_of_failure files url answered positive failing

end Handles

/-- A server that answers the attempts to get the kernel in turn. -/
def serverOutside (answers : Nat → Response) : Outside :=
  { plainOutside (fun _ => wholeCopy) with get := fun _ => answers }

/-- The service is not ready at the first attempt. -/
def readyLater : Nat → Response
  | 0 => .response 503 (.ok [])
  | _ => .response 200 (.ok [1, 2, 3])

theorem download_handles_ready :
    Handles (serverOutside readyLater) (fun _ => none) .kernel "http://service/kernel" 5 ↔
      Answered (serverOutside readyLater) .kernel 5 :=
  download_handles_iff _ _ (by decide)

/-- The connection is refused at the first attempt. -/
def refusedFirst : Nat → Response
  | 0 => .transportError "connection refused"
  | _ => .response 200 (.ok [1, 2, 3])

/-- **One refused connection** ends the process, although the next attempt would succeed. -/
theorem download_refused :
    (download (serverOutside refusedFirst) (fun _ => none) .kernel "http://service/kernel" 5).2 =
        .panicked ∧
      ¬ Handles (serverOutside refusedFirst) (fun _ => none) .kernel "http://service/kernel" 5 := by
  have panicked : (download (serverOutside refusedFirst) (fun _ => none) .kernel
      "http://service/kernel" 5).2 = .panicked := rfl
  refine ⟨panicked, fun handles => ?_⟩
  have returns := handles.returns
  rw [panicked] at returns
  rcases returns with done | ⟨err, failed⟩
  · cases done
  · cases failed

end AssistedAgent.BootArtifacts
