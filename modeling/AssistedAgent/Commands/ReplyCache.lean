/-
**The reply cache of the step processor, and the calls of `sendStepReply` one after another.**

`sendStepReply` keeps, per step type, the output of the last successful reply that the service
accepted, and does not post a successful reply whose output is the cached one. The functions of
`reply_cache.go` and `sendStepReply` itself are below; log lines are left out.

* `Session` — the cache together with what the service has accepted so far, newest first. The
  service is outside the program; it is seen through the error (or none) that `PostStepReply`
  returns.
* `Event`, `Session.step` — one call of `sendStepReply` with the service's answer, a failed
  `GetNextSteps` (which flushes the cache), or the expiry of an entry. A sequential run is a run of
  this machine.
* **`suppressed_last_accepted`** — along every run in which no failure of a step type is accepted
  while that type has a cache entry, a suppressed reply repeats the last accepted reply of its type.
* `suppressed_after_failure` — the condition cannot be dropped: a failure accepted over a cache
  entry leaves the service with the failure, and the next success is not sent.
-/

import AssistedAgent.Lib.Transition
import Mathlib.Logic.Function.Basic

namespace AssistedAgent.Commands

open Transition

/-! ### Replies and the cache -/

/-- `models.StepType`, an open string type: the service may send a type the agent does not know. -/
abbrev StepType := String

/-- `models.StepReply`. -/
structure StepReply where
  error : String
  exitCode : Int
  output : String
  stepID : String
  stepType : StepType
deriving DecidableEq, Repr

/-- The live entries of the `go-cache` store. An expired entry is one that `Get` no longer finds, so
expiry removes it. -/
structure Cache where
  items : String → Option String

def Cache.get (c : Cache) (k : String) : Option String := c.items k

def Cache.set (c : Cache) (k x : String) : Cache := ⟨Function.update c.items k (some x)⟩

def Cache.flush (_ : Cache) : Cache := ⟨fun _ => none⟩

/-- The entry of a key has reached its expiration. -/
def Cache.expire (c : Cache) (k : String) : Cache := ⟨Function.update c.items k none⟩

@[simp] theorem Cache.get_set (c : Cache) (k x key : String) :
    (c.set k x).get key = if key = k then some x else c.get key := by
  simp [Cache.get, Cache.set, Function.update_apply]

@[simp] theorem Cache.get_expire (c : Cache) (k key : String) :
    (c.expire k).get key = if key = k then none else c.get key := by
  simp [Cache.get, Cache.expire, Function.update_apply]

def newCache : Cache := ⟨fun _ => none⟩

def alreadyExistsInService (c : Cache) (stepType : StepType) (value : String) : Bool :=
  match c.get stepType with
  | some storedValue => storedValue == value
  | none => false

def storeInCache (c : Cache) (stepType : StepType) (value : String) : Cache := c.set stepType value

def invalidateCache (c : Cache) : Cache := c.flush

@[simp] theorem alreadyExistsInService_iff (c : Cache) (stepType : StepType) (value : String) :
    alreadyExistsInService c stepType value = true ↔ c.get stepType = some value := by
  unfold alreadyExistsInService
  cases c.get stepType <;> simp

/-! ### `sendStepReply` -/

/-- The errors of `PostStepReply` that `sendStepReply` tells apart (for its log line only). -/
inductive PostError
  | unauthorized
  | forbidden
  | other (message : String)
deriving DecidableEq, Repr

/-- What one call of `sendStepReply` did. -/
inductive Sent
  | suppressed
  | posted (err : Option PostError)
deriving DecidableEq, Repr

/-- The part of a `stepSession` that replies change, with the replies the service has accepted,
newest first. -/
structure Session where
  stepCache : Cache
  accepted : List StepReply

def newSession : Session := ⟨newCache, []⟩

/-- `sendStepReply`, given what `PostStepReply` answers if it is called. -/
def sendStepReply (s : Session) (reply : StepReply) (postStepReply : Option PostError) :
    Session × Sent :=
  if reply.exitCode = 0 ∧ alreadyExistsInService s.stepCache reply.stepType reply.output then
    (s, .suppressed)
  else
    match postStepReply with
    | some err => (s, .posted (some err))
    | none =>
      let accepted := reply :: s.accepted
      if reply.exitCode = 0 then
        (⟨storeInCache s.stepCache reply.stepType reply.output, accepted⟩, .posted none)
      else
        (⟨s.stepCache, accepted⟩, .posted none)

/-- The reply is not sent: `alreadyExistsInService` answered true for a successful one. -/
def Suppressed (s : Session) (reply : StepReply) : Prop :=
  reply.exitCode = 0 ∧ s.stepCache.get reply.stepType = some reply.output

theorem sendStepReply_suppressed {s : Session} {reply : StepReply} (h : Suppressed s reply)
    (answer : Option PostError) : sendStepReply s reply answer = (s, .suppressed) := by
  unfold sendStepReply
  rw [if_pos ⟨h.1, (alreadyExistsInService_iff _ _ _).mpr h.2⟩]

theorem sendStepReply_rejected {s : Session} {reply : StepReply} (h : ¬ Suppressed s reply)
    (err : PostError) : sendStepReply s reply (some err) = (s, .posted (some err)) := by
  unfold sendStepReply
  rw [if_neg fun both => h ⟨both.1, (alreadyExistsInService_iff _ _ _).mp both.2⟩]

theorem sendStepReply_accepted {s : Session} {reply : StepReply} (h : ¬ Suppressed s reply) :
    sendStepReply s reply none =
      (⟨if reply.exitCode = 0 then storeInCache s.stepCache reply.stepType reply.output
        else s.stepCache, reply :: s.accepted⟩, .posted none) := by
  unfold sendStepReply
  rw [if_neg fun both => h ⟨both.1, (alreadyExistsInService_iff _ _ _).mp both.2⟩]
  by_cases success : reply.exitCode = 0
  · simp only [if_pos success]
  · simp only [if_neg success]

theorem mem_accepted_sendStepReply {s : Session} {reply other : StepReply} {answer : Option PostError}
    (mem : other ∈ (sendStepReply s reply answer).1.accepted) : other = reply ∨ other ∈ s.accepted := by
  by_cases h : Suppressed s reply
  · rw [sendStepReply_suppressed h] at mem
    exact .inr mem
  · cases answer with
    | some err =>
      rw [sendStepReply_rejected h] at mem
      exact .inr mem
    | none =>
      rw [sendStepReply_accepted h] at mem
      exact List.mem_cons.mp mem

/-- **Exactly the suppressed replies are not posted.** -/
theorem sendStepReply_eq_suppressed_iff (s : Session) (reply : StepReply)
    (answer : Option PostError) :
    (sendStepReply s reply answer).2 = .suppressed ↔ Suppressed s reply := by
  by_cases h : Suppressed s reply
  · rw [sendStepReply_suppressed h]
    exact ⟨fun _ => h, fun _ => rfl⟩
  · have posted : (sendStepReply s reply answer).2 ≠ .suppressed := by
      cases answer with
      | some err => simp [sendStepReply_rejected h]
      | none => simp [sendStepReply_accepted h]
    exact ⟨fun sent => (posted sent).elim, fun sent => (h sent).elim⟩

/-! ### Sequential runs -/

/-- What happens between two polls of a session, one event at a time. -/
inductive Event
  | reply (reply : StepReply) (answer : Option PostError)
  | getNextStepsFailed
  | expired (stepType : StepType)
deriving DecidableEq, Repr

def Session.step (s : Session) : Event → Session
  | .reply reply answer => (sendStepReply s reply answer).1
  | .getNextStepsFailed => { s with stepCache := invalidateCache s.stepCache }
  | .expired stepType => { s with stepCache := s.stepCache.expire stepType }

/-- The last reply of a step type that the service accepted. -/
def lastAccepted (accepted : List StepReply) (stepType : StepType) : Option StepReply :=
  accepted.find? fun reply => reply.stepType = stepType

@[simp] theorem lastAccepted_cons (reply : StepReply) (accepted : List StepReply)
    (stepType : StepType) :
    lastAccepted (reply :: accepted) stepType =
      if reply.stepType = stepType then some reply else lastAccepted accepted stepType := by
  by_cases same : reply.stepType = stepType <;> simp [lastAccepted, same]

/-- The condition on a step: no failure of a step type is accepted while the type has an entry. -/
def NoFailureOverEntry (s : Session) : Event → Prop
  | .reply reply none => reply.exitCode ≠ 0 → s.stepCache.get reply.stepType = none
  | _ => True

/-- Every cache entry is the output of the last accepted reply of its type, a successful one. -/
def EntriesAreLast (s : Session) : Prop :=
  ∀ stepType value, s.stepCache.get stepType = some value →
    ∃ last, lastAccepted s.accepted stepType = some last ∧ last.exitCode = 0 ∧ last.output = value

theorem entriesAreLast_newSession : EntriesAreLast newSession := by
  intro stepType value found
  cases found

/-- **One step keeps the entries current**, if it accepts no failure over an entry. -/
theorem entriesAreLast_step {s : Session} (inv : EntriesAreLast s) (event : Event)
    (guard : NoFailureOverEntry s event) : EntriesAreLast (s.step event) := by
  cases event with
  | getNextStepsFailed =>
    intro stepType value found
    cases found
  | expired gone =>
    intro stepType value found
    simp only [Session.step, Cache.get_expire] at found
    split at found
    · cases found
    · exact inv stepType value found
  | reply reply answer =>
    by_cases h : Suppressed s reply
    · simp only [Session.step, sendStepReply_suppressed h]
      exact inv
    cases answer with
    | some err =>
      simp only [Session.step, sendStepReply_rejected h]
      exact inv
    | none =>
      simp only [Session.step, sendStepReply_accepted h]
      intro stepType value found
      by_cases success : reply.exitCode = 0
      · simp only [if_pos success, storeInCache, Cache.get_set] at found
        by_cases same : stepType = reply.stepType
        · rw [if_pos same] at found
          cases found
          exact ⟨reply, by simp [same], success, rfl⟩
        · rw [if_neg same] at found
          obtain ⟨last, isLast, rest⟩ := inv stepType value found
          exact ⟨last, by simp [Ne.symm same, isLast], rest⟩
      · simp only [if_neg success] at found
        -- the failed reply has no entry of its type, so the entry found is of another one
        have other : reply.stepType ≠ stepType := by
          intro same
          have none := guard success
          rw [same, found] at none
          cases none
        obtain ⟨last, isLast, rest⟩ := inv stepType value found
        exact ⟨last, by simp [other, isLast], rest⟩

theorem entriesAreLast_of_reachable {s : Session}
    (reach : Reachable (guarded NoFailureOverEntry (ofTotal Session.step)) newSession s) :
    EntriesAreLast s := by
  refine reach.invariant entriesAreLast_newSession ?_
  rintro s event next inv ⟨guard, rfl⟩
  exact entriesAreLast_step inv event guard

/-- **A suppressed reply repeats the last accepted reply of its type**, along every run in which no
failure of a type is accepted while the type has a cache entry. -/
theorem suppressed_last_accepted {s : Session}
    (reach : Reachable (guarded NoFailureOverEntry (ofTotal Session.step)) newSession s)
    (reply : StepReply) (answer : Option PostError)
    (suppressed : (sendStepReply s reply answer).2 = .suppressed) :
    ∃ last, lastAccepted s.accepted reply.stepType = some last ∧ last.exitCode = 0 ∧
      last.output = reply.output := by
  have h := (sendStepReply_eq_suppressed_iff s reply answer).mp suppressed
  exact entriesAreLast_of_reachable reach reply.stepType reply.output h.2

/-- A reply of the type `t` with the given exit code and output. -/
def replyOf (stepType : StepType) (exitCode : Int) (output : String) : StepReply :=
  { error := "", exitCode, output, stepID := "", stepType }

theorem suppressed_last_accepted_inventory :
    ∃ last, lastAccepted [replyOf "inventory" 0 "cpus: 8"] "inventory" = some last ∧
      last.exitCode = 0 ∧ last.output = "cpus: 8" := by
  let s := newSession.step (.reply (replyOf "inventory" 0 "cpus: 8") none)
  have reach : Reachable (guarded NoFailureOverEntry (ofTotal Session.step)) newSession s :=
    ⟨[.reply (replyOf "inventory" 0 "cpus: 8") none],
      Run.single ⟨fun failed => absurd rfl failed, rfl⟩⟩
  exact suppressed_last_accepted reach (replyOf "inventory" 0 "cpus: 8") none (by decide)

/-- **A failure accepted over an entry hides the next success.** From any session, the reply that
repeats the entry is suppressed although the service saw the failure last. -/
theorem suppressed_after_failure (s : Session) (failure : StepReply) (value : String)
    (failed : failure.exitCode ≠ 0) (entry : s.stepCache.get failure.stepType = some value) :
    let next := s.step (.reply failure none)
    lastAccepted next.accepted failure.stepType = some failure ∧
      ∀ answer, (sendStepReply next (replyOf failure.stepType 0 value) answer).2 = .suppressed := by
  have sent : ¬ Suppressed s failure := fun h => failed h.1
  simp only [Session.step, sendStepReply_accepted sent, if_neg failed]
  refine ⟨by simp, fun answer => ?_⟩
  exact (sendStepReply_eq_suppressed_iff _ _ answer).mpr ⟨rfl, entry⟩

/-- **A success after an accepted failure may stay unsent**: the service keeps the failure as the
last reply of the type. -/
theorem success_after_failure_unsent :
    ¬ ∀ s : Session, Reachable (ofTotal Session.step) newSession s →
      ∀ (reply : StepReply) (answer : Option PostError),
        (sendStepReply s reply answer).2 = .suppressed →
          ∃ last, lastAccepted s.accepted reply.stepType = some last ∧ last.exitCode = 0 ∧
            last.output = reply.output := by
  intro always
  let first := newSession.step (.reply (replyOf "inventory" 0 "cpus: 8") none)
  let second := first.step (.reply (replyOf "inventory" 1 "") none)
  have reach : Reachable (ofTotal Session.step) newSession second :=
    ⟨_, .cons rfl (.cons rfl (.nil second))⟩
  obtain ⟨last, isLast, success, -⟩ :=
    always second reach (replyOf "inventory" 0 "cpus: 8") none (by decide)
  have failure : lastAccepted second.accepted "inventory" = some (replyOf "inventory" 1 "") := by
    decide
  rw [show (replyOf "inventory" 0 "cpus: 8").stepType = "inventory" from rfl, failure] at isLast
  cases isLast
  exact absurd success (by decide)

end AssistedAgent.Commands
