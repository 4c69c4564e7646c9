/-
**`sendStepReply` with its cache is a per-type stutter filter.**

The reference says what the cache is for in terms of the history alone, with no cache: a successful
reply is held back exactly if its output is that of the latest accepted success of its step type
since the last flush or expiry of the type.

* `Observation`, `latestSuccess` — what can be seen of a session from outside, and the latest
  accepted success of a type in a history (newest first).
* `filterStep` — the reference filter: its state is the history it has produced.
* **`sendStepReply_refines_filter`** — along every sequence of replies, answers of the service,
  flushes and expiries, the code makes the same observations as the reference; failures are always
  posted, a rejected post changes nothing, and the replies of one type do not change what happens to
  those of another.
-/

import AssistedAgent.Commands.ReplyCache

namespace AssistedAgent.Commands

open Transition

/-! ### The reference filter -/

/-- What one event of a session shows to the outside. -/
inductive Observation
  | posted (reply : StepReply) (accepted : Bool)
  | suppressed (reply : StepReply)
  | flushed
  | expired (stepType : StepType)
deriving DecidableEq, Repr

/-- The output of the latest accepted success of a type since its last flush or expiry. The history
is newest first. -/
def latestSuccess (stepType : StepType) : List Observation → Option String
  | [] => none
  | .posted reply true :: before =>
    if reply.stepType = stepType ∧ reply.exitCode = 0 then some reply.output
    else latestSuccess stepType before
  | .posted _ false :: before => latestSuccess stepType before
  | .suppressed _ :: before => latestSuccess stepType before
  | .flushed :: _ => none
  | .expired gone :: before => if gone = stepType then none else latestSuccess stepType before

/-- A reply repeats the latest accepted success of its type. -/
def Stutters (history : List Observation) (reply : StepReply) : Prop :=
  reply.exitCode = 0 ∧ latestSuccess reply.stepType history = some reply.output

instance (history : List Observation) (reply : StepReply) : Decidable (Stutters history reply) :=
  inferInstanceAs (Decidable (_ ∧ _))

/-- What the reference makes of an event. -/
def filterObserve (history : List Observation) : Event → Observation
  | .reply reply answer =>
    if Stutters history reply then .suppressed reply else .posted reply answer.isNone
  | .getNextStepsFailed => .flushed
  | .expired stepType => .expired stepType

/-- The reference filter: its state is the history it has produced so far. -/
def filterStep (history : List Observation) (event : Event) : List Observation × Observation :=
  (filterObserve history event :: history, filterObserve history event)

/-! ### The code's observations -/

/-- What an event shows of the code's session. -/
def observe (s : Session) : Event → Observation
  | .reply reply answer =>
    match (sendStepReply s reply answer).2 with
    | .suppressed => .suppressed reply
    | .posted err => .posted reply err.isNone
  | .getNextStepsFailed => .flushed
  | .expired stepType => .expired stepType

def sessionStep (s : Session) (event : Event) : Session × Observation :=
  (s.step event, observe s event)

theorem observe_suppressed {s : Session} {reply : StepReply} (h : Suppressed s reply)
    (answer : Option PostError) : observe s (.reply reply answer) = .suppressed reply := by
  simp only [observe, sendStepReply_suppressed h]

theorem observe_posted {s : Session} {reply : StepReply} (h : ¬ Suppressed s reply)
    (answer : Option PostError) :
    observe s (.reply reply answer) = .posted reply answer.isNone := by
  cases answer with
  | some err => simp only [observe, sendStepReply_rejected h]
  | none => simp only [observe, sendStepReply_accepted h]

/-! ### The simulation -/

/-- The cache entry of every type is the latest accepted success in the history. -/
def Tracks (s : Session) (history : List Observation) : Prop :=
  ∀ stepType, s.stepCache.get stepType = latestSuccess stepType history

theorem Tracks.suppressed_iff {s : Session} {history : List Observation} (tracks : Tracks s history)
    (reply : StepReply) : Suppressed s reply ↔ Stutters history reply := by
  rw [Suppressed, Stutters, tracks reply.stepType]

theorem Tracks.answer {s : Session} {history : List Observation} (tracks : Tracks s history)
    (event : Event) : observe s event = filterObserve history event := by
  cases event with
  | reply reply answer =>
    by_cases h : Suppressed s reply
    · rw [observe_suppressed h, filterObserve, if_pos ((tracks.suppressed_iff reply).mp h)]
    · rw [observe_posted h, filterObserve,
        if_neg fun stutters => h ((tracks.suppressed_iff reply).mpr stutters)]
  | getNextStepsFailed => rfl
  | expired stepType => rfl

/-- **An accepted reply moves the entry of its own type, and only if it is a success.** -/
theorem Tracks.accepted {s : Session} {history : List Observation} (tracks : Tracks s history)
    {reply : StepReply} (h : ¬ Suppressed s reply) :
    Tracks (s.step (.reply reply none)) (.posted reply true :: history) := by
  intro stepType
  simp only [Session.step, sendStepReply_accepted h, latestSuccess]
  by_cases success : reply.exitCode = 0
  · simp only [if_pos success, storeInCache, Cache.get_set]
    by_cases same : stepType = reply.stepType
    · rw [if_pos same, if_pos ⟨same.symm, success⟩]
    · rw [if_neg same, if_neg fun both => same both.1.symm]
      exact tracks stepType
  · rw [if_neg success, if_neg fun both => success both.2]
    exact tracks stepType

theorem Tracks.follow {s : Session} {history : List Observation} (tracks : Tracks s history)
    (event : Event) : Tracks (s.step event) (filterObserve history event :: history) := by
  rw [← tracks.answer event]
  cases event with
  | getNextStepsFailed => exact fun _ => rfl
  | expired gone =>
    intro stepType
    simp only [Session.step, Cache.get_expire, observe, latestSuccess, eq_comm (a := stepType)]
    split
    · rfl
    · exact tracks stepType
  | reply reply answer =>
    by_cases h : Suppressed s reply
    · rw [observe_suppressed h]
      simp only [Session.step, sendStepReply_suppressed h]
      exact fun stepType => tracks stepType
    · rw [observe_posted h]
      cases answer with
      | none => exact tracks.accepted h
      | some err =>
        simp only [Session.step, sendStepReply_rejected h]
        exact fun stepType => tracks stepType

/-- The code and the reference answer alike along every sequence of events. -/
theorem outputs_sessionStep (events : List Event) :
    outputs sessionStep newSession events = outputs filterStep [] events :=
  outputs_eq_of_simulation Tracks (fun _ _ event tracks => tracks.answer event)
    (fun _ _ event tracks => tracks.follow event) events newSession [] fun _ => rfl

/-! ### Types do not interfere -/

/-- The events that can change what happens to the replies of a type. -/
def Event.concerns (stepType : StepType) : Event → Bool
  | .reply sent _ => sent.stepType = stepType
  | .getNextStepsFailed => true
  | .expired gone => gone = stepType

def Observation.concerns (stepType : StepType) : Observation → Bool
  | .posted reply _ => reply.stepType = stepType
  | .suppressed reply => reply.stepType = stepType
  | .flushed => true
  | .expired gone => gone = stepType

/-- Two sessions agree on the entry of a type. -/
def SameEntry (stepType : StepType) (s t : Session) : Prop :=
  s.stepCache.get stepType = t.stepCache.get stepType

theorem observe_concerns (stepType : StepType) (s : Session) (event : Event) :
    (observe s event).concerns stepType = event.concerns stepType := by
  cases event with
  | reply reply answer =>
    by_cases h : Suppressed s reply
    · rw [observe_suppressed h]
      rfl
    · rw [observe_posted h]
      rfl
  | getNextStepsFailed => rfl
  | expired gone => rfl

/-- **Frame.** An event that does not concern a type leaves its entry alone. -/
theorem step_entry_of_not_concerns {stepType : StepType} (s : Session) {event : Event}
    (other : event.concerns stepType = false) :
    (s.step event).stepCache.get stepType = s.stepCache.get stepType := by
  cases event with
  | reply reply answer =>
    have different : stepType ≠ reply.stepType := fun same => by simp [Event.concerns, same] at other
    by_cases h : Suppressed s reply
    · simp only [Session.step, sendStepReply_suppressed h]
    · cases answer with
      | some err => simp only [Session.step, sendStepReply_rejected h]
      | none =>
        simp only [Session.step, sendStepReply_accepted h]
        split
        · simp only [storeInCache, Cache.get_set, if_neg different]
        · rfl
  | getNextStepsFailed => cases other
  | expired gone =>
    have different : stepType ≠ gone := fun same => by simp [Event.concerns, same] at other
    simp only [Session.step, Cache.get_expire, if_neg different]

theorem SameEntry.suppressed_iff {stepType : StepType} {s t : Session} (same : SameEntry stepType s t)
    (reply : StepReply) (ofType : reply.stepType = stepType) :
    Suppressed s reply ↔ Suppressed t reply := by
  subst ofType
  rw [Suppressed, Suppressed, same]

theorem SameEntry.answer {stepType : StepType} {s t : Session} (same : SameEntry stepType s t)
    {event : Event} (concerns : event.concerns stepType = true) :
    observe s event = observe t event := by
  cases event with
  | reply reply answer =>
    have iff := same.suppressed_iff reply (by simpa [Event.concerns] using concerns)
    by_cases h : Suppressed s reply
    · rw [observe_suppressed h, observe_suppressed (iff.mp h)]
    · rw [observe_posted h, observe_posted fun other => h (iff.mpr other)]
  | getNextStepsFailed => rfl
  | expired gone => rfl

theorem SameEntry.follow {stepType : StepType} {s t : Session} (same : SameEntry stepType s t)
    {event : Event} (concerns : event.concerns stepType = true) :
    SameEntry stepType (s.step event) (t.step event) := by
  cases event with
  | reply reply answer =>
    have iff := same.suppressed_iff reply (by simpa [Event.concerns] using concerns)
    by_cases h : Suppressed s reply
    · simpa only [SameEntry, Session.step, sendStepReply_suppressed h,
        sendStepReply_suppressed (iff.mp h)] using same
    · have h' : ¬ Suppressed t reply := fun other => h (iff.mpr other)
      cases answer with
      | some err =>
        simpa only [SameEntry, Session.step, sendStepReply_rejected h, sendStepReply_rejected h']
          using same
      | none =>
        simp only [SameEntry, Session.step, sendStepReply_accepted h, sendStepReply_accepted h']
        split
        · simp only [storeInCache, Cache.get_set]
          rw [same]
        · exact same
  | getNextStepsFailed => rfl
  | expired gone =>
    simp only [SameEntry, Session.step, Cache.get_expire]
    rw [same]

/-- **`sendStepReply` refines the stutter filter.** Along every sequence of events it observes what
the reference does; a failure is posted in every session; a rejected post leaves the session as it
was, so the same reply is posted the next time; and what is seen of one step type is what would be
seen if the replies and expiries of the other types had not happened. -/
theorem sendStepReply_refines_filter (events : List Event) :
    outputs sessionStep newSession events = outputs filterStep [] events ∧
    (∀ (s : Session) (reply : StepReply) (answer : Option PostError), reply.exitCode ≠ 0 →
      (sendStepReply s reply answer).2 = .posted answer) ∧
    (∀ (s : Session) (reply : StepReply) (err : PostError),
      (sendStepReply s reply (some err)).2 ≠ .suppressed →
        (sendStepReply s reply (some err)).1 = s ∧
          ∀ answer, (sendStepReply (sendStepReply s reply (some err)).1 reply answer).2
            = .posted answer) ∧
    ∀ stepType : StepType,
      (outputs sessionStep newSession events).filter (Observation.concerns stepType) =
        outputs sessionStep newSession (events.filter (Event.concerns stepType)) := by
  have posts : ∀ (s : Session) (reply : StepReply) (answer : Option PostError),
      ¬ Suppressed s reply → (sendStepReply s reply answer).2 = .posted answer := by
    intro s reply answer h
    cases answer with
    | some err => rw [sendStepReply_rejected h]
    | none => rw [sendStepReply_accepted h]
  refine ⟨outputs_sessionStep events, ?_, ?_, ?_⟩
  · intro s reply answer failed
    exact posts s reply answer fun h => failed h.1
  · intro s reply err sent
    have h : ¬ Suppressed s reply := fun yes =>
      sent ((sendStepReply_eq_suppressed_iff s reply (some err)).mpr yes)
    rw [sendStepReply_rejected h]
    exact ⟨rfl, fun answer => posts s reply answer h⟩
  · intro stepType
    refine outputs_filter (SameEntry stepType) _ _ ?_ ?_ ?_ ?_ events _ _ rfl
    · exact fun s event => observe_concerns stepType s event
    · exact fun s t event other same => (step_entry_of_not_concerns s other).trans same
    · exact fun s t event concerns same => same.answer concerns
    · exact fun s t event concerns same => same.follow concerns

end AssistedAgent.Commands
