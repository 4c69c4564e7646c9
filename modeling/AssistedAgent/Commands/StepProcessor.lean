/-
**The step processor with its goroutines: polls, steps in flight, and the reply cache they share.**

`processSingleSession` polls the service; a failed poll flushes the cache, a successful one starts
one goroutine per instruction (`handleSteps`) and does not wait for any of them. A goroutine runs
its step and then performs `sendStepReply` as three separate actions on shared state: look the
reply up in the cache, post it, store its output.

* `Goroutine`, `Agent`, `Action`, `Agent.step` — the state machine. Any number of goroutines is in
  flight, and any of them may take the next action.
* `sendStepReply_run` — the three actions of one goroutine with nothing in between are one call of
  `sendStepReply`.
* **`suppressed_last_success`** — along every run in which no successful reply is found in the cache
  or accepted while another success of its type, with a different output, is accepted but not yet
  stored, a suppressed reply equals the latest accepted success of its type.
* `overtaken_store_stale` — without the condition it fails: the slower of two accepted replies
  stores last, and the cache then disagrees with the service.
-/

import AssistedAgent.Commands.ReplyCache

namespace AssistedAgent.Commands

open Transition

/-! ### One step of a goroutine -/

/-- `models.Step`. -/
structure Step where
  args : List String
  stepID : String
  stepType : StepType
deriving DecidableEq, Repr

/-- `MediaDisconnected`, the only code `diagnoseSystem` reports besides `Undetected`. -/
def mediaDisconnected : Int := 256

def createStepReply (stepType : StepType) (stepID output errStr : String) (exitCode : Int) :
    StepReply :=
  { stepType, stepID, exitCode, output, error := errStr }

/-- What creating and running the tool of a step gives. -/
inductive RunnerResult
  | createFailed (err : String)
  | ran (stdout stderr : String) (exitCode : Int)
deriving DecidableEq, Repr

def handleSingleStepV2 (step : Step) : RunnerResult → StepReply
  | .createFailed err => createStepReply step.stepType step.stepID "" err (-1)
  | .ran stdout stderr exitCode =>
    createStepReply step.stepType step.stepID stdout stderr exitCode

/-- The reply a goroutine of `handleSteps` sends. `before` and `after` are the errors that
`diagnoseSystem` reports before the step and after a failed one. -/
def handleStep (step : Step) (before : Option String) (result : RunnerResult)
    (after : Option String) : StepReply :=
  match before with
  | some err => createStepReply step.stepType step.stepID "" err mediaDisconnected
  | none =>
    let reply := handleSingleStepV2 step result
    if reply.exitCode ≠ 0 ∧ after.isSome then { reply with exitCode := mediaDisconnected }
    else reply

/-! ### The state machine -/

/-- The errors of `GetNextSteps` that `processSingleSession` tells apart. -/
inductive GetNextStepsError
  | notFound
  | unauthorized
  | forbidden
  | other (message : String)
deriving DecidableEq, Repr

/-- `models.Steps`, without the delay until the next poll. -/
structure Steps where
  instructions : List Step
  postStepAction : Option String
deriving DecidableEq, Repr

/-- The goroutine of `ProcessSteps`: it polls, it hangs in `select {}` once the infra-env is gone,
or it has returned. -/
inductive Main
  | polling
  | frozen
  | stopped
deriving DecidableEq, Repr

/-- Where a goroutine of `handleSteps` stands. -/
inductive Goroutine
  | handling (step : Step)
  | lookup (reply : StepReply)
  | post (reply : StepReply)
  | store (reply : StepReply)
  | finished
deriving DecidableEq, Repr

structure Agent where
  main : Main
  stepCache : Cache
  accepted : List StepReply
  goroutines : List Goroutine

def newAgent : Agent := ⟨.polling, newCache, [], []⟩

inductive Action
  | poll (result : Except GetNextStepsError Steps)
  | stop
  | handle (g : Nat) (before : Option String) (result : RunnerResult) (after : Option String)
  | lookup (g : Nat)
  | post (g : Nat) (answer : Option PostError)
  | store (g : Nat)
  | expire (key : String)

/-- A poll: a failed one invalidates the cache, a successful one starts a goroutine per
instruction. -/
def Agent.processSingleSession (s : Agent) : Except GetNextStepsError Steps → Agent
  | .error err =>
    { s with
      stepCache := invalidateCache s.stepCache
      main := if err = .notFound then .frozen else .polling }
  | .ok result =>
    { s with
      goroutines := s.goroutines ++ result.instructions.map .handling
      main := if result.postStepAction = some "exit" then .stopped else .polling }

/-- The goroutine `g` moves on to `next`. -/
def Agent.goto (s : Agent) (g : Nat) (next : Goroutine) : Agent :=
  { s with goroutines := s.goroutines.set g next }

def Agent.step (s : Agent) : Action → Option Agent
  | .poll result => if s.main = .polling then some (s.processSingleSession result) else none
  | .stop => if s.main = .polling then some { s with main := .stopped } else none
  | .handle g before result after =>
    match s.goroutines[g]? with
    | some (.handling step) => some (s.goto g (.lookup (handleStep step before result after)))
    | _ => none
  | .lookup g =>
    match s.goroutines[g]? with
    | some (.lookup reply) =>
      if reply.exitCode = 0 ∧ alreadyExistsInService s.stepCache reply.stepType reply.output then
        some (s.goto g .finished)
      else some (s.goto g (.post reply))
    | _ => none
  | .post g answer =>
    match s.goroutines[g]? with
    | some (.post reply) =>
      match answer with
      | some _ => some (s.goto g .finished)
      | none =>
        let next : Goroutine := if reply.exitCode = 0 then .store reply else .finished
        some { s.goto g next with accepted := reply :: s.accepted }
    | _ => none
  | .store g =>
    match s.goroutines[g]? with
    | some (.store reply) =>
      some { s.goto g .finished with
        stepCache := storeInCache s.stepCache reply.stepType reply.output }
    | _ => none
  | .expire key => some { s with stepCache := s.stepCache.expire key }

/-- The interleavings of the step processor. -/
abbrev Agent.Steps : Agent → Action → Agent → Prop := ofPartial Agent.step

/-- **What a step can do**, with what it found in the state. -/
inductive Moves (s : Agent) : Action → Agent → Prop
  | polled (result : Except GetNextStepsError Steps) :
      Moves s (.poll result) (s.processSingleSession result)
  | stopped : Moves s .stop { s with main := .stopped }
  | handled (g : Nat) (step : Step) (before : Option String) (result : RunnerResult)
      (after : Option String) (here : s.goroutines[g]? = some (.handling step)) :
      Moves s (.handle g before result after)
        (s.goto g (.lookup (handleStep step before result after)))
  | suppressed (g : Nat) (reply : StepReply) (here : s.goroutines[g]? = some (.lookup reply))
      (success : reply.exitCode = 0)
      (hit : s.stepCache.get reply.stepType = some reply.output) :
      Moves s (.lookup g) (s.goto g .finished)
  | missed (g : Nat) (reply : StepReply) (here : s.goroutines[g]? = some (.lookup reply)) :
      Moves s (.lookup g) (s.goto g (.post reply))
  | rejected (g : Nat) (reply : StepReply) (err : PostError)
      (here : s.goroutines[g]? = some (.post reply)) :
      Moves s (.post g (some err)) (s.goto g .finished)
  | failureAccepted (g : Nat) (reply : StepReply) (here : s.goroutines[g]? = some (.post reply))
      (failed : reply.exitCode ≠ 0) :
      Moves s (.post g none) { s.goto g .finished with accepted := reply :: s.accepted }
  | successAccepted (g : Nat) (reply : StepReply) (here : s.goroutines[g]? = some (.post reply))
      (success : reply.exitCode = 0) :
      Moves s (.post g none) { s.goto g (.store reply) with accepted := reply :: s.accepted }
  | stored (g : Nat) (reply : StepReply) (here : s.goroutines[g]? = some (.store reply)) :
      Moves s (.store g) { s.goto g .finished with
        stepCache := storeInCache s.stepCache reply.stepType reply.output }
  | expired (key : String) : Moves s (.expire key) { s with stepCache := s.stepCache.expire key }

theorem Agent.step_moves {s next : Agent} {a : Action} (taken : s.Steps a next) :
    Moves s a next := by
  cases a with
  | poll result =>
    simp only [Agent.Steps, ofPartial, Agent.step] at taken
    split at taken
    · cases taken
      exact .polled result
    · cases taken
  | stop =>
    simp only [Agent.Steps, ofPartial, Agent.step] at taken
    split at taken
    · cases taken
      exact .stopped
    · cases taken
  | handle g before result after =>
    simp only [Agent.Steps, ofPartial, Agent.step] at taken
    split at taken
    · rename_i step here
      cases taken
      exact .handled g step before result after here
    · cases taken
  | lookup g =>
    simp only [Agent.Steps, ofPartial, Agent.step] at taken
    split at taken
    · rename_i reply here
      split at taken
      · rename_i found
        cases taken
        exact .suppressed g reply here found.1 ((alreadyExistsInService_iff _ _ _).mp found.2)
      · cases taken
        exact .missed g reply here
    · cases taken
  | post g answer =>
    simp only [Agent.Steps, ofPartial, Agent.step] at taken
    split at taken
    · rename_i reply here
      cases answer with
      | some err =>
        cases taken
        exact .rejected g reply err here
      | none =>
        by_cases success : reply.exitCode = 0
        · simp only [if_pos success] at taken
          cases taken
          exact .successAccepted g reply here success
        · simp only [if_neg success] at taken
          cases taken
          exact .failureAccepted g reply here success
    · cases taken
  | store g =>
    simp only [Agent.Steps, ofPartial, Agent.step] at taken
    split at taken
    · rename_i reply here
      cases taken
      exact .stored g reply here
    · cases taken
  | expire key =>
    cases taken
    exact .expired key

/-! ### One goroutine on its own -/

/-- The part of the agent that a sequential session has. -/
def Agent.session (s : Agent) : Session := ⟨s.stepCache, s.accepted⟩

theorem Agent.goto_getElem {s : Agent} {g : Nat} {here : Goroutine}
    (at_g : s.goroutines[g]? = some here) (next : Goroutine) :
    (s.goto g next).goroutines[g]? = some next := by
  have inside : g < s.goroutines.length := (List.getElem?_eq_some_iff.mp at_g).1
  simp [Agent.goto, inside]

def Agent.withSession (s : Agent) (session : Session) : Agent :=
  { s with stepCache := session.stepCache, accepted := session.accepted }

theorem Agent.goto_goto (s : Agent) (g : Nat) (first second : Goroutine) :
    (s.goto g first).goto g second = s.goto g second := by
  simp only [Agent.goto, List.set_set]

/-- **Nothing in between, and the goroutine is a call of `sendStepReply`.** -/
theorem sendStepReply_run (s : Agent) (g : Nat) (reply : StepReply) (answer : Option PostError)
    (here : s.goroutines[g]? = some (.lookup reply)) :
    ∃ labels, labels <+: [.lookup g, .post g answer, .store g] ∧
      Run Agent.Steps s labels
        ((s.goto g .finished).withSession (sendStepReply s.session reply answer).1) := by
  by_cases h : Suppressed s.session reply
  · refine ⟨[.lookup g], ⟨_, rfl⟩, Run.single ?_⟩
    have found : reply.exitCode = 0 ∧
        alreadyExistsInService s.stepCache reply.stepType reply.output :=
      ⟨h.1, (alreadyExistsInService_iff _ _ _).mpr h.2⟩
    rw [sendStepReply_suppressed h]
    simp only [Agent.Steps, ofPartial, Agent.step, here, if_pos found]
    rfl
  · have missed : s.Steps (.lookup g) (s.goto g (.post reply)) := by
      have absent : ¬ (reply.exitCode = 0 ∧
          alreadyExistsInService s.stepCache reply.stepType reply.output) :=
        fun both => h ⟨both.1, (alreadyExistsInService_iff _ _ _).mp both.2⟩
      simp only [Agent.Steps, ofPartial, Agent.step, here, if_neg absent]
    have at_post := s.goto_getElem here (.post reply)
    cases answer with
    | some err =>
      refine ⟨[.lookup g, .post g (some err)], ⟨_, rfl⟩, .cons missed (Run.single ?_)⟩
      rw [sendStepReply_rejected h]
      simp only [Agent.Steps, ofPartial, Agent.step, at_post, Agent.goto_goto]
      rfl
    | none =>
      rw [sendStepReply_accepted h]
      by_cases success : reply.exitCode = 0
      · have taken : (s.goto g (.post reply)).Steps (.post g none)
            { s.goto g (.store reply) with accepted := reply :: s.accepted } := by
          simp only [Agent.Steps, ofPartial, Agent.step, at_post, if_pos success, Agent.goto_goto]
          rfl
        have at_store := s.goto_getElem here (.store reply)
        refine ⟨_, ⟨[], rfl⟩, .cons missed (.cons taken (Run.single ?_))⟩
        simp only [Agent.Steps, ofPartial, Agent.step, at_store, if_pos success]
        simp only [Agent.goto, List.set_set]
        rfl
      · refine ⟨[.lookup g, .post g none], ⟨_, rfl⟩, .cons missed (Run.single ?_)⟩
        simp only [Agent.Steps, ofPartial, Agent.step, at_post, if_neg success, Agent.goto_goto]
        rfl

/-! ### The cache against the service, in every interleaving -/

/-- The output of the most recent success of a type that the service accepted. -/
def lastSuccess (accepted : List StepReply) (stepType : StepType) : Option String :=
  (accepted.find? fun reply => reply.stepType = stepType ∧ reply.exitCode = 0).map (·.output)

theorem lastSuccess_cons (reply : StepReply) (accepted : List StepReply) (stepType : StepType) :
    lastSuccess (reply :: accepted) stepType =
      if reply.stepType = stepType ∧ reply.exitCode = 0 then some reply.output
      else lastSuccess accepted stepType := by
  by_cases match_ : reply.stepType = stepType ∧ reply.exitCode = 0 <;>
    simp [lastSuccess, match_]

/-- A success of the reply's type with another output is accepted and not yet stored. -/
def Overtaken (s : Agent) (reply : StepReply) : Prop :=
  ∃ other, .store other ∈ s.goroutines ∧ other.stepType = reply.stepType ∧
    other.output ≠ reply.output

/-- The condition on a step: a successful reply that is found in the cache, or that the service
accepts, is not overtaken. -/
def NotOvertaken (s : Agent) : Action → Prop
  | .lookup g => ∀ reply, s.goroutines[g]? = some (.lookup reply) → reply.exitCode = 0 →
      alreadyExistsInService s.stepCache reply.stepType reply.output → ¬ Overtaken s reply
  | .post g none => ∀ reply, s.goroutines[g]? = some (.post reply) → reply.exitCode = 0 →
      ¬ Overtaken s reply
  | _ => True

/-- What every run that meets the condition keeps: a reply waiting to be stored is the latest
success of its type, and an entry is that too unless a reply with another output waits. -/
structure Coherent (s : Agent) : Prop where
  waiting : ∀ reply, .store reply ∈ s.goroutines →
    lastSuccess s.accepted reply.stepType = some reply.output
  entry : ∀ stepType value, s.stepCache.get stepType = some value →
    lastSuccess s.accepted stepType = some value ∨
      ∃ other, .store other ∈ s.goroutines ∧ other.stepType = stepType ∧ other.output ≠ value

theorem coherent_newAgent : Coherent newAgent where
  waiting _ member := by cases member
  entry _ _ found := by cases found

theorem mem_set_of_mem {gs : List Goroutine} {g : Nat} {here next other : Goroutine}
    (at_g : gs[g]? = some here) (different : here ≠ other) (member : other ∈ gs) :
    other ∈ gs.set g next := by
  obtain ⟨i, inside, rfl⟩ := List.getElem_of_mem member
  have ne : g ≠ i := by
    rintro rfl
    rw [List.getElem?_eq_getElem inside] at at_g
    exact different (Option.some.inj at_g).symm
  have kept : (gs.set g next)[i]? = some gs[i] := by
    rw [List.getElem?_set_ne ne, List.getElem?_eq_getElem inside]
  exact List.mem_of_getElem? kept

/-- A move of one goroutine that stores nothing, and neither was nor becomes a waiting one. -/
theorem Coherent.goto {s : Agent} (inv : Coherent s) {g : Nat} {here next : Goroutine}
    (at_g : s.goroutines[g]? = some here) (notStore : ∀ reply, here ≠ .store reply)
    (notNext : ∀ reply, next ≠ .store reply) : Coherent (s.goto g next) where
  waiting reply member := by
    rcases List.mem_or_eq_of_mem_set member with old | new
    · exact inv.waiting reply old
    · exact absurd new.symm (notNext reply)
  entry stepType value found := by
    rcases inv.entry stepType value found with current | ⟨other, member, rest⟩
    · exact Or.inl current
    · exact Or.inr ⟨other, mem_set_of_mem at_g (notStore other) member, rest⟩

/-- An accepted failure leaves the successes as they are. -/
theorem Coherent.failure {s : Agent} (inv : Coherent s) {reply : StepReply}
    (failed : reply.exitCode ≠ 0) : Coherent { s with accepted := reply :: s.accepted } := by
  have same : ∀ stepType, lastSuccess (reply :: s.accepted) stepType =
      lastSuccess s.accepted stepType := fun stepType => by
    rw [lastSuccess_cons, if_neg fun both => failed both.2]
  constructor
  · intro other member
    exact (same _).trans (inv.waiting other member)
  · intro stepType value found
    rw [same]
    exact inv.entry stepType value found

/-- **An accepted success that is not overtaken**: it becomes the latest one of its type, and the
replies of its type still waiting have the same output. -/
theorem Coherent.success {s : Agent} (inv : Coherent s) {g : Nat} {reply : StepReply}
    (at_g : s.goroutines[g]? = some (.post reply)) (success : reply.exitCode = 0)
    (free : ¬ Overtaken s reply) :
    Coherent { s.goto g (.store reply) with accepted := reply :: s.accepted } := by
  have self : .store reply ∈ (s.goto g (.store reply)).goroutines :=
    List.mem_of_getElem? (s.goto_getElem at_g (.store reply))
  constructor
  · intro other member
    rw [lastSuccess_cons]
    by_cases same : reply.stepType = other.stepType
    · rw [if_pos ⟨same, success⟩]
      rcases List.mem_or_eq_of_mem_set member with old | new
      · by_contra differ
        exact free ⟨other, old, same.symm, fun equal => differ (by rw [equal])⟩
      · cases new
        rfl
    · rw [if_neg fun both => same both.1]
      rcases List.mem_or_eq_of_mem_set member with old | new
      · exact inv.waiting other old
      · cases new
        exact absurd rfl same
  · intro stepType value found
    rw [lastSuccess_cons]
    by_cases same : reply.stepType = stepType
    · rw [if_pos ⟨same, success⟩]
      by_cases equal : reply.output = value
      · exact Or.inl (by rw [equal])
      · exact Or.inr ⟨reply, self, same, equal⟩
    · rw [if_neg fun both => same both.1]
      rcases inv.entry stepType value found with current | ⟨other, member, rest⟩
      · exact Or.inl current
      · exact Or.inr ⟨other, mem_set_of_mem at_g (by simp) member, rest⟩

/-- **A store of a waiting reply** makes the entry of its type the latest success. -/
theorem Coherent.stored {s : Agent} (inv : Coherent s) {g : Nat} {reply : StepReply}
    (at_g : s.goroutines[g]? = some (.store reply)) :
    Coherent { s.goto g .finished with
      stepCache := storeInCache s.stepCache reply.stepType reply.output } := by
  have latest := inv.waiting reply (List.mem_of_getElem? at_g)
  constructor
  · intro other member
    rcases List.mem_or_eq_of_mem_set member with old | new
    · exact inv.waiting other old
    · cases new
  · intro stepType value found
    simp only [storeInCache, Cache.get_set] at found
    by_cases same : stepType = reply.stepType
    · rw [if_pos same] at found
      cases found
      exact Or.inl (by rw [same]; exact latest)
    · rw [if_neg same] at found
      rcases inv.entry stepType value found with current | ⟨other, member, ofType, rest⟩
      · exact Or.inl current
      · refine Or.inr ⟨other, mem_set_of_mem at_g ?_ member, ofType, rest⟩
        rintro ⟨⟩
        exact same ofType.symm

/-- **Every step that meets the condition keeps the agent coherent.** -/
theorem coherent_step {s next : Agent} {a : Action} (inv : Coherent s) (guard : NotOvertaken s a)
    (taken : s.Steps a next) : Coherent next := by
  cases Agent.step_moves taken with
  | polled result =>
    cases result with
    | error err => exact ⟨inv.waiting, fun _ _ found => by cases found⟩
    | ok result =>
      constructor
      · intro reply member
        rcases List.mem_append.mp member with old | new
        · exact inv.waiting reply old
        · simp at new
      · intro stepType value found
        rcases inv.entry stepType value found with current | ⟨other, member, rest⟩
        · exact Or.inl current
        · exact Or.inr ⟨other, List.mem_append_left _ member, rest⟩
  | stopped => exact ⟨inv.waiting, inv.entry⟩
  | handled g step before result after here => exact inv.goto here (by simp) (by simp)
  | suppressed g reply here => exact inv.goto here (by simp) (by simp)
  | missed g reply here => exact inv.goto here (by simp) (by simp)
  | rejected g reply err here => exact inv.goto here (by simp) (by simp)
  | failureAccepted g reply here failed =>
    have moved : Coherent (s.goto g .finished) := inv.goto here (by simp) (by simp)
    exact moved.failure failed
  | successAccepted g reply here success =>
    exact inv.success here success (guard reply here success)
  | stored g reply here => exact inv.stored here
  | expired key =>
    refine ⟨inv.waiting, fun stepType value found => ?_⟩
    simp only [Cache.get_expire] at found
    split at found
    · cases found
    · exact inv.entry stepType value found

theorem coherent_of_reachable {s : Agent}
    (reach : Reachable (guarded NotOvertaken Agent.Steps) newAgent s) : Coherent s :=
  reach.invariant coherent_newAgent fun _ _ _ inv taken => coherent_step inv taken.1 taken.2

/-- **A suppressed reply equals the latest accepted success of its type**, along every run in which
no successful reply is found in the cache, or accepted, while it is overtaken. -/
theorem suppressed_last_success {s : Agent}
    (reach : Reachable (guarded NotOvertaken Agent.Steps) newAgent s) (g : Nat) (reply : StepReply)
    (here : s.goroutines[g]? = some (.lookup reply)) (guard : NotOvertaken s (.lookup g))
    (success : reply.exitCode = 0)
    (hit : alreadyExistsInService s.stepCache reply.stepType reply.output) :
    lastSuccess s.accepted reply.stepType = some reply.output := by
  have found := (alreadyExistsInService_iff _ _ _).mp hit
  rcases (coherent_of_reachable reach).entry _ _ found with current | overtaken
  · exact current
  · exact absurd overtaken (guard reply here success hit)

theorem notOvertaken_of_none_waiting {s : Agent} (none : ∀ reply, .store reply ∉ s.goroutines)
    (a : Action) : NotOvertaken s a := by
  have free : ∀ reply, ¬ Overtaken s reply := fun reply ⟨other, member, _⟩ => none other member
  cases a with
  | lookup g => exact fun reply _ _ _ => free reply
  | post g answer =>
    cases answer with
    | none => exact fun reply _ _ => free reply
    | some err => trivial
  | _ => trivial

/-- The goroutine `g` runs its step without trouble and prints `stdout`. -/
def Action.succeed (g : Nat) (stdout : String) : Action := .handle g none (.ran stdout "" 0) none

/-- A poll that asks for the inventory `n` times. -/
def Action.inventories (n : Nat) : Action :=
  .poll (.ok ⟨List.replicate n ⟨[], "", "inventory"⟩, none⟩)

theorem suppressed_last_success_inventory :
    lastSuccess [replyOf "inventory" 0 "cpus: 8"] "inventory" = some "cpus: 8" := by
  let handling : Goroutine := .handling ⟨[], "", "inventory"⟩
  let reply := replyOf "inventory" 0 "cpus: 8"
  let full := storeInCache newCache "inventory" "cpus: 8"
  let s (first second : Goroutine) : Agent := ⟨.polling, newCache, [], [first, second]⟩
  let t (first : Goroutine) : Agent := ⟨.polling, newCache, [reply], [first, handling]⟩
  let last : Agent := ⟨.polling, full, [reply], [.finished, .lookup reply]⟩
  have run : Run (guarded NotOvertaken Agent.Steps) newAgent
      [.inventories 2, .succeed 0 "cpus: 8", .lookup 0, .post 0 none, .store 0,
        .succeed 1 "cpus: 8"] last := by
    have none_waiting : ∀ first, (∀ reply, first ≠ .store reply) →
        ∀ reply, .store reply ∉ (s first handling).goroutines := by
      intro first plain reply member
      simp [s, handling] at member
      exact plain reply member.symm
    have looked : guarded NotOvertaken Agent.Steps (s (.lookup reply) handling) (.lookup 0)
        (s (.post reply) handling) :=
      ⟨notOvertaken_of_none_waiting (none_waiting _ (by simp)) _, rfl⟩
    have posted : guarded NotOvertaken Agent.Steps (s (.post reply) handling) (.post 0 none)
        (t (.store reply)) :=
      ⟨notOvertaken_of_none_waiting (none_waiting _ (by simp)) _, rfl⟩
    exact .cons ⟨trivial, rfl⟩ (.cons ⟨trivial, rfl⟩ (.cons looked (.cons posted
      (.cons ⟨trivial, rfl⟩ (Run.single ⟨trivial, rfl⟩)))))
  exact suppressed_last_success ⟨_, run⟩ 1 reply rfl
    (notOvertaken_of_none_waiting (by simp [last]) _) rfl (by decide)

/-- **The slower of two accepted replies stores last**, and the cache holds a result that is no
longer the service's: the next reply equal to it is suppressed. -/
theorem overtaken_store_stale :
    ¬ ∀ s : Agent, Reachable Agent.Steps newAgent s → ∀ (g : Nat) (reply : StepReply),
      s.goroutines[g]? = some (.lookup reply) → reply.exitCode = 0 →
        alreadyExistsInService s.stepCache reply.stepType reply.output →
          lastSuccess s.accepted reply.stepType = some reply.output := by
  intro always
  let before := replyOf "inventory" 0 "cpus: 8"
  let after := replyOf "inventory" 0 "cpus: 4"
  -- both replies miss the cache and are posted in order; the first is stored after the second
  let last : Agent := ⟨.polling,
    storeInCache (storeInCache newCache "inventory" "cpus: 4") "inventory" "cpus: 8",
    [after, before], [.finished, .finished, .lookup before]⟩
  have run : Run Agent.Steps newAgent
      [.inventories 3, .succeed 0 "cpus: 8", .succeed 1 "cpus: 4", .lookup 0, .lookup 1,
        .post 0 none, .post 1 none, .store 1, .store 0, .succeed 2 "cpus: 8"] last := by
    repeat refine .cons rfl ?_
    exact .nil last
  have stale := always last ⟨_, run⟩ 2 before rfl rfl (by decide)
  exact absurd stale (by decide)

end AssistedAgent.Commands
