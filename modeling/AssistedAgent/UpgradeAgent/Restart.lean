/-
**Upgrading the agent: concurrent pulls, their replies, and the restart.**

Every step runs in a goroutine of its own. An `upgrade-agent` step pulls an image under `pullSem`, and
answers at once if another step is pulling. The answer is marshalled by a deferred function, becomes
the output of the reply, and `requiresRestart` decodes it again after the reply was sent; a successful
one cancels the step session, which restarts the agent.

* `unmarshal_marshal` — a response is read back as it was written.
* `Goroutine.act`, `Agent.step` — the state machine: any goroutine may take the next action.
* `Goroutine.act_acts` — what an action can do.
* `Goroutine.Ok.act` — one action keeps what is known of its goroutine, and changes the semaphore as
  it changes the goroutine.
* `Agent.release_ne_panicked` — the semaphore is never released more than held.
* `Goroutine.exists_act` — no goroutine waits for another.
* **`restarts_genuinely`** — in every reachable state at most one pull runs, a success is the step's
  own, and only such a step has cancelled the session.
* `Agent.exists_followedBy` — the step processor of `Commands.StepProcessor` has a run with the same
  goroutines.
-/

import AssistedAgent.Actions.New
import AssistedAgent.Commands.StepProcessor
import AssistedAgent.Lib.TryLock

namespace AssistedAgent.UpgradeAgent

open Actions (Packages Rejection)
open Commands GoJson Transition TryLock

/-! ### Requests and responses -/

/-- `models.UpgradeAgentResponse`. -/
structure Response where
  agentImage : String
  result : String
deriving DecidableEq, Repr

def Response.marshal (response : Response) : String :=
  object [⟨"agent_image", response.agentImage, true⟩, ⟨"result", response.result, true⟩]

def decodeResponse : Json → Response → Option Response
  | .null, response => some response
  | .object members, response =>
    (fieldAt "agent_image" decodeString response.agentImage members).bind fun agentImage =>
      (fieldAt "result" decodeString response.result members).map fun result => ⟨agentImage, result⟩
  | _, _ => none

def unmarshalResponse (text : String) : Option Response :=
  (parse text).bind (decodeResponse · ⟨"", ""⟩)

/-- `models.UpgradeAgentRequest`, by its image. -/
def decodeRequest : Json → String → Option String
  | .null, agentImage => some agentImage
  | .object members, agentImage => fieldAt "agent_image" decodeString agentImage members
  | _, _ => none

def unmarshalRequest (requestStr : String) : Option String :=
  (parse requestStr).bind (decodeRequest · "")

/-- **A response is read back as it was written**, also where an empty field is left out. -/
theorem unmarshal_marshal (response : Response) :
    unmarshalResponse response.marshal = some response := by
  obtain ⟨agentImage, result⟩ := response
  have names : foldName "agent_image" ≠ foldName "result" := by decide
  rw [unmarshalResponse, Response.marshal, parse_object]
  by_cases noImage : agentImage = "" <;> by_cases noResult : result = "" <;>
    simp [writtenFields, noImage, noResult, decodeResponse, fieldAt, decodeString, names, names.symm]

/-- The output of the reply is a successful response. -/
def carriesSuccess (reply : StepReply) : Bool :=
  match unmarshalResponse reply.output with
  | some response => response.result == "success"
  | none => false

def requiresRestart (reply : StepReply) : Bool :=
  if reply.stepType ≠ "upgrade-agent" then false else carriesSuccess reply

/-- The image that a step asks for. -/
def requested (step : Step) : Option String := step.args.head?.bind unmarshalRequest

/-! ### The goroutine of a step -/

/-- What became of the step's own `podman pull`. -/
inductive Pull
  | untried
  /-- `pullSem` was taken. -/
  | busy
  | running (image : String)
  | exited (image : String) (pullExitCode : Int)
deriving DecidableEq, Repr

inductive Phase
  /-- `diagnoseSystem`, before the step. -/
  | diagnose
  | create
  /-- `Run` of an action other than `upgradeAgent`. -/
  | other
  /-- `upgrade_agent.Run`, called. -/
  | run (requestStr : String)
  | acquire (image : String)
  | pulling (image : String)
  /-- The deferred functions, the last one first. -/
  | release (response : Response)
  | respond (response : Response)
  /-- The runner has returned, and `diagnoseSystem` may follow. -/
  | ran (result : RunnerResult)
  /-- `sendStepReply` of a step that was not run. -/
  | abort (reply : StepReply)
  | send (reply : StepReply)
  | restart (reply : StepReply)
  | finished
deriving DecidableEq, Repr

structure Goroutine where
  step : Step
  phase : Phase
  pull : Pull
  /-- The reply handed to `sendStepReply`. -/
  sent : Option StepReply
  /-- It has called `cancel`. -/
  cancelled : Bool
deriving DecidableEq, Repr

def newGoroutine (step : Step) : Goroutine := ⟨step, .diagnose, .untried, none, false⟩

/-- One action of a goroutine, with what the host and `encoding/json` answer. -/
inductive Action
  | diagnose (err : Option String)
  | create (jsonError : String)
  | other (result : RunnerResult)
  | unmarshal (jsonError : String)
  | tryAcquire
  | pull (pullExitCode : Int)
  | release
  | marshal
  | diagnoseAgain (err : Option String)
  | send
  | restart
deriving DecidableEq, Repr

/-- The text of the error of `New`. -/
def rejectionText (jsonError : String) : Rejection → String
  | .args text => text
  | .json => jsonError
  | .model err => err
  | .action err => err

/-- `toolRunnerFactory.Create` and the call of `Run`; `none` is a panic. -/
def createRunner (p : Packages) (step : Step) (jsonError : String) : Option Phase :=
  match Actions.new p step.stepType step.args with
  | .panicked => none
  | .rejected why => some (.ran (.createFailed (rejectionText jsonError why)))
  | .accepted action =>
    -- `u.Args()[0]`
    if action = .upgradeAgent then step.args.head?.map .run else some .other

def unmarshalPhase (requestStr jsonError : String) : Phase :=
  match unmarshalRequest requestStr with
  | none => .ran (.ran "" jsonError (-1))
  | some image => .acquire image

def pullResult (pullExitCode : Int) : String := if pullExitCode = 0 then "success" else "failure"

inductive Outcome
  /-- The goroutine moves on, and leaves `pullSem` as it is given. -/
  | moved (g : Goroutine) (pullSem : Bool)
  | panicked

def Goroutine.create (p : Packages) (g : Goroutine) (pullSem : Bool) (jsonError : String) : Outcome :=
  match createRunner p g.step jsonError with
  | none => .panicked
  | some phase => .moved { g with phase } pullSem

/-- `pullSem.TryAcquire(1)`. -/
def Goroutine.tryAcquire (g : Goroutine) (pullSem : Bool) (image : String) : Outcome :=
  if pullSem then .moved { g with phase := .respond ⟨image, ""⟩, pull := .busy } pullSem
  else .moved { g with phase := .pulling image, pull := .running image } true

/-- `pullSem.Release(1)`. -/
def Goroutine.release (g : Goroutine) (pullSem : Bool) (response : Response) : Outcome :=
  if pullSem then .moved { g with phase := .respond response } false else .panicked

def Goroutine.act (p : Packages) (g : Goroutine) (pullSem : Bool) (a : Action) : Option Outcome :=
  match g.phase, a with
  | .diagnose, .diagnose none => some (.moved { g with phase := .create } pullSem)
  | .diagnose, .diagnose (some err) =>
    let reply := createStepReply g.step.stepType g.step.stepID "" err mediaDisconnected
    some (.moved { g with phase := .abort reply } pullSem)
  | .create, .create jsonError => some (g.create p pullSem jsonError)
  | .other, .other result => some (.moved { g with phase := .ran result } pullSem)
  | .run requestStr, .unmarshal jsonError =>
    some (.moved { g with phase := unmarshalPhase requestStr jsonError } pullSem)
  | .acquire image, .tryAcquire => some (g.tryAcquire pullSem image)
  | .pulling image, .pull pullExitCode =>
    let response : Response := ⟨image, pullResult pullExitCode⟩
    some (.moved { g with phase := .release response, pull := .exited image pullExitCode } pullSem)
  | .release response, .release => some (g.release pullSem response)
  | .respond response, .marshal =>
    some (.moved { g with phase := .ran (.ran response.marshal "" 0) } pullSem)
  | .ran result, .diagnoseAgain err =>
    some (.moved { g with phase := .send (handleStep g.step none result err) } pullSem)
  | .abort reply, .send => some (.moved { g with phase := .finished, sent := some reply } pullSem)
  | .send reply, .send => some (.moved { g with phase := .restart reply, sent := some reply } pullSem)
  | .restart reply, .restart =>
    some (.moved { g with phase := .finished, cancelled := requiresRestart reply } pullSem)
  | _, _ => none

/-- It is between `TryAcquire` and `Release`. -/
def Goroutine.holds (g : Goroutine) : Bool :=
  match g.phase with
  | .pulling _ => true
  | .release _ => true
  | _ => false

/-- The reply of the step, once it is made. -/
def Goroutine.reply (g : Goroutine) : Option StepReply :=
  match g.phase with
  | .abort reply => some reply
  | .send reply => some reply
  | _ => g.sent

/-- **No goroutine waits for another**: whoever holds `pullSem`, one that has not finished has an
action. -/
theorem Goroutine.exists_act (p : Packages) {g : Goroutine} (going : g.phase ≠ .finished)
    (pullSem : Bool) : ∃ a outcome, g.act p pullSem a = some outcome := by
  obtain ⟨step, phase, pull, sent, cancelled⟩ := g
  cases phase with
  | diagnose => exact ⟨.diagnose none, _, rfl⟩
  | create => exact ⟨.create "", _, rfl⟩
  | other => exact ⟨.other (.createFailed ""), _, rfl⟩
  | run requestStr => exact ⟨.unmarshal "", _, rfl⟩
  | acquire image => exact ⟨.tryAcquire, _, rfl⟩
  | pulling image => exact ⟨.pull 0, _, rfl⟩
  | release response => exact ⟨.release, _, rfl⟩
  | respond response => exact ⟨.marshal, _, rfl⟩
  | ran result => exact ⟨.diagnoseAgain none, _, rfl⟩
  | abort reply => exact ⟨.send, _, rfl⟩
  | send reply => exact ⟨.send, _, rfl⟩
  | restart reply => exact ⟨.restart, _, rfl⟩
  | finished => exact absurd rfl going

/-- **What an action can do**, with what it found. -/
inductive Goroutine.Acts (p : Packages) (g : Goroutine) (pullSem : Bool) :
    Action → Goroutine → Bool → Prop
  | clear (at_ : g.phase = .diagnose) :
    Acts p g pullSem (.diagnose none) { g with phase := .create } pullSem
  | disconnected (err : String) (at_ : g.phase = .diagnose) :
    Acts p g pullSem (.diagnose (some err))
      { g with phase := .abort (createStepReply g.step.stepType g.step.stepID "" err mediaDisconnected) }
      pullSem
  | created {phase : Phase} (jsonError : String) (at_ : g.phase = .create)
    (runner : createRunner p g.step jsonError = some phase) :
    Acts p g pullSem (.create jsonError) { g with phase } pullSem
  | otherRan (result : RunnerResult) (at_ : g.phase = .other) :
    Acts p g pullSem (.other result) { g with phase := .ran result } pullSem
  | unmarshalled {requestStr : String} (jsonError : String) (at_ : g.phase = .run requestStr) :
    Acts p g pullSem (.unmarshal jsonError) { g with phase := unmarshalPhase requestStr jsonError } pullSem
  | foundBusy {image : String} (at_ : g.phase = .acquire image) (taken : pullSem = true) :
    Acts p g pullSem .tryAcquire { g with phase := .respond ⟨image, ""⟩, pull := .busy } true
  | acquired {image : String} (at_ : g.phase = .acquire image) (free : pullSem = false) :
    Acts p g pullSem .tryAcquire { g with phase := .pulling image, pull := .running image } true
  | pulled {image : String} (pullExitCode : Int) (at_ : g.phase = .pulling image) :
    Acts p g pullSem (.pull pullExitCode)
      { g with phase := .release ⟨image, pullResult pullExitCode⟩, pull := .exited image pullExitCode }
      pullSem
  | released {response : Response} (at_ : g.phase = .release response) (held : pullSem = true) :
    Acts p g pullSem .release { g with phase := .respond response } false
  | marshalled {response : Response} (at_ : g.phase = .respond response) :
    Acts p g pullSem .marshal { g with phase := .ran (.ran response.marshal "" 0) } pullSem
  | diagnosedAgain {result : RunnerResult} (err : Option String) (at_ : g.phase = .ran result) :
    Acts p g pullSem (.diagnoseAgain err) { g with phase := .send (handleStep g.step none result err) }
      pullSem
  | aborted {reply : StepReply} (at_ : g.phase = .abort reply) :
    Acts p g pullSem .send { g with phase := .finished, sent := some reply } pullSem
  | sent {reply : StepReply} (at_ : g.phase = .send reply) :
    Acts p g pullSem .send { g with phase := .restart reply, sent := some reply } pullSem
  | restarted {reply : StepReply} (at_ : g.phase = .restart reply) :
    Acts p g pullSem .restart { g with phase := .finished, cancelled := requiresRestart reply } pullSem

theorem Goroutine.act_acts {p : Packages} {g next : Goroutine} {pullSem later : Bool} {a : Action}
    (taken : g.act p pullSem a = some (.moved next later)) : g.Acts p pullSem a next later := by
  obtain ⟨step, phase, pull, sent, cancelled⟩ := g
  cases a with
  | diagnose err =>
    cases phase with
    | diagnose =>
      cases err with
      | none =>
        cases taken
        exact .clear rfl
      | some err =>
        cases taken
        exact .disconnected err rfl
    | _ => cases taken
  | create jsonError =>
    cases phase with
    | create =>
      have moved := Option.some.inj taken
      unfold Goroutine.create at moved
      cases runner : createRunner p step jsonError with
      | none =>
        rw [runner] at moved
        cases moved
      | some phase =>
        rw [runner] at moved
        cases moved
        exact .created jsonError rfl runner
    | _ => cases taken
  | other result =>
    cases phase with
    | other =>
      cases taken
      exact .otherRan result rfl
    | _ => cases taken
  | unmarshal jsonError =>
    cases phase with
    | run requestStr =>
      cases taken
      exact .unmarshalled jsonError rfl
    | _ => cases taken
  | tryAcquire =>
    cases phase with
    | acquire image =>
      cases pullSem with
      | true =>
        cases taken
        exact .foundBusy rfl rfl
      | false =>
        cases taken
        exact .acquired rfl rfl
    | _ => cases taken
  | pull pullExitCode =>
    cases phase with
    | pulling image =>
      cases taken
      exact .pulled pullExitCode rfl
    | _ => cases taken
  | release =>
    cases phase with
    | release response =>
      cases pullSem with
      | true =>
        cases taken
        exact .released rfl rfl
      | false => cases taken
    | _ => cases taken
  | marshal =>
    cases phase with
    | respond response =>
      cases taken
      exact .marshalled rfl
    | _ => cases taken
  | diagnoseAgain err =>
    cases phase with
    | ran result =>
      cases taken
      exact .diagnosedAgain err rfl
    | _ => cases taken
  | send =>
    cases phase with
    | abort reply =>
      cases taken
      exact .aborted rfl
    | send reply =>
      cases taken
      exact .sent rfl
    | _ => cases taken
  | restart =>
    cases phase with
    | restart reply =>
      cases taken
      exact .restarted rfl
    | _ => cases taken

/-! ### What is known of a goroutine -/

/-- The step's own pull of the image that it was asked for has succeeded. -/
def Goroutine.Earned (g : Goroutine) : Prop :=
  ∃ image, requested g.step = some image ∧ g.pull = .exited image 0

/-- A reply to the step, which asks for a restart only if the step has earned it. -/
def Goroutine.Answers (g : Goroutine) (reply : StepReply) : Prop :=
  reply.stepType = g.step.stepType ∧ (requiresRestart reply = true → g.Earned)

/-- What each phase knows. -/
def Goroutine.Fits (g : Goroutine) : Prop :=
  match g.phase with
  | .diagnose => True
  | .create => True
  | .other => g.step.stepType ≠ "upgrade-agent"
  | .run requestStr => g.step.args.head? = some requestStr
  | .acquire image => requested g.step = some image
  | .pulling image => requested g.step = some image
  | .release response => response.result = "success" → g.Earned
  | .respond response => response.result = "success" → g.Earned
  | .ran result => ∀ err, g.Answers (handleStep g.step none result err)
  | .abort reply => g.Answers reply
  | .send reply => g.Answers reply
  | .restart reply => g.Answers reply ∧ g.sent = some reply
  | .finished => ∀ reply, g.sent = some reply → g.Answers reply

/-- The reply was handed to `sendStepReply`. -/
def Phase.isLate : Phase → Bool
  | .restart _ => true
  | .finished => true
  | _ => false

structure Goroutine.Ok (g : Goroutine) : Prop where
  fits : g.Fits
  running : ∀ image, g.pull = .running image → g.phase = .pulling image
  unsent : g.phase.isLate = false → g.sent = none
  cancelled : g.cancelled = true →
    g.phase = .finished ∧ ∃ reply, g.sent = some reply ∧ requiresRestart reply = true

variable {p : Packages} {g : Goroutine}

theorem Goroutine.Ok.new (step : Step) : (newGoroutine step).Ok where
  fits := trivial
  running := nofun
  unsent := fun _ => rfl
  cancelled := nofun

/-- A goroutine that goes on to an early phase is fine if it fits the phase. -/
theorem Goroutine.Ok.early (ok : g.Ok) (early : g.phase.isLate = false) {phase : Phase} {pull : Pull}
    (fits : Goroutine.Fits { g with phase, pull })
    (running : ∀ image, pull = .running image → phase = .pulling image) :
    Goroutine.Ok { g with phase, pull } where
  fits := fits
  running := running
  unsent := fun _ => ok.unsent early
  cancelled := by
    intro cancelled
    rw [(ok.cancelled cancelled).1] at early
    cases early

/-- No pull runs in a phase other than `pulling`. -/
theorem Goroutine.Ok.idle (ok : g.Ok) (idle : ∀ image, g.phase ≠ .pulling image) {phase : Phase} :
    ∀ image, g.pull = .running image → phase = .pulling image :=
  fun image running => absurd (ok.running image running) (idle image)

theorem Goroutine.Ok.uncancelled (ok : g.Ok) (going : g.phase ≠ .finished) : g.cancelled ≠ true :=
  fun cancelled => going (ok.cancelled cancelled).1

/-! ### Replies -/

theorem handleStep_stepType (step : Step) (result : RunnerResult) (err : Option String) :
    (handleStep step none result err).stepType = step.stepType := by
  unfold handleStep
  cases result <;> dsimp only [handleSingleStepV2, createStepReply] <;> split <;> rfl

/-- Diagnosing the system leaves the output of the reply. -/
theorem handleStep_output (step : Step) (result : RunnerResult) (err : Option String) :
    (handleStep step none result err).output = (handleSingleStepV2 step result).output := by
  unfold handleStep
  dsimp only
  split <;> rfl

theorem requiresRestart_iff {reply : StepReply} :
    requiresRestart reply = true ↔ reply.stepType = "upgrade-agent" ∧ carriesSuccess reply = true := by
  unfold requiresRestart
  by_cases upgrade : reply.stepType = "upgrade-agent" <;> simp [upgrade]

/-- A reply without an output asks for nothing. -/
theorem carriesSuccess_of_empty {reply : StepReply} (empty : reply.output = "") :
    carriesSuccess reply = false := by
  unfold carriesSuccess
  rw [empty]
  rfl

theorem carriesSuccess_marshal {reply : StepReply} {response : Response}
    (written : reply.output = response.marshal) :
    carriesSuccess reply = true ↔ response.result = "success" := by
  unfold carriesSuccess
  rw [written, unmarshal_marshal]
  exact beq_iff_eq

/-- A reply without an output answers any step. -/
theorem Goroutine.answers_of_empty {reply : StepReply} (type_eq : reply.stepType = g.step.stepType)
    (empty : reply.output = "") : g.Answers reply := by
  refine ⟨type_eq, fun restart => ?_⟩
  rw [requiresRestart_iff, carriesSuccess_of_empty empty] at restart
  cases restart.2

/-- The output of a step of another type asks for nothing. -/
theorem Goroutine.answers_of_other {reply : StepReply} (type_eq : reply.stepType = g.step.stepType)
    (other : g.step.stepType ≠ "upgrade-agent") : g.Answers reply :=
  ⟨type_eq, fun restart => absurd (type_eq.symm.trans (requiresRestart_iff.mp restart).1) other⟩

/-! ### One action -/

/-- A step with another action is of another type. -/
theorem type_of_other {step : Step} {action : Actions.Action}
    (created : Actions.new p step.stepType step.args = .accepted action)
    (other : action ≠ .upgradeAgent) : step.stepType ≠ "upgrade-agent" := by
  intro upgrade
  have found := (Actions.accepted_of_new created).1
  rw [upgrade] at found
  exact other (Option.some.inj found).symm

theorem Goroutine.fits_create {jsonError : String} {phase : Phase}
    (created : createRunner p g.step jsonError = some phase) :
    Goroutine.Fits { g with phase } ∧ Goroutine.holds { g with phase } = false := by
  unfold createRunner at created
  split at created
  · cases created
  · cases created
    exact ⟨fun err => answers_of_empty (handleStep_stepType _ _ _) (handleStep_output _ _ _), rfl⟩
  · rename_i action accepted
    by_cases upgrade : action = .upgradeAgent
    · rw [if_pos upgrade, Option.map_eq_some_iff] at created
      obtain ⟨requestStr, here, rfl⟩ := created
      exact ⟨here, rfl⟩
    · rw [if_neg upgrade] at created
      cases created
      exact ⟨type_of_other accepted upgrade, rfl⟩

theorem Goroutine.fits_unmarshal {requestStr : String} (here : g.step.args.head? = some requestStr)
    (jsonError : String) :
    Goroutine.Fits { g with phase := unmarshalPhase requestStr jsonError } ∧
      Goroutine.holds { g with phase := unmarshalPhase requestStr jsonError } = false := by
  unfold unmarshalPhase
  split
  · exact ⟨fun err => answers_of_empty (handleStep_stepType _ _ _) (handleStep_output _ _ _), rfl⟩
  · rename_i image decoded
    refine ⟨?_, rfl⟩
    change g.step.args.head?.bind unmarshalRequest = some image
    rw [here]
    exact decoded

theorem pullResult_success {pullExitCode : Int} (success : pullResult pullExitCode = "success") :
    pullExitCode = 0 := by
  by_contra failed
  rw [pullResult, if_neg failed] at success
  exact absurd success (by decide)

/-- A goroutine that does not hold `pullSem` goes on to an early phase, and does not hold it there. -/
theorem Goroutine.Ok.goOn (ok : g.Ok) {before : Phase} (at_ : g.phase = before) (phase : Phase)
    (early : before.isLate = false) (unheld : Goroutine.holds { g with phase := before } = false)
    (fits : Goroutine.Fits { g with phase }) (free : Goroutine.holds { g with phase } = false)
    (pullSem : Bool) : Goroutine.Ok { g with phase } ∧
      pullSem.toNat + (Goroutine.holds { g with phase }).toNat = pullSem.toNat + g.holds.toNat := by
  subst at_
  refine ⟨ok.early early fits fun image running => ?_, by rw [free, show g.holds = false from unheld]⟩
  have pulling := ok.running image running
  rw [show Goroutine.holds { g with phase := g.phase } = g.holds from rfl, Goroutine.holds, pulling] at unheld
  cases unheld

/-- **One action keeps what is known of the goroutine**, and it takes or releases `pullSem` as the
goroutine does. -/
theorem Goroutine.Ok.act {pullSem later : Bool} {a : Action} {next : Goroutine} (ok : g.Ok)
    (taken : g.act p pullSem a = some (.moved next later)) :
    next.Ok ∧ pullSem.toNat + next.holds.toNat = later.toNat + g.holds.toNat := by
  -- what the phase before knows
  have fits := ok.fits
  cases act_acts taken with
  | clear at_ => exact ok.goOn at_ .create rfl rfl trivial rfl pullSem
  | disconnected err at_ => exact ok.goOn at_ (.abort _) rfl rfl (answers_of_empty rfl rfl) rfl pullSem
  | created jsonError at_ runner =>
    obtain ⟨fits, free⟩ := fits_create runner
    exact ok.goOn at_ _ rfl rfl fits free pullSem
  | otherRan result at_ =>
    rw [Goroutine.Fits, at_] at fits
    exact ok.goOn at_ (.ran result) rfl rfl
      (fun _ => answers_of_other (handleStep_stepType _ _ _) fits) rfl pullSem
  | unmarshalled jsonError at_ =>
    rw [Goroutine.Fits, at_] at fits
    obtain ⟨fits, free⟩ := fits_unmarshal fits jsonError
    exact ok.goOn at_ _ rfl rfl fits free pullSem
  | foundBusy at_ held =>
    have unheld : g.holds = false := by rw [Goroutine.holds, at_]
    rw [unheld, held]
    exact ⟨ok.early (at_ ▸ rfl) (fun success => absurd success (show "" ≠ "success" by decide)) nofun, rfl⟩
  | acquired at_ free =>
    rw [Goroutine.Fits, at_] at fits
    have unheld : g.holds = false := by rw [Goroutine.holds, at_]
    rw [unheld, free]
    exact ⟨ok.early (at_ ▸ rfl) fits fun _ running => by cases running; rfl, rfl⟩
  | @pulled image pullExitCode at_ =>
    rw [Goroutine.Fits, at_] at fits
    have held : g.holds = true := by rw [Goroutine.holds, at_]
    rw [held]
    refine ⟨ok.early (at_ ▸ rfl) (fun success => ?_) nofun, rfl⟩
    cases pullResult_success success
    exact ⟨image, fits, rfl⟩
  | released at_ held =>
    rw [Goroutine.Fits, at_] at fits
    have holds : g.holds = true := by rw [Goroutine.holds, at_]
    rw [holds, held]
    exact ⟨ok.early (at_ ▸ rfl) fits (ok.idle (at_ ▸ nofun)), rfl⟩
  | marshalled at_ =>
    rw [Goroutine.Fits, at_] at fits
    refine ok.goOn at_ (.ran _) rfl rfl (fun err => ⟨handleStep_stepType _ _ _, fun restart => ?_⟩)
      rfl pullSem
    have carried := (requiresRestart_iff.mp restart).2
    exact fits ((carriesSuccess_marshal (handleStep_output _ _ _)).mp carried)
  | diagnosedAgain err at_ =>
    rw [Goroutine.Fits, at_] at fits
    exact ok.goOn at_ (.send _) rfl rfl (fits err) rfl pullSem
  | aborted at_ =>
    rw [Goroutine.Fits, at_] at fits
    have uncancelled := ok.uncancelled (at_ ▸ nofun)
    refine ⟨⟨fun _ is => Option.some.inj is ▸ fits, ok.idle (at_ ▸ nofun), nofun, fun cancelled => ?_⟩,
      by simp only [Goroutine.holds, at_]⟩
    exact absurd cancelled uncancelled
  | sent at_ =>
    rw [Goroutine.Fits, at_] at fits
    have uncancelled := ok.uncancelled (at_ ▸ nofun)
    refine ⟨⟨⟨fits, rfl⟩, ok.idle (at_ ▸ nofun), nofun, fun cancelled => ?_⟩,
      by simp only [Goroutine.holds, at_]⟩
    exact absurd cancelled uncancelled
  | @restarted reply at_ =>
    rw [Goroutine.Fits, at_] at fits
    obtain ⟨answers, is⟩ := fits
    exact ⟨⟨fun _ other => Option.some.inj (is.symm.trans other) ▸ answers, ok.idle (at_ ▸ nofun), nofun,
      fun restart => ⟨rfl, reply, is, restart⟩⟩, by simp only [Goroutine.holds, at_]⟩

/-- Only `restart` calls `cancel`. -/
theorem Goroutine.act_cancelled {pullSem later : Bool} {a : Action} {next : Goroutine}
    (taken : g.act p pullSem a = some (.moved next later)) (uncalled : g.cancelled = false)
    (called : next.cancelled = true) : ∃ reply, g.phase = .restart reply ∧ requiresRestart reply = true := by
  cases act_acts taken with
  | restarted at_ => exact ⟨_, at_, called⟩
  | _ => cases uncalled.symm.trans called

/-- A goroutine that calls `cancel` has sent a successful reply before. -/
theorem Goroutine.Ok.cancels {pullSem later : Bool} {a : Action} {next : Goroutine} (ok : g.Ok)
    (taken : g.act p pullSem a = some (.moved next later)) (uncalled : g.cancelled = false)
    (called : next.cancelled = true) :
    g.step.stepType = "upgrade-agent" ∧ ∃ reply, g.sent = some reply ∧ carriesSuccess reply = true := by
  obtain ⟨reply, here, restart⟩ := act_cancelled taken uncalled called
  have fits := ok.fits
  rw [Goroutine.Fits, here] at fits
  obtain ⟨upgrade, carried⟩ := requiresRestart_iff.mp restart
  exact ⟨fits.1.1.symm.trans upgrade, reply, fits.2, carried⟩

/-- The reply of a goroutine answers its step. -/
theorem Goroutine.Ok.answers (ok : g.Ok) {reply : StepReply} (is : g.reply = some reply) :
    g.Answers reply := by
  have fits := ok.fits
  obtain ⟨step, phase, pull, sent, cancelled⟩ := g
  cases phase with
  | abort made => exact Option.some.inj is ▸ fits
  | send made => exact Option.some.inj is ▸ fits
  | restart made => exact Option.some.inj (fits.2.symm.trans is) ▸ fits.1
  | finished => exact fits reply is
  | _ => cases (ok.unsent rfl).symm.trans is

/-! ### The agent -/

/-- The goroutines of `handleSteps` and `pullSem`. -/
structure Agent extends System Goroutine where
  panicked : Bool
deriving DecidableEq

def newAgent : Agent := ⟨⟨[], false⟩, false⟩

inductive Label
  /-- `handleSteps` starts the goroutine of an instruction. -/
  | spawn (step : Step)
  | act (i : Nat) (a : Action)

def Agent.step (p : Packages) (s : Agent) (label : Label) : Option Agent :=
  if s.panicked then none
  else
    match label with
    | .spawn step => some ⟨s.toSystem.spawn (newGoroutine step), false⟩
    | .act i a =>
      match s.threads[i]?.bind (·.act p s.held a) with
      | none => none
      | some (.moved g pullSem) => some ⟨s.toSystem.move i g pullSem, false⟩
      | some .panicked => some { s with panicked := true }

structure Agent.Inv (s : Agent) : Prop where
  ok : ∀ g ∈ s.threads, g.Ok
  balanced : Balanced Goroutine.holds s.toSystem

theorem Agent.Inv.new : newAgent.Inv := ⟨fun _ mem => absurd mem List.not_mem_nil, rfl⟩

/-- **One step of the agent keeps the invariant.** -/
theorem Agent.Inv.step {s next : Agent} {label : Label} (inv : s.Inv)
    (taken : s.step p label = some next) : next.Inv := by
  unfold Agent.step at taken
  split at taken
  · cases taken
  split at taken
  · rename_i step
    cases taken
    refine ⟨fun g mem => ?_, inv.balanced.spawn rfl⟩
    rcases List.mem_append.mp mem with old | new
    · exact inv.ok g old
    · exact List.mem_singleton.mp new ▸ Goroutine.Ok.new step
  · rename_i i a
    split at taken
    · cases taken
    · rename_i g pullSem moved
      obtain ⟨before, here, acted⟩ := Option.bind_eq_some_iff.mp moved
      obtain ⟨ok, alike⟩ := (inv.ok before (List.mem_of_getElem? here)).act acted
      cases taken
      refine ⟨fun u mem => ?_, inv.balanced.move here alike⟩
      rcases System.mem_move mem with rfl | old
      · exact ok
      · exact inv.ok u old
    · cases taken
      exact ⟨inv.ok, inv.balanced⟩

theorem Agent.Inv.of_reachable {s : Agent}
    (reach : Reachable (ofPartial (Agent.step p)) newAgent s) : s.Inv :=
  reach.invariant Agent.Inv.new fun _ _ _ inv taken => inv.step taken

/-- **`pullSem` is never released more than held.** -/
theorem Agent.release_ne_panicked {s : Agent}
    (reach : Reachable (ofPartial (Agent.step p)) newAgent s) (mem : g ∈ s.threads)
    {response : Response} (here : g.phase = .release response) :
    g.act p s.held .release = some (.moved { g with phase := .respond response } false) := by
  have inv := Agent.Inv.of_reachable reach
  have held : s.held = true := inv.balanced.held mem (by rw [Goroutine.holds, here])
  unfold Goroutine.act
  rw [here, held]
  rfl

/-- The agent restarts only after an upgrade of its own. -/
structure Agent.RestartsGenuinely (p : Packages) (s : Agent) : Prop where
  onePull : ∀ (i j : Nat) (g g' : Goroutine) image image', s.threads[i]? = some g →
    s.threads[j]? = some g' → g.pull = .running image → g'.pull = .running image' → i = j
  success : ∀ g ∈ s.threads, ∀ reply, g.step.stepType = "upgrade-agent" → g.reply = some reply →
    carriesSuccess reply = true →
      ∃ image, requested g.step = some image ∧ g.pull = .exited image 0
  busy : ∀ g ∈ s.threads, ∀ reply, g.step.stepType = "upgrade-agent" → g.pull = .busy →
    g.reply = some reply → carriesSuccess reply = false
  /-- When `cancel` is called, the reply was sent before. -/
  cancel : ∀ g ∈ s.threads, ∀ a next pullSem, g.act p s.held a = some (.moved next pullSem) →
    g.cancelled = false → next.cancelled = true →
      g.step.stepType = "upgrade-agent" ∧ ∃ reply, g.sent = some reply ∧ carriesSuccess reply = true
  cancelled : ∀ g ∈ s.threads, g.cancelled = true →
    g.step.stepType = "upgrade-agent" ∧ ∃ reply, g.sent = some reply ∧ carriesSuccess reply = true
  free : (∀ g ∈ s.threads, g.phase = .finished) → s.held = false

theorem Goroutine.Ok.earned (ok : g.Ok) {reply : StepReply}
    (upgrade : g.step.stepType = "upgrade-agent") (is : g.reply = some reply)
    (carried : carriesSuccess reply = true) : g.Earned := by
  obtain ⟨type_eq, earned⟩ := ok.answers is
  exact earned (requiresRestart_iff.mpr ⟨type_eq.trans upgrade, carried⟩)

theorem Goroutine.Ok.holds_of_running (ok : g.Ok) {image : String} (running : g.pull = .running image) :
    g.holds = true := by
  rw [Goroutine.holds, ok.running image running]

/-- **The agent restarts only after a genuine upgrade**, however its steps interleave. -/
theorem restarts_genuinely {s : Agent}
    (reach : Reachable (ofPartial (Agent.step p)) newAgent s) : s.RestartsGenuinely p := by
  have inv := Agent.Inv.of_reachable reach
  refine ⟨?onePull, ?success, ?busy, ?cancel, ?cancelled, ?free⟩
  case onePull =>
    intro i j g g' image image' here here' running running'
    have holds := (inv.ok g (List.mem_of_getElem? here)).holds_of_running running
    have holds' := (inv.ok g' (List.mem_of_getElem? here')).holds_of_running running'
    exact inv.balanced.unique here holds here' holds'
  case success => exact fun g mem reply upgrade is carried => (inv.ok g mem).earned upgrade is carried
  case busy =>
    intro g mem reply upgrade busy is
    by_contra carried
    obtain ⟨image, -, exited⟩ := (inv.ok g mem).earned upgrade is (Bool.of_not_eq_false carried)
    cases busy.symm.trans exited
  case cancel =>
    exact fun g mem a next pullSem taken uncalled called =>
      (inv.ok g mem).cancels taken uncalled called
  case cancelled =>
    intro g mem cancelled
    obtain ⟨finished, reply, sent, restart⟩ := (inv.ok g mem).cancelled cancelled
    have is : g.reply = some reply := by rw [Goroutine.reply, finished, sent]
    obtain ⟨upgrade, carried⟩ := requiresRestart_iff.mp restart
    exact ⟨((inv.ok g mem).answers is).1.symm.trans upgrade, reply, sent, carried⟩
  case free =>
    intro finished
    refine inv.balanced.free fun g mem => ?_
    rw [Goroutine.holds, finished g mem]

/-! ### The same goroutines in the step processor -/

/-- Where the goroutine stands in the step processor: there it runs its step in one action, and sends the
reply in several. -/
def Goroutine.outline (g : Goroutine) : Commands.Goroutine :=
  match g.phase with
  | .abort reply => .lookup reply
  | .send reply => .lookup reply
  | .restart _ => .finished
  | .finished => .finished
  | _ => .handling g.step

/-- What the step processor sees of an action. -/
inductive Goroutine.Seen (g next : Goroutine) : Prop
  | inside (same : next.outline = g.outline) (kept : next.sent = g.sent)
  | handled {step : Step} (before : Option String) (result : RunnerResult) (after : Option String)
    (here : g.outline = .handling step)
    (replied : next.outline = .lookup (handleStep step before result after)) (kept : next.sent = g.sent)
  | sent {reply : StepReply} (here : g.outline = .lookup reply) (done : next.outline = .finished)
    (unsent : g.sent = none) (handed : next.sent = some reply)

theorem Goroutine.outline_create {jsonError : String} {phase : Phase}
    (created : createRunner p g.step jsonError = some phase) :
    Goroutine.outline { g with phase } = .handling g.step := by
  unfold createRunner at created
  split at created
  · cases created
  · cases created
    rfl
  · split at created
    · obtain ⟨requestStr, -, rfl⟩ := Option.map_eq_some_iff.mp created
      rfl
    · cases created
      rfl

theorem Goroutine.outline_unmarshal (g : Goroutine) (requestStr jsonError : String) :
    Goroutine.outline { g with phase := unmarshalPhase requestStr jsonError } = .handling g.step := by
  unfold unmarshalPhase
  split <;> rfl

theorem Goroutine.Ok.seen {pullSem later : Bool} {a : Action} {next : Goroutine} (ok : g.Ok)
    (taken : g.act p pullSem a = some (.moved next later)) : g.Seen next := by
  have outline {phase : Phase} (at_ : g.phase = phase) :
      g.outline = Goroutine.outline { g with phase } := by rw [← at_]
  cases act_acts taken with
  | disconnected err at_ => exact .handled (some err) (.createFailed "") none (outline at_) rfl rfl
  | diagnosedAgain err at_ => exact .handled none _ err (outline at_) rfl rfl
  | created jsonError at_ runner => exact .inside ((outline_create runner).trans (outline at_).symm) rfl
  | unmarshalled jsonError at_ =>
    exact .inside ((outline_unmarshal g _ jsonError).trans (outline at_).symm) rfl
  | aborted at_ => exact .sent (outline at_) rfl (ok.unsent (at_ ▸ rfl)) rfl
  | sent at_ => exact .sent (outline at_) rfl (ok.unsent (at_ ▸ rfl)) rfl
  | clear at_ => exact .inside (outline at_).symm rfl
  | otherRan result at_ => exact .inside (outline at_).symm rfl
  | foundBusy at_ held => exact .inside (outline at_).symm rfl
  | acquired at_ free => exact .inside (outline at_).symm rfl
  | pulled pullExitCode at_ => exact .inside (outline at_).symm rfl
  | released at_ held => exact .inside (outline at_).symm rfl
  | marshalled at_ => exact .inside (outline at_).symm rfl
  | restarted at_ => exact .inside (outline at_).symm rfl

/-- The step processor has a goroutine for each one here, and the service no reply but theirs. -/
structure Agent.FollowedBy (s : Agent) (processor : Commands.Agent) : Prop where
  polling : processor.main = .polling
  goroutines : processor.goroutines = s.threads.map Goroutine.outline
  accepted : ∀ reply ∈ processor.accepted, ∃ g ∈ s.threads, g.sent = some reply

/-- A goroutine moves on and takes back no reply. -/
theorem exists_sent_set {threads : List Goroutine} {i : Nat} {g next : Goroutine}
    (here : threads[i]? = some g) (kept : ∀ reply, g.sent = some reply → next.sent = some reply)
    {reply : StepReply} (sent : ∃ g ∈ threads, g.sent = some reply) :
    ∃ g ∈ threads.set i next, g.sent = some reply := by
  obtain ⟨sender, mem, is⟩ := sent
  obtain ⟨j, at_⟩ := List.getElem?_of_mem mem
  by_cases same : i = j
  · subst same
    cases here.symm.trans at_
    exact ⟨next, List.mem_set (List.getElem?_eq_some_iff.mp here).1 next, kept reply is⟩
  · refine ⟨sender, List.mem_of_getElem? (i := j) ?_, is⟩
    rw [List.getElem?_set_ne same, at_]

/-- The step processor takes part in an action of a goroutine. -/
theorem Agent.FollowedBy.act {s : Agent} {processor : Commands.Agent} {i : Nat} {next : Goroutine}
    (followed : s.FollowedBy processor) (here : s.threads[i]? = some g) (seen : g.Seen next)
    (pullSem : Bool) : ∃ labels last, Run Commands.Agent.Steps processor labels last ∧
      Agent.FollowedBy ⟨s.toSystem.move i next pullSem, false⟩ last := by
  have at_i : processor.goroutines[i]? = some g.outline := by
    rw [followed.goroutines, List.getElem?_map, here]
    rfl
  have moved : (s.threads.set i next).map Goroutine.outline = processor.goroutines.set i next.outline := by
    rw [List.map_set, followed.goroutines]
  cases seen with
  | inside same kept =>
    refine ⟨[], processor, .nil _, followed.polling, ?_, fun reply mem => ?_⟩
    · obtain ⟨inside, is⟩ := List.getElem?_eq_some_iff.mp at_i
      exact (moved.trans (by rw [same, ← is, List.set_getElem_self])).symm
    · exact exists_sent_set here (fun _ => kept.trans) (followed.accepted reply mem)
  | @handled step before result after here' replied kept =>
    rw [here'] at at_i
    refine ⟨[.handle i before result after],
      processor.goto i (.lookup (handleStep step before result after)), Run.single ?_,
      followed.polling, ?_, fun reply mem => ?_⟩
    · simp only [Commands.Agent.Steps, ofPartial, Commands.Agent.step, at_i]
    · rw [replied] at moved
      exact moved.symm
    · exact exists_sent_set here (fun _ => kept.trans) (followed.accepted reply mem)
  | sent here' done unsent handed =>
    rw [here'] at at_i
    obtain ⟨labels, -, run⟩ := sendStepReply_run processor i _ none at_i
    rw [done] at moved
    refine ⟨labels, _, run, followed.polling, moved.symm, fun reply mem => ?_⟩
    rcases mem_accepted_sendStepReply mem with rfl | old
    · exact ⟨next, List.mem_set (List.getElem?_eq_some_iff.mp here).1 next, handed⟩
    · exact exists_sent_set here (fun _ is => absurd (unsent.symm.trans is) (Option.some_ne_none _).symm)
        (followed.accepted reply old)

theorem Agent.FollowedBy.step {s next : Agent} {processor : Commands.Agent} {label : Label} (inv : s.Inv)
    (followed : s.FollowedBy processor) (taken : s.step p label = some next) :
    ∃ labels last, Run Commands.Agent.Steps processor labels last ∧ next.FollowedBy last := by
  unfold Agent.step at taken
  split at taken
  · cases taken
  cases label with
  | spawn step =>
    cases taken
    refine ⟨[.poll (.ok ⟨[step], none⟩)], processor.processSingleSession (.ok ⟨[step], none⟩),
      Run.single ?_, rfl, ?_, fun reply mem => ?_⟩
    · simp only [Commands.Agent.Steps, ofPartial, Commands.Agent.step, if_pos followed.polling]
    · simp only [Commands.Agent.processSingleSession, followed.goroutines, System.spawn, List.map_append]
      rfl
    · obtain ⟨g, old, sent⟩ := followed.accepted reply mem
      exact ⟨g, List.mem_append_left _ old, sent⟩
  | act i a =>
    cases acted : s.threads[i]?.bind (·.act p s.held a) with
    | none =>
      simp only [acted] at taken
      cases taken
    | some outcome =>
      simp only [acted] at taken
      obtain ⟨g, here, is⟩ := Option.bind_eq_some_iff.mp acted
      cases outcome with
      | moved g' pullSem =>
        cases taken
        exact followed.act here ((inv.ok g (List.mem_of_getElem? here)).seen is) pullSem
      | panicked =>
        cases taken
        exact ⟨[], processor, .nil _, followed.polling, followed.goroutines, followed.accepted⟩

/-- What is known of the goroutines, and a run of the step processor that leaves its own where these are. -/
structure Agent.Followed (s : Agent) : Prop where
  inv : s.Inv
  processor : ∃ processor, Reachable Commands.Agent.Steps Commands.newAgent processor ∧
    s.FollowedBy processor

/-- **The step processor follows**: for whatever these goroutines do there is a run of the step processor
that leaves its goroutines where these are, and in which the service accepts no reply but those they sent. -/
theorem Agent.exists_followedBy {s : Agent} (reach : Reachable (ofPartial (Agent.step p)) newAgent s) :
    ∃ processor, Reachable Commands.Agent.Steps Commands.newAgent processor ∧ s.FollowedBy processor := by
  have start : newAgent.Followed :=
    ⟨.new, Commands.newAgent, Reachable.refl _, rfl, rfl, fun _ mem => absurd mem List.not_mem_nil⟩
  have all : s.Followed := reach.invariant start fun s label next before taken => by
    obtain ⟨inv, processor, reached, followed⟩ := before
    obtain ⟨labels, last, run, followed⟩ := followed.step inv taken
    exact ⟨inv.step taken, last, reached.trans run, followed⟩
  exact all.processor

/-- The step that asks for an image. -/
def sampleStep (stepID : String) : Step :=
  ⟨["\x7b\"agent_image\":\"agent:v2\"\x7d"], stepID, "upgrade-agent"⟩

/-- Two steps ask for the same image, and the second finds the first one pulling it. -/
def sampleRun : List Label :=
  [.spawn (sampleStep "1"), .spawn (sampleStep "2"), .act 0 (.diagnose none), .act 1 (.diagnose none),
    .act 0 (.create ""), .act 1 (.create ""), .act 0 (.unmarshal ""), .act 1 (.unmarshal ""),
    .act 0 .tryAcquire, .act 1 .tryAcquire, .act 1 .marshal, .act 1 (.diagnoseAgain none), .act 1 .send,
    .act 0 (.pull 0), .act 1 .restart, .act 0 .release, .act 0 .marshal, .act 0 (.diagnoseAgain none),
    .act 0 .send, .act 0 .restart]

def sampleEnd : Agent :=
  let reply (stepID output : String) : StepReply := createStepReply "upgrade-agent" stepID output "" 0
  { threads :=
      [⟨sampleStep "1", .finished, .exited "agent:v2" 0,
          some (reply "1" "\x7b\"agent_image\":\"agent:v2\",\"result\":\"success\"\x7d"), true⟩,
        ⟨sampleStep "2", .finished, .busy, some (reply "2" "\x7b\"agent_image\":\"agent:v2\"\x7d"),
          false⟩]
    held := false
    panicked := false }

theorem sampleRun_restarts : sampleEnd.RestartsGenuinely Actions.samplePackages := by
  have taken : sampleRun.foldlM (Agent.step Actions.samplePackages) newAgent = some sampleEnd := by
    decide +kernel
  exact restarts_genuinely ⟨sampleRun, Run.of_foldlM taken⟩

end AssistedAgent.UpgradeAgent
