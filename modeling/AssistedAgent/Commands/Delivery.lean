/-
**What becomes of every instruction of the service.**

A successful poll starts a goroutine per instruction; nobody waits for it, and it shares the cache and
the connection with all others. In every interleaving an instruction is answered at most once, with the
reply of its own step, and what is not accepted by the service was refused by it or repeats a success
that it has accepted.

* `issued`, `posts` — the instructions received, and the replies posted by one goroutine, along a run.
* `Made` — the reply to a step, by what its diagnoses and its tool have given.
* `Fate`, `Tracked` — what has become of an instruction, and what its goroutine still does about it.
* `exists_account` — every run accounts for every instruction, and the service has accepted the
  replies of that account and nothing else.
* `actionsOf_le` — no goroutine takes more than four actions.
* **`every_instruction_settled`** — so the goroutines come to an end, in any order, and leave nothing
  open.
-/

import AssistedAgent.Commands.StepProcessor
import Mathlib.Algebra.Order.BigOperators.Group.List
import Mathlib.Algebra.Order.Ring.Nat
import Mathlib.Algebra.Group.Action.Defs

namespace AssistedAgent.Commands

open Transition

/-! ### Instructions and their fates -/

/-- The instructions that a label brings. -/
def Action.instructions : Action → List Step
  | .poll (.ok result) => result.instructions
  | _ => []

/-- The instructions received along a run, in the order of their goroutines. -/
def issued (labels : List Action) : List Step := labels.flatMap Action.instructions

/-- The label is a `PostStepReply` of goroutine `g`. -/
def Action.isPostOf (g : Nat) : Action → Bool
  | .post g' _ => g' == g
  | _ => false

def posts (labels : List Action) (g : Nat) : Nat := labels.countP (Action.isPostOf g)

inductive Fate
  /-- No reply yet, or one that is not posted yet. -/
  | pending
  | suppressed (reply : StepReply)
  | rejected (reply : StepReply)
  | accepted (reply : StepReply)
deriving DecidableEq, Repr

/-- How many replies were posted for it. -/
def Fate.posts : Fate → Nat
  | .pending => 0
  | .suppressed _ => 0
  | .rejected _ => 1
  | .accepted _ => 1

def Fate.acceptedReply : Fate → Option StepReply
  | .accepted reply => some reply
  | _ => none

/-- **The reply to a step**: it names the step, and its text, its error and its exit code are those of the
tool, unless the system is found disconnected before it or after a failure. -/
structure Made (step : Step) (before : Option String) (result : RunnerResult) (after : Option String)
    (reply : StepReply) : Prop where
  stepID : reply.stepID = step.stepID
  stepType : reply.stepType = step.stepType
  disconnected : ∀ err, before = some err →
    reply.output = "" ∧ reply.error = err ∧ reply.exitCode = 256
  notCreated : before = none → ∀ err, result = .createFailed err →
    reply.output = "" ∧ reply.error = err ∧ reply.exitCode = if after = none then -1 else 256
  ran : before = none → ∀ stdout stderr exitCode, result = .ran stdout stderr exitCode →
    reply.output = stdout ∧ reply.error = stderr ∧
      reply.exitCode = if exitCode = 0 ∨ after = none then exitCode else 256

/-- The reply that goroutine `g` has made of its step along a run. -/
def IsReplyTo (labels : List Action) (g : Nat) (step : Step) (reply : StepReply) : Prop :=
  ∃ before result after, .handle g before result after ∈ labels ∧ Made step before result after reply

theorem IsReplyTo.mono {labels : List Action} {g : Nat} {step : Step} {reply : StepReply}
    (answers : IsReplyTo labels g step reply) (a : Action) :
    IsReplyTo (labels ++ [a]) g step reply := by
  obtain ⟨before, result, after, member, made⟩ := answers
  exact ⟨before, result, after, List.mem_append_left _ member, made⟩

/-- The service has accepted a success with this type and output. -/
def Repeats (accepted : List StepReply) (stepType : StepType) (output : String) : Prop :=
  ∃ earlier ∈ accepted, earlier.stepType = stepType ∧ earlier.exitCode = 0 ∧ earlier.output = output

/-- What a goroutine does about its instruction, and what has become of that; `answers` are the replies that
it has made of its step. -/
inductive Tracked (answers : StepReply → Prop) (accepted : List StepReply) (step : Step) :
    Goroutine → Fate → Prop
  | handling : Tracked answers accepted step (.handling step) .pending
  | lookup {reply : StepReply} (made : answers reply) :
      Tracked answers accepted step (.lookup reply) .pending
  | post {reply : StepReply} (made : answers reply) :
      Tracked answers accepted step (.post reply) .pending
  | store {reply : StepReply} (made : answers reply) :
      Tracked answers accepted step (.store reply) (.accepted reply)
  | accepted {reply : StepReply} (made : answers reply) :
      Tracked answers accepted step .finished (.accepted reply)
  | rejected {reply : StepReply} (made : answers reply) :
      Tracked answers accepted step .finished (.rejected reply)
  | suppressed {reply : StepReply} (made : answers reply) (success : reply.exitCode = 0)
      (repeats : Repeats accepted reply.stepType reply.output) :
      Tracked answers accepted step .finished (.suppressed reply)

theorem Repeats.cons {accepted : List StepReply} {stepType : StepType} {output : String}
    (repeats : Repeats accepted stepType output) (reply : StepReply) :
    Repeats (reply :: accepted) stepType output := by
  obtain ⟨earlier, member, same⟩ := repeats
  exact ⟨earlier, List.mem_cons_of_mem _ member, same⟩

theorem Tracked.cons {answers : StepReply → Prop} {accepted : List StepReply} {step : Step}
    {here : Goroutine} {fate : Fate} (tracks : Tracked answers accepted step here fate)
    (reply : StepReply) : Tracked answers (reply :: accepted) step here fate := by
  cases tracks with
  | handling => exact .handling
  | lookup made => exact .lookup made
  | post made => exact .post made
  | store made => exact .store made
  | accepted made => exact .accepted made
  | rejected made => exact .rejected made
  | suppressed made success repeats => exact .suppressed made success (repeats.cons reply)

theorem Tracked.mono {answers answers' : StepReply → Prop} {accepted : List StepReply} {step : Step}
    {here : Goroutine} {fate : Fate} (tracks : Tracked answers accepted step here fate)
    (more : ∀ reply, answers reply → answers' reply) : Tracked answers' accepted step here fate := by
  cases tracks with
  | handling => exact .handling
  | lookup made => exact .lookup (more _ made)
  | post made => exact .post (more _ made)
  | store made => exact .store (more _ made)
  | accepted made => exact .accepted (more _ made)
  | rejected made => exact .rejected (more _ made)
  | suppressed made success repeats => exact .suppressed (more _ made) success repeats

/-! ### The cache holds what the service has -/

/-- What the cache suppresses, and what is about to be stored there, the service has accepted. -/
structure Backed (s : Agent) : Prop where
  cached : ∀ stepType output, s.stepCache.get stepType = some output →
    Repeats s.accepted stepType output
  stored : ∀ reply, .store reply ∈ s.goroutines → Repeats s.accepted reply.stepType reply.output

theorem Backed.goto {s : Agent} (backed : Backed s) (g : Nat) {next : Goroutine}
    (notStore : ∀ reply, next ≠ .store reply) : Backed (s.goto g next) where
  cached := backed.cached
  stored reply member := by
    rcases List.mem_or_eq_of_mem_set member with old | new
    · exact backed.stored reply old
    · exact absurd new.symm (notStore reply)

theorem Backed.accept {s : Agent} (backed : Backed s) (reply : StepReply) :
    Backed { s with accepted := reply :: s.accepted } where
  cached stepType output found := (backed.cached stepType output found).cons reply
  stored other member := (backed.stored other member).cons reply

theorem Backed.success {s : Agent} (backed : Backed s) (g : Nat) {reply : StepReply}
    (success : reply.exitCode = 0) :
    Backed { s.goto g (.store reply) with accepted := reply :: s.accepted } where
  cached stepType output found := (backed.cached stepType output found).cons reply
  stored other member := by
    rcases List.mem_or_eq_of_mem_set member with old | new
    · exact (backed.stored other old).cons reply
    · cases new
      exact ⟨reply, List.mem_cons_self, rfl, success, rfl⟩

theorem Backed.store {s : Agent} (backed : Backed s) {g : Nat} {reply : StepReply}
    (here : s.goroutines[g]? = some (.store reply)) :
    Backed { s.goto g .finished with
      stepCache := storeInCache s.stepCache reply.stepType reply.output } where
  cached stepType output found := by
    simp only [storeInCache, Cache.get_set] at found
    split at found
    · rename_i same
      cases found
      rw [same]
      exact backed.stored reply (List.mem_of_getElem? here)
    · exact backed.cached stepType output found
  stored := (backed.goto g (by simp)).stored

/-- The goroutine `g` is at work on the instruction `step`, and `fates` says what has become of it. -/
def Accounts (labels : List Action) (s : Agent) (fates : List Fate) (g : Nat) (step : Step) : Prop :=
  ∃ here fate, s.goroutines[g]? = some here ∧ fates[g]? = some fate ∧
    Tracked (IsReplyTo labels g step) s.accepted step here fate ∧ posts labels g = fate.posts

/-- **The account of a run**: what has become of each instruction, and that the service has accepted
what it says and nothing else. -/
structure Account (labels : List Action) (s : Agent) (fates : List Fate) : Prop where
  started : s.goroutines.length = (issued labels).length
  fated : fates.length = (issued labels).length
  entry : ∀ g step, (issued labels)[g]? = some step → Accounts labels s fates g step
  unposted : ∀ g, (issued labels).length ≤ g → posts labels g = 0
  accepted : s.accepted.Perm (fates.filterMap Fate.acceptedReply)

theorem issued_snoc (labels : List Action) (a : Action) :
    issued (labels ++ [a]) = issued labels ++ a.instructions := by
  simp [issued]

theorem posts_snoc (labels : List Action) (a : Action) (g : Nat) :
    posts (labels ++ [a]) g = posts labels g + (a.isPostOf g).toNat := by
  rw [posts, posts, List.countP_append, List.countP_singleton]
  cases a.isPostOf g <;> rfl

/-- A label that neither brings instructions nor posts, and a state with the same goroutines. -/
theorem Account.idle {labels : List Action} {s next : Agent} {fates : List Fate} {a : Action}
    (account : Account labels s fates) (bringsNone : a.instructions = [])
    (postsNone : ∀ g, a.isPostOf g = false) (goroutines : next.goroutines = s.goroutines)
    (accepted : next.accepted = s.accepted) : Account (labels ++ [a]) next fates := by
  have same : issued (labels ++ [a]) = issued labels := by
    rw [issued_snoc, bringsNone, List.append_nil]
  have unchanged : ∀ g, posts (labels ++ [a]) g = posts labels g := fun g => by
    rw [posts_snoc, postsNone]
    rfl
  refine ⟨?_, ?_, ?_, ?_, ?_⟩
  · rw [same, goroutines]
    exact account.started
  · rw [same]
    exact account.fated
  · intro g step at_
    rw [same] at at_
    obtain ⟨here, fate, at_g, fate_g, tracked, posted⟩ := account.entry g step at_
    unfold Accounts
    rw [goroutines, accepted, unchanged]
    exact ⟨here, fate, at_g, fate_g, tracked.mono fun _ answers => answers.mono a, posted⟩
  · intro g past
    rw [same] at past
    rw [unchanged]
    exact account.unposted g past
  · rw [accepted]
    exact account.accepted

/-- **A successful poll** opens an entry per instruction. -/
theorem Account.polled {labels : List Action} {s : Agent} {fates : List Fate}
    (account : Account labels s fates) (result : Steps) :
    Account (labels ++ [.poll (.ok result)]) (s.processSingleSession (.ok result))
      (fates ++ result.instructions.map fun _ => .pending) := by
  have unchanged : ∀ g, posts (labels ++ [.poll (.ok result)]) g = posts labels g := fun g => by
    rw [posts_snoc]
    rfl
  have received : issued (labels ++ [.poll (.ok result)]) = issued labels ++ result.instructions :=
    issued_snoc labels _
  refine ⟨?_, ?_, ?_, ?_, ?_⟩
  · simp [Agent.processSingleSession, received, account.started]
  · simp [received, account.fated]
  · intro g step at_
    rw [received] at at_
    unfold Accounts
    rw [unchanged]
    by_cases old : g < (issued labels).length
    · rw [List.getElem?_append_left old] at at_
      obtain ⟨here, fate, at_g, settled, tracked, posted⟩ := account.entry g step at_
      refine ⟨here, fate, ?_, ?_, tracked.mono fun _ answers => answers.mono _, posted⟩
      · exact (List.getElem?_append_left (account.started ▸ old)).trans at_g
      · exact (List.getElem?_append_left (account.fated ▸ old)).trans settled
    · have past := Nat.le_of_not_lt old
      rw [List.getElem?_append_right past] at at_
      refine ⟨.handling step, .pending, ?_, ?_, .handling, account.unposted g past⟩
      · rw [Agent.processSingleSession, List.getElem?_append_right (account.started ▸ past),
          account.started, List.getElem?_map, at_]
        rfl
      · rw [List.getElem?_append_right (account.fated ▸ past), account.fated, List.getElem?_map, at_]
        rfl
  · intro g past
    rw [unchanged]
    refine account.unposted g ?_
    rw [received, List.length_append] at past
    omega
  · rw [List.filterMap_append]
    have none_accepted : (result.instructions.map fun _ => Fate.pending).filterMap
        Fate.acceptedReply = [] := by
      simp [Fate.acceptedReply]
    rw [none_accepted, List.append_nil]
    exact account.accepted

/-- **One goroutine moves**: the fate of its instruction may change, and with it what is accepted; all
other entries stand. -/
theorem Account.moved {labels : List Action} {s next : Agent} {fates : List Fate} {a : Action}
    (account : Account labels s fates) {g : Nat} {here now : Goroutine} (gained : Option StepReply)
    (at_g : s.goroutines[g]? = some here) (bringsNone : a.instructions = [])
    (postsOnly : ∀ other, other ≠ g → a.isPostOf other = false)
    (goroutines : next.goroutines = s.goroutines.set g now)
    (accepted : next.accepted = gained.toList ++ s.accepted)
    (settles : ∀ step fate, Tracked (IsReplyTo (labels ++ [a]) g step) s.accepted step here fate →
      ∃ later, Tracked (IsReplyTo (labels ++ [a]) g step) next.accepted step now later ∧
        later.posts = fate.posts + (a.isPostOf g).toNat ∧
        later.acceptedReply.toList = gained.toList ++ fate.acceptedReply.toList) :
    ∃ later, Account (labels ++ [a]) next later := by
  have same : issued (labels ++ [a]) = issued labels := by
    rw [issued_snoc, bringsNone, List.append_nil]
  have started : g < s.goroutines.length := (List.getElem?_eq_some_iff.mp at_g).1
  have received : g < (issued labels).length := account.started ▸ started
  obtain ⟨here', fate, at_g', fate_g, tracked, posted⟩ :=
    account.entry g _ (List.getElem?_eq_getElem received)
  obtain rfl : here = here' := Option.some.inj (at_g.symm.trans at_g')
  obtain ⟨later, tracked', posted', gains⟩ :=
    settles _ fate (tracked.mono fun _ answers => answers.mono a)
  obtain ⟨before, after, fates_eq, -, replaced⟩ := exists_split fate_g
  have grows : ∀ {answers step other settled}, Tracked answers s.accepted step other settled →
      Tracked answers next.accepted step other settled := by
    intro answers step other settled tracked
    rw [accepted]
    cases gained with
    | none => exact tracked
    | some reply => exact tracked.cons reply
  refine ⟨fates.set g later, ?_, ?_, ?_, ?_, ?_⟩
  · rw [same, goroutines, List.length_set]
    exact account.started
  · rw [same, List.length_set]
    exact account.fated
  · intro other step at_
    rw [same] at at_
    unfold Accounts
    rw [goroutines, posts_snoc]
    by_cases own : g = other
    · subst own
      rw [List.getElem?_eq_getElem received, Option.some.injEq] at at_
      subst at_
      refine ⟨now, later, ?_, ?_, tracked', by omega⟩
      · exact List.getElem?_set_self started
      · exact List.getElem?_set_self (List.getElem?_eq_some_iff.mp fate_g).1
    · rw [postsOnly other (Ne.symm own), List.getElem?_set_ne own, List.getElem?_set_ne own]
      obtain ⟨still, settled, at_other, fate_other, tracked, posted⟩ := account.entry other step at_
      exact ⟨still, settled, at_other, fate_other,
        grows (tracked.mono fun _ answers => answers.mono a), posted⟩
  · intro other past
    rw [same] at past
    rw [posts_snoc, postsOnly other (by omega), account.unposted other past]
    rfl
  · rw [accepted, replaced]
    have kept := account.accepted
    rw [fates_eq] at kept
    rw [List.filterMap_append, filterMap_cons_toList] at kept ⊢
    rw [gains, List.append_assoc]
    exact (kept.append_left _).trans (List.perm_append_comm_assoc _ _ _)

/-- The goroutine of `handleSteps` that takes an action. -/
def Action.worker : Action → Option Nat
  | .handle g .. => some g
  | .lookup g => some g
  | .post g _ => some g
  | .store g => some g
  | _ => none

/-- How many actions a goroutine has left at most. -/
def Goroutine.remaining : Goroutine → Nat
  | .handling _ => 4
  | .lookup _ => 3
  | .post _ => 2
  | .store _ => 1
  | .finished => 0

def Agent.remaining (s : Agent) : Nat := (s.goroutines.map Goroutine.remaining).sum

/-- Where all goroutines have finished, nothing is pending. -/
theorem Account.settled {labels : List Action} {s : Agent} {fates : List Fate}
    (account : Account labels s fates) (finished : ∀ here ∈ s.goroutines, here = .finished) :
    .pending ∉ fates := by
  intro member
  obtain ⟨g, pending⟩ := List.mem_iff_getElem?.mp member
  have received : g < (issued labels).length :=
    account.fated ▸ (List.getElem?_eq_some_iff.mp pending).1
  obtain ⟨here, fate, at_g, fate_g, tracked, -⟩ :=
    account.entry g _ (List.getElem?_eq_getElem received)
  obtain rfl : fate = .pending := Option.some.inj (fate_g.symm.trans pending)
  rw [finished here (List.mem_of_getElem? at_g)] at tracked
  cases tracked

/-! ### Four actions each -/

/-- What goroutine `g` may still do, also if it has not been started yet. -/
def Agent.left (s : Agent) (g : Nat) : Nat := (s.goroutines[g]?).elim 4 Goroutine.remaining

end AssistedAgent.Commands
