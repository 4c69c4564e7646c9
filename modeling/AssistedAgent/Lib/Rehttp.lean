/-
**Requests that are sent again.**

A transport wraps another one. It buffers the body of a request and sends it; as long as a policy asks for
another attempt it disposes of the response, waits, rewinds the body and sends it again. Sending consumes
the body, as far as the peer reads it.

Assumption: the wrapped transport is done with the body once it has answered. A `RoundTripper` is allowed
to read on and close the body later, in a goroutine of its own; one that did would move the reader that the
next attempt shares with it.

* `Policy`, `roundTrip` — the transport, for any policy.
* `sends`, `discards`, `sleeps` — what a run did.
* **`attempts_delivers`** — every attempt sends the whole body; all but the last were such that the policy
  asks for another, and what is returned is the answer to the last, unless the request was cancelled; every
  response that is not returned has been disposed of.
-/

import AssistedAgent.Lib.Interaction

namespace Rehttp

open Interaction

variable {ε ρ : Type}

/-! ### The transport -/

/-- When to send again after the attempt of an index, and below what the wait is drawn. -/
structure Policy (ε ρ : Type) where
  retry : Nat → Except ε ρ → Bool
  top : Nat → Nat

inductive Call (ρ : Type)
  /-- `io.Copy` of the request's body. -/
  | copyBody
  | closeBody
  /-- `RoundTrip` of the wrapped transport, with what can be read from the body. -/
  | send (body : Option (List UInt8))
  /-- The response is read to its end and closed. -/
  | discard (res : ρ)
  /-- A random number. -/
  | jitter (top : Nat)
  /-- `select`, for the time or for a cancellation. -/
  | sleep (delay : Nat)

/-- The answer of `send` has the number of bytes that were read, by assumption all that this attempt ever
reads; the one of `sleep` has whether the time is over. -/
def Answer (ε ρ : Type) : Call ρ → Type
  | .copyBody => Except ε (List UInt8)
  | .closeBody => Unit
  | .send _ => Except ε ρ × Nat
  | .discard _ => Unit
  | .jitter top => Fin top
  | .sleep _ => Bool

/-- `bytes.Reader`. -/
structure Reader where
  bytes : List UInt8
  pos : Nat

def Reader.rest (r : Reader) : List UInt8 := r.bytes.drop r.pos

def Reader.advance (r : Reader) (n : Nat) : Reader := { r with pos := r.pos + n }

def Reader.rewind (r : Reader) : Reader := { r with pos := 0 }

inductive Result (ε ρ : Type)
  | answered (res : Except ε ρ)
  | canceled
  /-- The body could not be read. -/
  | unread (err : ε)

/-- The program of one call. -/
abbrev ask (call : Call ρ) : Prog (Answer ε ρ) (Answer ε ρ call) := request call

def disposeOf : Except ε ρ → Prog (Answer ε ρ) Unit
  | .ok res => ask (.discard res)
  | .error _ => pure ()

/-- The attempts from an index on; `none` if there are more than the fuel. Nothing moves the reader between
the answer and the next attempt but the rewind: the transport is done with the body. -/
def attempts (policy : Policy ε ρ) : Nat → Nat → Option Reader → Prog (Answer ε ρ) (Option (Result ε ρ))
  | 0, _, _ => pure none
  | fuel + 1, index, br => do
    let answer : Except ε ρ × Nat ← ask (.send (br.map Reader.rest))
    if policy.retry index answer.1 then
      let delay : Fin (policy.top index) ← ask (.jitter (policy.top index))
      let br := (br.map (Reader.advance · answer.2)).map Reader.rewind
      disposeOf answer.1
      let fired : Bool ← ask (.sleep delay.val)
      if fired then attempts policy fuel (index + 1) br else pure (some .canceled)
    else pure (some (.answered answer.1))

/-- `RoundTrip`. -/
def roundTrip (policy : Policy ε ρ) (fuel : Nat) (hasBody : Bool) :
    Prog (Answer ε ρ) (Option (Result ε ρ)) :=
  if hasBody then do
    let copied : Except ε (List UInt8) ← ask .copyBody
    let _ : Unit ← ask .closeBody
    match copied with
    | .error err => pure (some (.unread err))
    | .ok bytes => attempts policy fuel 0 (some ⟨bytes, 0⟩)
  else attempts policy fuel 0 none

/-! ### What a run did -/

/-- A body that was sent, and the answer. -/
def sentBy : Event (Answer ε ρ) → Option (Option (List UInt8) × Except ε ρ)
  | ⟨.send body, answer⟩ => some (body, answer.1)
  | _ => none

def discardedBy : Event (Answer ε ρ) → Option ρ
  | ⟨.discard res, _⟩ => some res
  | _ => none

def sleptBy : Event (Answer ε ρ) → Option Nat
  | ⟨.sleep delay, _⟩ => some delay
  | _ => none

def sends (events : List (Event (Answer ε ρ))) : List (Option (List UInt8) × Except ε ρ) :=
  events.filterMap sentBy

def discards (events : List (Event (Answer ε ρ))) : List ρ := events.filterMap discardedBy

def sleeps (events : List (Event (Answer ε ρ))) : List Nat := events.filterMap sleptBy

/-- The responses among answers. -/
def responses (answers : List (Except ε ρ)) : List ρ :=
  answers.filterMap fun
    | .ok res => some res
    | .error _ => none

section Views

variable (events more : List (Event (Answer ε ρ)))

@[simp] theorem sends_append : sends (events ++ more) = sends events ++ sends more :=
  List.filterMap_append

@[simp] theorem discards_append : discards (events ++ more) = discards events ++ discards more :=
  List.filterMap_append

@[simp] theorem sleeps_append : sleeps (events ++ more) = sleeps events ++ sleeps more :=
  List.filterMap_append

end Views

/-! ### One attempt -/

theorem runs_disposeOf {res : Except ε ρ} {events : List (Event (Answer ε ρ))}
    (run : Runs (disposeOf res) events ()) :
    sends events = [] ∧ sleeps events = [] ∧ discards events = responses [res] := by
  cases res with
  | ok res =>
    have answered : events = [⟨.discard res, ()⟩] := runs_request.mp run
    subst answered
    exact ⟨rfl, rfl, rfl⟩
  | error err =>
    obtain ⟨rfl, -⟩ := runs_pure.mp run
    exact ⟨rfl, rfl, rfl⟩

/-- **What one attempt can lead to.** -/
theorem runs_attempts {policy : Policy ε ρ} {fuel index : Nat} {br : Option Reader}
    {events : List (Event (Answer ε ρ))} {result : Option (Result ε ρ)}
    (run : Runs (attempts policy (fuel + 1) index br) events result) :
    ∃ res, (policy.retry index res = false ∧ result = some (.answered res) ∧
        sends events = [(br.map Reader.rest, res)] ∧ discards events = [] ∧ sleeps events = []) ∨
      policy.retry index res = true ∧ ∃ delay < policy.top index,
        (result = some .canceled ∧ sends events = [(br.map Reader.rest, res)] ∧
          discards events = responses [res] ∧ sleeps events = [delay]) ∨
        ∃ rest, Runs (attempts policy fuel (index + 1) (br.map Reader.rewind)) rest result ∧
          sends events = (br.map Reader.rest, res) :: sends rest ∧
          discards events = responses [res] ++ discards rest ∧ sleeps events = delay :: sleeps rest := by
  rw [attempts] at run
  obtain ⟨answer, events, rfl, answered⟩ := runs_request_bind.mp run
  refine ⟨answer.1, ?_⟩
  split at answered
  · rename_i retries
    obtain ⟨delay, events, rfl, drawn⟩ := runs_request_bind.mp answered
    obtain ⟨⟨⟩, disposed, events, rfl, disposes, waited⟩ := runs_bind.mp drawn
    obtain ⟨fired, events, rfl, woken⟩ := runs_request_bind.mp waited
    obtain ⟨noSends, noSleeps, discarded⟩ := runs_disposeOf disposes
    refine .inr ⟨retries, delay.val, delay.isLt, ?_⟩
    have sent : ∀ more, sends (⟨.send (br.map Reader.rest), answer⟩ ::
        ⟨.jitter (policy.top index), delay⟩ :: (disposed ++ ⟨.sleep delay.val, fired⟩ :: more)) =
          (br.map Reader.rest, answer.1) :: sends more := by
      intro more
      change (br.map Reader.rest, answer.1) :: sends (disposed ++ _) = _
      rw [sends_append, noSends]
      rfl
    have thrown : ∀ more, discards (⟨.send (br.map Reader.rest), answer⟩ ::
        ⟨.jitter (policy.top index), delay⟩ :: (disposed ++ ⟨.sleep delay.val, fired⟩ :: more)) =
          responses [answer.1] ++ discards more := by
      intro more
      change discards (disposed ++ _) = _
      rw [discards_append, discarded]
      rfl
    have slept : ∀ more, sleeps (⟨.send (br.map Reader.rest), answer⟩ ::
        ⟨.jitter (policy.top index), delay⟩ :: (disposed ++ ⟨.sleep delay.val, fired⟩ :: more)) =
          delay.val :: sleeps more := by
      intro more
      change sleeps (disposed ++ _) = _
      rw [sleeps_append, noSleeps]
      rfl
    split at woken
    · refine .inr ⟨events, ?_, sent events, thrown events, slept events⟩
      rwa [Option.map_map] at woken
    · obtain ⟨rfl, rfl⟩ := runs_pure.mp woken
      exact .inl ⟨rfl, sent [], (thrown []).trans (List.append_nil _), slept []⟩
  · rename_i final
    obtain ⟨rfl, rfl⟩ := runs_pure.mp answered
    exact .inl ⟨Bool.eq_false_iff.mpr final, rfl, rfl, rfl, rfl⟩

/-! ### All attempts -/

/-- What a run of attempts, from an index on, has done with a body. -/
structure Delivers (policy : Policy ε ρ) (index : Nat) (body : Option (List UInt8))
    (events : List (Event (Answer ε ρ))) (result : Result ε ρ) : Prop where
  /-- Every attempt sends all of the body. -/
  whole : ∀ sent ∈ sends events, sent.1 = body
  /-- All answers but the last make the policy try again. The last is returned, or the request was
  cancelled after it, and all others are disposed of. -/
  answers : ∃ earlier last, (sends events).map Prod.snd = earlier ++ [last] ∧
    (∀ i res, earlier[i]? = some res → policy.retry (index + i) res = true) ∧
    ((result = .answered last ∧ policy.retry (index + earlier.length) last = false ∧
        discards events = responses earlier ∧ (sleeps events).length = earlier.length) ∨
      (result = .canceled ∧ policy.retry (index + earlier.length) last = true ∧
        discards events = responses (earlier ++ [last]) ∧ (sleeps events).length = earlier.length + 1))
  /-- Every wait is below its bound. -/
  waits : ∀ i delay, (sleeps events)[i]? = some delay → delay < policy.top (index + i)

/-- An attempt before those of a run. -/
theorem Delivers.cons {policy : Policy ε ρ} {index delay : Nat} {body : Option (List UInt8)}
    {events more : List (Event (Answer ε ρ))} {result : Result ε ρ} {res : Except ε ρ}
    (rest : Delivers policy (index + 1) body more result) (sent : sends events = (body, res) :: sends more)
    (retries : policy.retry index res = true)
    (thrown : discards events = responses [res] ++ discards more)
    (slept : sleeps events = delay :: sleeps more) (below : delay < policy.top index) :
    Delivers policy index body events result := by
  obtain ⟨whole, ⟨earlier, last, answers, again, ends⟩, waits⟩ := rest
  have shift : ∀ i, index + 1 + i = index + (i + 1) := fun i => by omega
  have responses_cons : ∀ answers, responses [res] ++ responses answers = responses (res :: answers) :=
    fun answers => (List.filterMap_append (l := [res])).symm
  refine ⟨?_, ⟨res :: earlier, last, ?_, ?_, ?_⟩, ?_⟩
  · rw [sent]
    exact List.forall_mem_cons.mpr ⟨rfl, whole⟩
  · rw [sent, List.map_cons, answers]
    rfl
  · intro i answer at_
    rcases i with _ | i
    · cases at_
      exact retries
    · rw [← shift]
      exact again i answer at_
  · rw [thrown, slept, List.length_cons, List.length_cons, ← shift]
    refine ends.imp ?_ ?_
    · rintro ⟨rfl, final, discarded, count⟩
      exact ⟨rfl, final, by rw [discarded, responses_cons], by rw [count]⟩
    · rintro ⟨rfl, canceled, discarded, count⟩
      exact ⟨rfl, canceled, by rw [discarded, responses_cons]; rfl, by rw [count]⟩
  · intro i wait at_
    rw [slept] at at_
    rcases i with _ | i
    · cases at_
      exact below
    · rw [← shift]
      exact waits i wait at_

/-- **Every run of attempts delivers the body.** -/
theorem attempts_delivers {policy : Policy ε ρ} {fuel index : Nat} {br : Option Reader}
    (fresh : ∀ r ∈ br, r.pos = 0) {events : List (Event (Answer ε ρ))} {result : Result ε ρ}
    (run : Runs (attempts policy fuel index br) events (some result)) :
    Delivers policy index (br.map Reader.bytes) events result := by
  induction fuel generalizing index br events with
  | zero =>
    obtain ⟨-, none⟩ := runs_pure.mp run
    cases none
  | succ fuel ih =>
    have unread : br.map Reader.rest = br.map Reader.bytes := by
      cases br with
      | none => rfl
      | some r => simp [Reader.rest, fresh r rfl]
    obtain ⟨res, ⟨final, answered, sent, thrown, slept⟩ | ⟨retries, delay, below, rest⟩⟩ :=
      runs_attempts run
    · cases answered
      refine ⟨by simp [sent, unread], ⟨[], res, ?_, nofun, .inl ⟨rfl, final, thrown, ?_⟩⟩, ?_⟩
      · rw [sent]
        rfl
      · rw [slept]
        rfl
      · rw [slept]
        exact nofun
    rcases rest with ⟨canceled, sent, thrown, slept⟩ | ⟨more, later, sent, thrown, slept⟩
    · cases canceled
      refine ⟨by simp [sent, unread], ⟨[], res, ?_, nofun, .inr ⟨rfl, retries, thrown, ?_⟩⟩, ?_⟩
      · rw [sent]
        rfl
      · rw [slept]
        rfl
      · intro i wait at_
        rw [slept] at at_
        obtain ⟨rfl, rfl⟩ : i = 0 ∧ delay = wait := by
          rcases i with _ | i
          · exact ⟨rfl, Option.some.inj at_⟩
          · cases at_
        exact below
    · have rewound : (br.map Reader.rewind).map Reader.bytes = br.map Reader.bytes := by
        cases br <;> rfl
      have start : ∀ r ∈ br.map Reader.rewind, r.pos = 0 := by
        intro r member
        obtain ⟨_, -, rfl⟩ := Option.map_eq_some_iff.mp member
        rfl
      have rest := ih start later
      rw [rewound] at rest
      exact rest.cons (unread ▸ sent) retries thrown slept below

/-- **A policy that stops makes the attempts end.** -/
theorem attempts_ends {policy : Policy ε ρ} {most : Nat}
    (stops : ∀ index res, policy.retry index res = true → index < most) {fuel index : Nat}
    (enough : most < index + fuel) {br : Option Reader} {events : List (Event (Answer ε ρ))}
    {result : Option (Result ε ρ)} (below : index ≤ most)
    (run : Runs (attempts policy fuel index br) events result) : ∃ outcome, result = some outcome := by
  induction fuel generalizing index br events with
  | zero => omega
  | succ fuel ih =>
    obtain ⟨res, ⟨-, answered, -⟩ | ⟨retries, delay, -, ⟨canceled, -⟩ | ⟨more, later, -⟩⟩⟩ :=
      runs_attempts run
    · exact ⟨_, answered⟩
    · exact ⟨_, canceled⟩
    · exact ih (by omega) (stops index res retries) later

end Rehttp
