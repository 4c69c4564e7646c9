/-
**Requests to the assisted service.**

All requests of a session, registrations, polls and step replies alike, go through a transport that sends
them again after temporary errors and while the service is unavailable.

* `policy` — when, and after how long.
* **`request_delivered`** — a request ends after at most four attempts and fourteen seconds of waiting,
  each attempt has the whole body, and no response is leaked. As in `Lib.Rehttp`, the transport below is
  assumed to be done with the body of an attempt once it has answered.
-/

import AssistedAgent.Lib.Rehttp
import Mathlib.Algebra.Ring.Nat

namespace AssistedAgent.Session

open Interaction Rehttp

/-- An error of the transport, and whether it has a method `Temporary` that returns true. -/
structure TransportError where
  message : String
  temporary : Bool
deriving DecidableEq, Repr

structure Response where
  statusCode : Int
deriving DecidableEq, Repr

def retries : Nat := 3

def minDelay : Nat := 2 * 10 ^ 9

def maxDelay : Nat := 10 * 10 ^ 9

/-- `RetryAny`, of a temporary error and of two statuses. -/
def retriable : Except TransportError Response → Bool
  | .error err => err.temporary
  | .ok res => [503, 504].contains res.statusCode

/-- The policy of `createBmInventoryClient`. -/
def policy : Policy TransportError Response where
  retry index answer := decide (index < retries) && retriable answer
  top index := min maxDelay (minDelay * 2 ^ index)

theorem index_of_retry {index : Nat} {answer : Except TransportError Response}
    (again : policy.retry index answer = true) : index < retries :=
  of_decide_eq_true (Bool.and_eq_true_iff.mp again).1

/-- What becomes of a request whose body could be read. -/
structure Delivered (body : Option (List UInt8))
    (events : List (Event (Rehttp.Answer TransportError Response)))
    (outcome : Result TransportError Response) : Prop where
  delivers : Delivers policy 0 body events outcome
  few : (sends events).length ≤ 4
  brief : (sleeps events).sum < 14 * 10 ^ 9
  /-- An answer after which the service might be tried again is returned only after four attempts. -/
  persistent : ∀ answer, outcome = .answered answer → retriable answer = true → (sends events).length = 4

theorem sum_lt_of_waits {delays : List Nat} (few : delays.length ≤ 3)
    (waits : ∀ i delay, delays[i]? = some delay → delay < policy.top (0 + i)) :
    delays.sum < 14 * 10 ^ 9 := by
  match delays, few with
  | [], _ => decide
  | [a], _ =>
    have first := waits 0 a rfl
    simp only [policy, maxDelay, minDelay] at first
    simp only [List.sum_cons, List.sum_nil]
    omega
  | [a, b], _ =>
    have first := waits 0 a rfl
    have second := waits 1 b rfl
    simp only [policy, maxDelay, minDelay] at first second
    simp only [List.sum_cons, List.sum_nil]
    omega
  | [a, b, c], _ =>
    have first := waits 0 a rfl
    have second := waits 1 b rfl
    have third := waits 2 c rfl
    simp only [policy, maxDelay, minDelay] at first second third
    simp only [List.sum_cons, List.sum_nil]
    omega

theorem Delivered.of_delivers {body : Option (List UInt8)}
    {events : List (Event (Rehttp.Answer TransportError Response))}
    {outcome : Result TransportError Response} (delivers : Delivers policy 0 body events outcome) :
    Delivered body events outcome := by
  obtain ⟨earlier, last, answers, again, ends⟩ := delivers.answers
  have count : (sends events).length = earlier.length + 1 := by
    rw [← List.length_map (f := Prod.snd), answers, List.length_append]
    rfl
  have early : earlier.length ≤ 3 := by
    by_contra more
    have inside : 3 < earlier.length := by omega
    exact absurd (index_of_retry (again 3 _ (List.getElem?_eq_getElem inside))) (by decide)
  have slept : (sleeps events).length ≤ 3 := by
    rcases ends with ⟨-, -, -, same⟩ | ⟨-, canceled, -, same⟩
    · omega
    · have := index_of_retry canceled
      unfold retries at this
      omega
  refine ⟨delivers, by omega, sum_lt_of_waits slept delivers.waits, fun answer answered more => ?_⟩
  rcases ends with ⟨returned, final, -, -⟩ | ⟨canceled, -⟩
  · rw [returned, Result.answered.injEq] at answered
    subst answered
    have spent : retries ≤ earlier.length := by simpa [policy, more] using final
    unfold retries at spent
    omega
  · rw [canceled] at answered
    cases answered

/-- **Every request is delivered, or is not sent at all.** Whatever the service and the network do: if the
body can be read, every attempt sends all of it; there are at most four attempts and less than fourteen
seconds of waiting; only temporary errors and the two statuses lead to another attempt; and every response
that is not returned has been read and closed. The transport below is done with the body of an attempt once
it has answered. -/
theorem request_delivered {fuel : Nat} (enough : 4 ≤ fuel) {hasBody : Bool}
    {events : List (Event (Rehttp.Answer TransportError Response))}
    {result : Option (Result TransportError Response)}
    (run : Runs (roundTrip policy fuel hasBody) events result) : ∃ outcome, result = some outcome ∧
      ((hasBody = false ∧ Delivered none events outcome) ∨
        (∃ err, hasBody = true ∧ outcome = .unread err ∧
          events = [⟨.copyBody, .error err⟩, ⟨.closeBody, ()⟩]) ∨
        ∃ bytes rest, hasBody = true ∧ events = ⟨.copyBody, .ok bytes⟩ :: ⟨.closeBody, ()⟩ :: rest ∧
          Delivered (some bytes) rest outcome) := by
  have ended : ∀ {br : Option Reader} {events : List (Event (Rehttp.Answer TransportError Response))},
      Runs (attempts policy fuel 0 br) events result → ∃ outcome, result = some outcome :=
    attempts_ends (fun _ _ => index_of_retry) (by unfold retries; omega) (Nat.zero_le _)
  unfold roundTrip at run
  cases hasBody with
  | false =>
    rw [if_neg Bool.false_ne_true] at run
    obtain ⟨outcome, rfl⟩ := ended run
    exact ⟨outcome, rfl, .inl ⟨rfl, .of_delivers (attempts_delivers (by simp) run)⟩⟩
  | true =>
    rw [if_pos rfl] at run
    obtain ⟨copied, afterCopy, rfl, copies⟩ := runs_request_bind.mp run
    obtain ⟨⟨⟩, rest, rfl, closed⟩ := runs_request_bind.mp copies
    cases copied with
    | error err =>
      obtain ⟨rfl, rfl⟩ := runs_pure.mp closed
      exact ⟨_, rfl, .inr (.inl ⟨err, rfl, rfl, rfl⟩)⟩
    | ok bytes =>
      obtain ⟨outcome, rfl⟩ := ended closed
      have delivers := attempts_delivers (by simp) closed
      exact ⟨outcome, rfl, .inr (.inr ⟨bytes, rest, rfl, rfl, .of_delivers delivers⟩)⟩

/-- A service that answers the second attempt, after it has read a part of the body of the first. -/
theorem request_delivered_again : ∃ events,
    Runs (roundTrip policy 4 true) events (some (.answered (.ok ⟨200⟩))) ∧
      ∃ rest, Delivered (some [0x7b, 0x7d]) rest (.answered (.ok ⟨200⟩)) := by
  have positive : 0 < policy.top 0 := by decide
  have run : Runs (roundTrip policy 4 true)
      [⟨.copyBody, .ok [0x7b, 0x7d]⟩, ⟨.closeBody, ()⟩, ⟨.send (some [0x7b, 0x7d]), (.ok ⟨503⟩, 1)⟩,
        ⟨.jitter (policy.top 0), ⟨0, positive⟩⟩, ⟨.discard ⟨503⟩, ()⟩, ⟨.sleep 0, true⟩,
        ⟨.send (some [0x7b, 0x7d]), (.ok ⟨200⟩, 2)⟩] (some (.answered (.ok ⟨200⟩))) :=
    .ask (.ask (.ask (.ask (.ask (.ask (.ask (.ret _)))))))
  obtain ⟨outcome, same, ⟨none, -⟩ | ⟨err, -, -, unread⟩ | ⟨bytes, rest, -, events, delivered⟩⟩ :=
    request_delivered (le_refl 4) run
  · cases none
  · cases unread
  · cases same
    cases events
    exact ⟨_, run, _, delivered⟩

end AssistedAgent.Session
