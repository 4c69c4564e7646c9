/-
**The verification of virtual IP addresses.**

`verifyVips` verifies the addresses of the request one after the other, and returns at the first error.
The elements of the request are pointers, which the verifier dereferences.

* **`verifyVips_eq_none_iff`** — it dereferences a nil pointer exactly when the request has one before
  the first error.
-/

import AssistedAgent.Actions.Validate
import AssistedAgent.Lib.JsonPointers
import AssistedAgent.Util.Network

namespace AssistedAgent.VipsVerifier

open Actions GoJson GoRegexp Util

/-! ### The models -/

/-- `models.VerifyVip`. -/
structure VerifyVip where
  vip : String
  vipType : String
deriving DecidableEq, Repr

def VerifyVip.zero : VerifyVip := ⟨"", ""⟩

def decodeVip : Json → VerifyVip → Option VerifyVip
  | .null, vip => some vip
  | .object members, vip => do
    let address ← fieldAt "vip" decodeString vip.vip members
    let vipType ← fieldAt "vip_type" decodeString vip.vipType members
    some ⟨address, vipType⟩
  | _, _ => none

/-- `json.Unmarshal` to `models.VerifyVipsRequest`. -/
def unmarshalRequest (json : Json) : Option (List (Option VerifyVip)) :=
  (decodeSlice (decodePointer decodeVip .zero) none json .nil).map (·.elems)

def ipRegex : Regex := .whole [.opt addressChoice]

def ipPattern : String :=
  "^(?:(?:(?:[0-9]\x7b1,3\x7d\\.)\x7b3\x7d[0-9]\x7b1,3\x7d)|(?:(?:[0-9a-fA-F]*:[0-9a-fA-F]*)\x7b2,\x7d))?$"

def VerifyVip.validate (vip : VerifyVip) : Option ModelError :=
  compositeLines [
    (validateFilled (validatePattern ipPattern ipRegex "vip") vip.vip).map ([.message ·]),
    (validateFilled (validateEnum ["api", "ingress"] "vip_type") vip.vipType).map ([.message ·])]

/-- `models.VerifyVipsRequest`. -/
def verifyVipsRequest : Model (List (Option VerifyVip)) where
  unmarshal := unmarshalRequest
  validate vips := (validatePointers VerifyVip.validate toString vips).map ModelError.text

inductive VipVerification
  | succeeded
  | failed
deriving DecidableEq, Repr

def VipVerification.text : VipVerification → String
  | .succeeded => "succeeded"
  | .failed => "failed"

/-- `models.VerifiedVip`. -/
structure VerifiedVip where
  verification : VipVerification
  vip : String
  vipType : String
deriving DecidableEq, Repr

/-- `json.Marshal` of a result. -/
def VerifiedVip.marshal (v : VerifiedVip) : String :=
  object [⟨"verification", v.verification.text, true⟩, ⟨"vip", v.vip, true⟩,
    ⟨"vip_type", v.vipType, true⟩]

/-- `json.Marshal` of the response, which is nil if there was nothing to verify. -/
def marshalResponse (response : List VerifiedVip) : String :=
  if response = [] then "null" else "[" ++ ",".intercalate (response.map VerifiedVip.marshal) ++ "]"

/-! ### The verifiers -/

/-- What a tool or an action returns. -/
structure Output where
  stdout : String
  stderr : String
  exitCode : Int
deriving DecidableEq, Repr

/-- What the verifier takes from outside: what the executer returns for the address with this index,
`xml.Unmarshal` of what nmap writes, and the error of `json.Unmarshal`. -/
structure World where
  execute : Nat → List String → Output
  unmarshalXML : String → Except String Nmaprun
  jsonError : String → String

/-- A verifier, for the element with this index; `none` is a panic. -/
abbrev Verifier := Nat → Option VerifyVip → Option (Except String VerifiedVip)

def dryVerifyVip : Verifier
  | _, none => none
  | _, some vipToVerify => some (.ok ⟨.succeeded, vipToVerify.vip, vipToVerify.vipType⟩)

/-- Some host that is up has an address. -/
def answered (nmaprun : Nmaprun) : Bool :=
  nmaprun.hosts.any fun h =>
    h.state == "up" && h.addresses.any fun a => a.addrType == "ipv4" || a.addrType == "ipv6"

def nmapCommand (vip : String) : List String :=
  if isIPv4Addr vip then ["nmap", "-sn", "-n", "-oX", "-", vip]
  else ["nmap", "-6", "-sn", "-n", "-oX", "-", vip]

def verifyVip (w : World) : Verifier
  | _, none => none
  | i, some vipToVerify =>
    let run := w.execute i (nmapCommand vipToVerify.vip)
    if run.exitCode ≠ 0 then
      some (.error ("nmap exited with code " ++ toString run.exitCode ++ ": " ++ run.stderr))
    else
      match w.unmarshalXML run.stdout with
      | .error err => some (.error ("XML Unmarshal: " ++ err))
      | .ok nmaprun =>
        some (.ok ⟨if answered nmaprun then .failed else .succeeded, vipToVerify.vip, vipToVerify.vipType⟩)

def bailOut (errStr : String) : Output := ⟨"", errStr, -1⟩

/-- The loop of `verifyVips`, from the element with this index. -/
def verifyLoop (verifier : Verifier) : Nat → List (Option VerifyVip) → List VerifiedVip → Option Output
  | _, [], response => some ⟨marshalResponse response, "", 0⟩
  | i, vipToVerify :: rest, response =>
    match verifier i vipToVerify with
    | none => none
    | some (.error err) =>
      some (bailOut ("failed to verify vip " ++ vipToVerify.elim "" (·.vip) ++ ": " ++ err))
    | some (.ok verified) => verifyLoop verifier (i + 1) rest (response ++ [verified])

def verifyVips (w : World) (verifier : Verifier) (arg : String) : Option Output :=
  match (parse arg).bind unmarshalRequest with
  | none => some (bailOut ("failed to unmarshal argument: " ++ w.jsonError arg))
  | some request => verifyLoop verifier 0 request []

/-- The verifier of an agent, which may be on a dry run. -/
def verifierOf (w : World) (dryRunEnabled : Bool) : Verifier :=
  if dryRunEnabled then dryVerifyVip else verifyVip w

def VerifyVips (w : World) (dryRunEnabled : Bool) : List String → Option Output
  | [arg] => verifyVips w (verifierOf w dryRunEnabled) arg
  | args => some (bailOut ("expected 1 argument.  Received " ++ toString args.length))

/-! ### Nil pointers -/

theorem verifyVip_eq_none_iff {w : World} {i : Nat} {pointer : Option VerifyVip} :
    verifyVip w i pointer = none ↔ pointer = none := by
  cases pointer with
  | none => simp [verifyVip]
  | some vip =>
    refine ⟨fun panicked => ?_, nofun⟩
    unfold verifyVip at panicked
    dsimp only at panicked
    split at panicked
    · cases panicked
    · split at panicked <;> cases panicked

theorem verifierOf_eq_none_iff {w : World} {dryRunEnabled : Bool} {i : Nat}
    {pointer : Option VerifyVip} : verifierOf w dryRunEnabled i pointer = none ↔ pointer = none := by
  cases dryRunEnabled with
  | false => exact verifyVip_eq_none_iff
  | true => cases pointer <;> simp [verifierOf, dryVerifyVip]

/-- A nil pointer comes before the first error. -/
def ReachesNull (verifier : Verifier) (i : Nat) (request : List (Option VerifyVip)) : Prop :=
  ∃ before after, request = before ++ none :: after ∧
    ∀ j pointer, before[j]? = some pointer → ∃ verified, verifier (i + j) pointer = some (.ok verified)

theorem reachesNull_cons_iff {verifier : Verifier} {i : Nat} {vip : VerifyVip}
    {rest : List (Option VerifyVip)} :
    ReachesNull verifier i (some vip :: rest) ↔
      (∃ verified, verifier i (some vip) = some (.ok verified)) ∧ ReachesNull verifier (i + 1) rest := by
  constructor
  · rintro ⟨before, after, is, verified⟩
    cases before with
    | nil => cases is
    | cons first before =>
      obtain ⟨rfl, rfl⟩ := List.cons.inj is
      refine ⟨verified 0 _ rfl, before, after, rfl, fun j pointer at_j => ?_⟩
      rw [Nat.add_right_comm]
      exact verified (j + 1) pointer at_j
  · rintro ⟨first, before, after, rfl, verified⟩
    refine ⟨some vip :: before, after, rfl, fun j pointer at_j => ?_⟩
    cases j with
    | zero =>
      cases at_j
      exact first
    | succ j =>
      rw [← Nat.add_assoc, Nat.add_right_comm]
      exact verified j pointer at_j

/-- What one element contributes to the loop is in `reachesNull_cons_iff`; the induction is over the rest
of the request. -/
theorem verifyLoop_eq_none_iff {verifier : Verifier}
    (panics : ∀ i pointer, verifier i pointer = none ↔ pointer = none) {i : Nat}
    {request : List (Option VerifyVip)} {response : List VerifiedVip} :
    verifyLoop verifier i request response = none ↔ ReachesNull verifier i request := by
  induction request generalizing i response with
  | nil =>
    constructor
    · exact nofun
    · rintro ⟨before, after, is, -⟩
      simp at is
  | cons pointer rest ih =>
    cases pointer with
    | none =>
      have panicked := (panics i none).mpr rfl
      unfold verifyLoop
      rw [panicked]
      exact ⟨fun _ => ⟨[], rest, rfl, nofun⟩, fun _ => rfl⟩
    | some vip =>
      have returns : verifier i (some vip) ≠ none := fun panicked => by cases (panics i _).mp panicked
      rw [reachesNull_cons_iff]
      unfold verifyLoop
      split
      · exact absurd ‹_› returns
      · rename_i err failed
        refine ⟨nofun, fun ⟨⟨verified, is⟩, _⟩ => ?_⟩
        rw [failed] at is
        cases is
      · rename_i verified is
        rw [ih]
        exact ⟨fun reached => ⟨⟨verified, is⟩, reached⟩, And.right⟩

/-- **A nil pointer is dereferenced exactly when one comes before the first error.** -/
theorem verifyVips_eq_none_iff {w : World} {dryRunEnabled : Bool} {arg : String}
    {request : List (Option VerifyVip)} (decoded : (parse arg).bind unmarshalRequest = some request) :
    VerifyVips w dryRunEnabled [arg] = none ↔ ReachesNull (verifierOf w dryRunEnabled) 0 request := by
  rw [VerifyVips, verifyVips, decoded]
  exact verifyLoop_eq_none_iff fun _ _ => verifierOf_eq_none_iff

end AssistedAgent.VipsVerifier
