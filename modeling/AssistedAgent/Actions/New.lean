/-
**The actions of the steps, and what their validation guards.**

`New` looks the action of a step up and validates its arguments. Two actions then decode the argument
again, into lists of pointers.

* `Action.validate_panicked_iff` — the validation of an action panics exactly when its model is null.
* **`guards_iff`** — `New` returns, and the run of an accepted action dereferences no nil pointer,
  exactly when the argument is not null and has no null where the run reads one.
* `not_guards_null` — steps for which they do not.
-/

import AssistedAgent.Actions.DiskPerfCheck
import AssistedAgent.Actions.InstallCommand
import AssistedAgent.Actions.LogsGather
import AssistedAgent.Commands.ReplyCache
import AssistedAgent.Connectivity.Params
import AssistedAgent.VipsVerifier.Verify

namespace AssistedAgent.Actions

open Commands Connectivity GoJson VipsVerifier

/-! ### The actions -/

inductive Action
  | inventory
  | connectivityCheck
  | freeAddresses
  | ntpSynchronizer
  | diskPerfCheck
  | apiVipConnectivityCheck
  | tangConnectivityCheck
  | dhcpLeases
  | domainResolution
  | imageAvailability
  | stopInstallation
  | logsGather
  | install
  | upgradeAgent
  | downloadBootArtifacts
  | rebootForReclaim
  | vipsVerifier
deriving DecidableEq, Repr

def stepActionMap : List (StepType × Action) :=
  [("inventory", .inventory), ("connectivity-check", .connectivityCheck),
    ("free-network-addresses", .freeAddresses), ("ntp-synchronizer", .ntpSynchronizer),
    ("installation-disk-speed-check", .diskPerfCheck),
    ("api-vip-connectivity-check", .apiVipConnectivityCheck),
    ("tang-connectivity-check", .tangConnectivityCheck), ("dhcp-lease-allocate", .dhcpLeases),
    ("domain-resolution", .domainResolution), ("container-image-availability", .imageAvailability),
    ("stop-installation", .stopInstallation), ("logs-gather", .logsGather), ("install", .install),
    ("upgrade-agent", .upgradeAgent), ("download-boot-artifacts", .downloadBootArtifacts),
    ("reboot-for-reclaim", .rebootForReclaim), ("verify-vips", .vipsVerifier)]

/-- What the validations take from other packages and from the host. A generated model that is only
validated is one of the documents that it is decoded from. -/
structure Packages extends Install.Validators where
  generated : Action → Model Json
  /-- `validations.ValidateAdditionalNTPSource`. -/
  additionalNTPSource : String → Bool
  logsGatherCmdRequest : Model LogsGather.Request
  installCmdRequest : Json → Option Install.InstallCmdRequest
  fs : Install.HostFs

/-- `models.NtpSynchronizationRequest`, by its source. -/
def ntpSynchronizationRequest : Model (Option String) where
  unmarshal
    | .object members => fieldAt "ntp_source" decodeStringPointer none members
    | _ => none
  validate ntpSource := if ntpSource = none then some (requiredError "ntp_source") else none

def validateNtpSynchronizer (p : Packages) (args : List String) : Validation Unit :=
  (validateCommon "ntp synchronizer" 1 args ntpSynchronizationRequest).bind fun request =>
    let ntpSource := request.getD ""
    if ntpSource ≠ "" ∧ p.additionalNTPSource ntpSource = false then
      .rejected (.action ("Invalid NTP source: " ++ ntpSource))
    else .accepted ()

def validateInventory (p : Packages) (args : List String) : Validation Unit :=
  (validateCommonNil "inventory" 1 args).bind fun _ =>
    match args with
    | [] => .panicked
    | arg :: _ =>
      if p.isUUID arg then .accepted ()
      else .rejected (.action
        ("inventory cmd accepts only 1 params in args and it should be UUID, given args " ++
          formatArgs args))

/-- An action that only validates its model. -/
def validateOnly {α : Type} (name : String) (model : Model α) (args : List String) : Validation Unit :=
  (validateCommon name 1 args model).map fun _ => ()

/-- `Validate` of each action. The template of `logsGather` is executed without an error. -/
def Action.validate (p : Packages) (args : List String) : Action → Validation Unit
  | .inventory => validateInventory p args
  | .connectivityCheck => validateOnly "connectivity check" (connectivityCheckParams p.toFormats) args
  | .freeAddresses => validateOnly "free addresses" (p.generated .freeAddresses) args
  | .ntpSynchronizer => validateNtpSynchronizer p args
  | .diskPerfCheck => DiskPerfCheck.validate args
  | .apiVipConnectivityCheck =>
    validateOnly "api vip connectivity check" (p.generated .apiVipConnectivityCheck) args
  | .tangConnectivityCheck =>
    validateOnly "tang connectivity check" (p.generated .tangConnectivityCheck) args
  | .dhcpLeases => validateOnly "dhcp leases" (p.generated .dhcpLeases) args
  | .domainResolution => validateOnly "domain resolution" (p.generated .domainResolution) args
  | .imageAvailability => validateOnly "image availability" (p.generated .imageAvailability) args
  | .stopInstallation => validateCommonNil "stop installation" 0 args
  | .logsGather => validateOnly "logs gather" p.logsGatherCmdRequest args
  | .install => (Install.validate p.toValidators p.installCmdRequest p.fs args).map fun _ => ()
  | .upgradeAgent => validateOnly "upgrade agent" (p.generated .upgradeAgent) args
  | .downloadBootArtifacts =>
    validateOnly "download boot artifacts" (p.generated .downloadBootArtifacts) args
  | .rebootForReclaim => validateOnly "reboot for reclaim" (p.generated .rebootForReclaim) args
  | .vipsVerifier => validateOnly "vip verifier" verifyVipsRequest args

/-- `New`. -/
def new (p : Packages) (stepType : StepType) (args : List String) : Validation Action :=
  match stepActionMap.lookup stepType with
  | none => .rejected (.action ("failed to find action for step type " ++ stepType))
  | some action => (action.validate p args).map fun _ => action

/-! ### Panics of the validation -/

/-- How many arguments an action has, if the first is decoded to a model. -/
def Action.modelArgs : Action → Option Nat
  | .inventory => none
  | .stopInstallation => none
  | .diskPerfCheck => some 2
  | _ => some 1

/-- The first of so many arguments is null. -/
def NullFirst (n : Nat) (args : List String) : Prop :=
  ∃ arg rest, args = arg :: rest ∧ args.length = n ∧ parse arg = some .null

theorem validateOnly_panicked_iff {α : Type} {name : String} {model : Model α} {args : List String} :
    validateOnly name model args = .panicked ↔ NullFirst 1 args :=
  Validation.map_panicked_iff.trans (validateCommon_panicked_iff Nat.one_ne_zero)

theorem validateCommonNil_ne_panicked {name : String} {n : Nat} {args : List String} :
    validateCommonNil name n args ≠ .panicked := by
  unfold validateCommonNil
  split <;> exact nofun

theorem validateInventory_ne_panicked {p : Packages} {args : List String} :
    validateInventory p args ≠ .panicked := by
  intro panicked
  rcases Validation.bind_panicked panicked with common | ⟨_, counted, later⟩
  · exact validateCommonNil_ne_panicked common
  · cases args with
    | nil => cases counted
    | cons arg rest =>
      dsimp only at later
      split at later <;> cases later

theorem validateNtpSynchronizer_panicked_iff {p : Packages} {args : List String} :
    validateNtpSynchronizer p args = .panicked ↔ NullFirst 1 args := by
  refine Iff.trans (Validation.bind_panicked_iff fun request _ => ?_)
    (validateCommon_panicked_iff Nat.one_ne_zero)
  dsimp only
  split <;> exact nofun

theorem DiskPerfCheck.validate_panicked_iff {args : List String} :
    DiskPerfCheck.validate args = .panicked ↔ NullFirst 2 args := by
  have null : validateCommon "disk performance" 2 args diskSpeedCheckRequest = .panicked ↔
      NullFirst 2 args := validateCommon_panicked_iff two_ne_zero
  rw [← null]
  unfold DiskPerfCheck.validate
  cases common : validateCommon "disk performance" 2 args diskSpeedCheckRequest with
  | accepted path =>
    obtain ⟨count, request, rest, -, rfl, -⟩ := validateCommon_accepted common
    obtain ⟨timeout, rfl⟩ : ∃ timeout, rest = [timeout] :=
      List.length_eq_one_iff.mp (Nat.succ.inj count)
    dsimp only
    split <;> exact ⟨nofun, nofun⟩
  | rejected why => exact ⟨nofun, nofun⟩
  | panicked => exact ⟨fun _ => rfl, fun _ => rfl⟩

theorem Install.validate_panicked_iff {v : Install.Validators}
    {unmarshal : Json → Option Install.InstallCmdRequest} {fs : Install.HostFs} {args : List String} :
    Install.validate v unmarshal fs args = .panicked ↔ NullFirst 1 args := by
  have null : validateCommon "install" 1 args ⟨unmarshal, Install.InstallCmdRequest.validate v.toFormats⟩ =
      .panicked ↔ NullFirst 1 args := validateCommon_panicked_iff Nat.one_ne_zero
  rw [← null]
  unfold Install.validate
  cases validateCommon "install" 1 args ⟨unmarshal, Install.InstallCmdRequest.validate v.toFormats⟩ with
  | accepted params =>
    dsimp only
    split <;> exact ⟨nofun, nofun⟩
  | rejected why => exact ⟨nofun, nofun⟩
  | panicked => exact ⟨fun _ => rfl, fun _ => rfl⟩

/-- **The validation of an action panics exactly when its model is null.** -/
theorem Action.validate_panicked_iff {p : Packages} {args : List String} {action : Action} :
    action.validate p args = .panicked ↔ ∃ n, action.modelArgs = some n ∧ NullFirst n args := by
  have model : ∀ n, (∃ m, some n = some m ∧ NullFirst m args) ↔ NullFirst n args := by simp
  cases action with
  | inventory => exact ⟨fun panicked => absurd panicked validateInventory_ne_panicked, nofun⟩
  | stopInstallation => exact ⟨fun panicked => absurd panicked validateCommonNil_ne_panicked, nofun⟩
  | ntpSynchronizer => exact validateNtpSynchronizer_panicked_iff.trans (model 1).symm
  | diskPerfCheck => exact DiskPerfCheck.validate_panicked_iff.trans (model 2).symm
  | install =>
    exact (Validation.map_panicked_iff.trans Install.validate_panicked_iff).trans (model 1).symm
  | _ => exact validateOnly_panicked_iff.trans (model 1).symm

/-! ### What validation guards -/

/-- The step has an action with a model, and the model is null. -/
def NullModel (stepType : StepType) (args : List String) : Prop :=
  ∃ action n, stepActionMap.lookup stepType = some action ∧ action.modelArgs = some n ∧ NullFirst n args

theorem new_panicked_iff {p : Packages} {stepType : StepType} {args : List String} :
    new p stepType args = .panicked ↔ NullModel stepType args := by
  unfold new NullModel
  split
  · rename_i unknown
    rw [unknown]
    exact ⟨nofun, nofun⟩
  · rename_i action found
    rw [found, Validation.map_panicked_iff, Action.validate_panicked_iff]
    simp

theorem accepted_of_new {p : Packages} {stepType : StepType} {args : List String} {action : Action}
    (accepted : new p stepType args = .accepted action) :
    stepActionMap.lookup stepType = some action ∧ action.validate p args = .accepted () := by
  unfold new at accepted
  split at accepted
  · cases accepted
  · rename_i found
    obtain ⟨_, valid, rfl⟩ := Validation.map_accepted accepted
    exact ⟨found, valid⟩

/-- What validation decodes, the run decodes again. -/
theorem decoded_of_validateOnly {α : Type} {name : String} {model : Model α} {args : List String}
    (accepted : validateOnly name model args = .accepted ()) :
    ∃ arg json a, args = [arg] ∧ parse arg = some json ∧ model.unmarshal json = some a := by
  obtain ⟨a, valid, -⟩ := Validation.map_accepted accepted
  obtain ⟨count, arg, rest, json, rfl, parsed, decoded, -⟩ := validateCommon_accepted valid
  cases List.eq_nil_of_length_eq_zero (Nat.succ.inj count)
  exact ⟨arg, json, a, rfl, parsed, decoded⟩

/-- `New` returns, and an action that it accepts dereferences no nil pointer. -/
structure Guards (p : Packages) (w : VipsVerifier.World) (dryRunEnabled : Bool) (stepType : StepType)
    (args : List String) : Prop where
  returns : new p stepType args ≠ .panicked
  hosts : new p stepType args = .accepted .connectivityCheck → connectivityCheck args ≠ none
  vips : new p stepType args = .accepted .vipsVerifier → VerifyVips w dryRunEnabled args ≠ none

/-- The argument is not null, and has no null where the run reads one. -/
structure NullFree (p : Packages) (w : VipsVerifier.World) (dryRunEnabled : Bool) (stepType : StepType)
    (args : List String) : Prop where
  model : ¬ NullModel stepType args
  hosts : new p stepType args = .accepted .connectivityCheck →
    ∀ arg json, args = [arg] → parse arg = some json → ¬ NullHost json
  vips : new p stepType args = .accepted .vipsVerifier →
    ∀ arg json request, args = [arg] → parse arg = some json → unmarshalRequest json = some request →
      ¬ ReachesNull (verifierOf w dryRunEnabled) 0 request

/-- **Validation guards the run exactly for arguments that are free of nulls.** -/
theorem guards_iff (p : Packages) (w : VipsVerifier.World) (dryRunEnabled : Bool) (stepType : StepType)
    (args : List String) :
    Guards p w dryRunEnabled stepType args ↔ NullFree p w dryRunEnabled stepType args := by
  constructor
  · rintro ⟨returns, hosts, vips⟩
    refine ⟨fun null => returns (new_panicked_iff.mpr null), ?_, ?_⟩
    · rintro accepted arg json rfl parsed null
      obtain ⟨_, _, decoded, is, parsed', unmarshalled⟩ :=
      decoded_of_validateOnly (accepted_of_new accepted).2
      cases is
      cases parsed.symm.trans parsed'
      exact hosts accepted ((connectivityCheck_eq_none_iff parsed unmarshalled).mpr null)
    · rintro accepted arg json request rfl parsed unmarshalled null
      have decoded : (parse arg).bind unmarshalRequest = some request := by
        rw [parsed, Option.bind_some, unmarshalled]
      exact vips accepted ((verifyVips_eq_none_iff decoded).mpr null)
  · rintro ⟨model, hosts, vips⟩
    refine ⟨fun panicked => model (new_panicked_iff.mp panicked), fun accepted null => ?_,
      fun accepted null => ?_⟩
    · obtain ⟨arg, json, decoded, rfl, parsed, unmarshalled⟩ :=
        decoded_of_validateOnly (accepted_of_new accepted).2
      exact hosts accepted arg json rfl parsed
        ((connectivityCheck_eq_none_iff parsed unmarshalled).mp null)
    · obtain ⟨arg, json, request, rfl, parsed, unmarshalled⟩ :=
        decoded_of_validateOnly (accepted_of_new accepted).2
      have decoded : (parse arg).bind unmarshalRequest = some request := by
        rw [parsed, Option.bind_some]
        exact unmarshalled
      exact vips accepted arg json request rfl parsed unmarshalled ((verifyVips_eq_none_iff decoded).mp null)

/-- Packages that accept every document. -/
def samplePackages : Packages where
  toValidators := Install.sampleValidators
  generated := fun _ => ⟨some, fun _ => none⟩
  additionalNTPSource := fun _ => true
  logsGatherCmdRequest := ⟨fun _ => none, fun _ => none⟩
  installCmdRequest := fun _ => none
  fs := Install.sampleFs

/-- No tool can be run. -/
def sampleWorld : VipsVerifier.World := ⟨fun _ _ => ⟨"", "", 127⟩, fun _ => .ok ⟨[]⟩, id⟩

theorem not_guards_null :
    ¬ Guards samplePackages sampleWorld false "upgrade-agent" ["null"] ∧
      ¬ Guards samplePackages sampleWorld false "connectivity-check" ["[null]"] ∧
      ¬ Guards samplePackages sampleWorld false "connectivity-check" ["[\x7b\"nics\":[null]\x7d]"] ∧
      ¬ Guards samplePackages sampleWorld false "verify-vips" ["[null]"] :=
  ⟨fun guards => guards.returns (by decide +kernel),
    fun guards => guards.hosts (by decide +kernel) (by decide +kernel),
    fun guards => guards.hosts (by decide +kernel) (by decide +kernel),
    fun guards => guards.vips (by decide +kernel) (by decide +kernel)⟩

end AssistedAgent.Actions
