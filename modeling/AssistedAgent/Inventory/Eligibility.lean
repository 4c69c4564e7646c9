/-
**Which disks are eligible for installation.**

* `checkPartition_spec` — what one round of the loop over the partitions adds; over the whole loop,
  the reasons stay empty exactly when nothing is mounted, and the order does not matter.
* `findTarget_spec`, `checkDevice_spec` — the checks of the device and of the iBFT, as predicates.
* `Eligible` — the conditions, with the disk's own session.
* **`getDisks_eligible_iff`** — the records of `getDisks` are those of the disks to return, and both
  answers are the same for every order of the partitions; each is eligible, and an installation medium,
  exactly when the conditions hold, unless an eligible iSCSI disk has more than one component above its
  host: then the session is looked for in the wrong place.
* `not_eligible_pci` — such a disk.
-/

import AssistedAgent.Inventory.Iscsi
import AssistedAgent.Lib.OptionList

namespace AssistedAgent.Inventory

open GoPath GoStrings OptionList

/-! ### Partitions -/

/-- Some partition is one of the appliance. -/
def HasAgentLabel (partitions : List Partition) : Prop :=
  ∃ p ∈ partitions, hasPrefix p.label applianceAgentPrefix = true

/-- Some partition is mounted at a path that ends in `iso`. -/
def HasIsoMount (partitions : List Partition) : Prop :=
  ∃ p ∈ partitions, hasSuffix p.mountPoint "iso" = true

theorem hasSuffix_empty_iso : hasSuffix "" "iso" = false := by decide

/-- **One round of the loop.** A medium always has a reason, so that the check that is skipped for it
would not change whether there is one. -/
theorem checkPartition_spec {checked : List String × Bool} (p : Partition)
    (reason : checked.2 = true → checked.1 ≠ []) :
    ((checkPartition checked p).2 = true → (checkPartition checked p).1 ≠ []) ∧
      ((checkPartition checked p).1 = [] ↔ checked.1 = [] ∧ p.mountPoint = "") ∧
      ((checkPartition checked p).2 = true ↔ checked.2 = true ∨ hasSuffix p.mountPoint "iso" = true) := by
  unfold checkPartition
  by_cases iso : hasSuffix p.mountPoint "iso" = true
  · have mounted : p.mountPoint ≠ "" := by
      intro empty
      rw [empty, hasSuffix_empty_iso] at iso
      cases iso
    simp [iso, mounted]
  · rw [if_neg iso]
    obtain ⟨reasons, media⟩ := checked
    dsimp only at reason ⊢
    cases media with
    | true =>
      have some_ := reason rfl
      simp [some_]
    | false =>
      by_cases mounted : p.mountPoint = ""
      · rw [if_neg (by simp), if_neg (not_not.mpr mounted)]
        simp [mounted, hasSuffix_empty_iso]
      · rw [if_neg (by simp), if_pos mounted]
        simp [iso, mounted]

theorem foldl_checkPartition_spec (partitions : List Partition) {checked : List String × Bool}
    (reason : checked.2 = true → checked.1 ≠ []) :
    ((partitions.foldl checkPartition checked).1 = [] ↔
        checked.1 = [] ∧ ∀ p ∈ partitions, p.mountPoint = "") ∧
      ((partitions.foldl checkPartition checked).2 = true ↔
        checked.2 = true ∨ HasIsoMount partitions) := by
  induction partitions generalizing checked with
  | nil => simp [HasIsoMount]
  | cons p partitions ih =>
    obtain ⟨reason', reasons, media⟩ := checkPartition_spec p reason
    obtain ⟨all, any⟩ := ih reason'
    rw [List.foldl_cons, all, any, reasons, media]
    simp [HasIsoMount, and_assoc, or_assoc]

/-- **The partitions** add no reason exactly when one is the appliance's or none is mounted. -/
theorem checkPartitions_spec (reasons : List String) (partitions : List Partition) :
    ((checkPartitions reasons partitions).1 = [] ↔
        reasons = [] ∧ (HasAgentLabel partitions ∨ ∀ p ∈ partitions, p.mountPoint = "")) ∧
      ((checkPartitions reasons partitions).2 = true ↔
        ¬ HasAgentLabel partitions ∧ HasIsoMount partitions) := by
  unfold checkPartitions
  by_cases agent : HasAgentLabel partitions
  · rw [if_pos (List.any_eq_true.mpr agent)]
    simp [agent]
  · rw [if_neg fun found => agent (List.any_eq_true.mp found)]
    have start : (reasons, false).2 = true → (reasons, false).1 ≠ [] := by simp
    obtain ⟨all, any⟩ := foldl_checkPartition_spec partitions start
    rw [all, any]
    simp [agent]

section Eligibility

variable (d : Dependencies)

/-! ### The device -/

/-- The state file of a disk reads `running`. -/
def Running (disk : Disk) : Prop :=
  ∃ state, d.readFile (join "/sys/block" [disk.name, "device/state"]) = .ok state ∧
    trimSpace state = "running"

/-- The name of the target that the check reads, of the session that it takes from the path. -/
def SessionTarget (disk : Disk) (target : String) : Prop :=
  ∃ session data, getISCSISession d disk.name = .ok session ∧
    d.readFile (join "/sys/class/iscsi_session" [session, "targetname"]) = .ok data ∧
    target = trimSpace data

/-- A directory of the iBFT whose name contains `target` has this target name. -/
def NamesTarget (target : String) (file : FileInfo) : Prop :=
  file.isDir = true ∧ contains file.name "target" = true ∧
    ∃ data, d.readFile (join ibftBasePath [file.name, "target-name"]) = .ok data ∧
      trimSpace data = target

/-- A target of this name is in the iBFT. -/
def TargetInIbft (target : String) : Prop :=
  (d.readDir ibftBasePath).2 = none ∧
    ∃ file, some file ∈ (d.readDir ibftBasePath).1 ∧ NamesTarget d target file

/-- The target of the session that the check takes is in the iBFT. -/
def FoundInIbft (disk : Disk) : Prop := ∃ target, SessionTarget d disk target ∧ TargetInIbft d target

/-- The disk is one of the session that its path names. -/
def OfSession (disk : Disk) (p : SessionPath) : Prop :=
  d.evalSymlinks (join "/sys" ["block", disk.name]) = .ok p.text

/-- The target of a session is in the iBFT. -/
def SessionInIbft (p : SessionPath) : Prop :=
  ∃ data, d.readFile (join "/sys/class/iscsi_session" [p.sessionName, "targetname"]) = .ok data ∧
    TargetInIbft d (trimSpace data)

/-- The target of the disk's own session is in the iBFT. -/
def InIbft (disk : Disk) : Prop := ∃ p, OfSession d disk p ∧ SessionInIbft d p

theorem checkEligibilityISCSIState_spec (disk : Disk) :
    checkEligibilityISCSIState d disk = [] ↔ Running d disk := by
  unfold checkEligibilityISCSIState Running
  split
  · rename_i err failed
    simp [failed]
  · rename_i state read
    simp [read]

theorem findTarget_found {target : String} {file : FileInfo} (names : NamesTarget d target file)
    (files : List (Option FileInfo)) :
    findTarget d.readFile target (some file :: files) = some [] := by
  obtain ⟨isDir, isTarget, data, read, same⟩ := names
  unfold findTarget
  rw [if_neg (by simp [isDir, isTarget]), read]
  exact if_pos same

theorem findTarget_skip {target : String} {file : FileInfo} (other : ¬ NamesTarget d target file)
    (files : List (Option FileInfo)) :
    findTarget d.readFile target (some file :: files) = findTarget d.readFile target files := by
  rw [findTarget]
  split
  · rfl
  · rename_i taken
    simp only [Bool.or_eq_true, Bool.not_eq_true', not_or, Bool.not_eq_false] at taken
    split
    · rfl
    · rename_i data read
      exact if_neg fun same => other ⟨taken.1, taken.2, data, read, same⟩

/-- **The scan** ends without a reason exactly when it has found the target. -/
theorem findTarget_spec (target : String) {files : List (Option FileInfo)} {reasons : List String}
    (returned : findTarget d.readFile target files = some reasons) :
    reasons = [] ↔ ∃ file, some file ∈ files ∧ NamesTarget d target file := by
  induction files with
  | nil =>
    cases returned
    simp
  | cons entry files ih =>
    cases entry with
    | none => cases returned
    | some file =>
      by_cases names : NamesTarget d target file
      · rw [findTarget_found d names] at returned
        cases returned
        exact iff_of_true rfl ⟨file, List.mem_cons_self, names⟩
      · rw [findTarget_skip d names] at returned
        rw [ih returned]
        constructor
        · rintro ⟨found, member, is⟩
          exact ⟨found, List.mem_cons_of_mem _ member, is⟩
        · rintro ⟨found, member, is⟩
          rcases List.mem_cons.mp member with same | member
          · exact absurd (Option.some.inj same ▸ is) names
          · exact ⟨found, member, is⟩

theorem checkEligibilityISCSIinIBFT_spec {disk : Disk} {reasons : List String}
    (returned : checkEligibilityISCSIinIBFT d disk = some reasons) :
    reasons = [] ↔ FoundInIbft d disk := by
  unfold checkEligibilityISCSIinIBFT at returned
  unfold FoundInIbft SessionTarget TargetInIbft
  split at returned
  · rename_i err failed
    cases returned
    simp [failed]
  · rename_i session found
    split at returned
    · rename_i err failed
      cases returned
      simp [found, failed]
    · rename_i data read
      split at returned
      · rename_i files err listed
        cases returned
        simp [listed]
      · rename_i files listed
        rw [findTarget_spec d _ returned, listed]
        simp [found, read]

/-- **Where a file below an entry is read only if the entry is a directory**, any entry counts. -/
theorem targetInIbft_iff_of_consistent
    (consistent : ∀ file, some file ∈ (d.readDir ibftBasePath).1 → ∀ data,
      d.readFile (join ibftBasePath [file.name, "target-name"]) = .ok data → file.isDir = true)
    (target : String) :
    TargetInIbft d target ↔ (d.readDir ibftBasePath).2 = none ∧
      ∃ file, some file ∈ (d.readDir ibftBasePath).1 ∧ contains file.name "target" = true ∧
        ∃ data, d.readFile (join ibftBasePath [file.name, "target-name"]) = .ok data ∧
          trimSpace data = target := by
  constructor
  · rintro ⟨listed, file, member, -, isTarget, found⟩
    exact ⟨listed, file, member, isTarget, found⟩
  · rintro ⟨listed, file, member, isTarget, data, read, same⟩
    exact ⟨listed, file, member, consistent file member data read, isTarget, data, read, same⟩

/-! ### The session -/

/-- The path of a disk is that of a session, and nothing that stands above a session in it has a target
name. -/
def Sysfs (disk : Disk) : Prop :=
  ∀ path, d.evalSymlinks (join "/sys" ["block", disk.name]) = .ok path →
    ∃ p : SessionPath, path = p.text ∧ ∀ name ∈ p.adapter ++ [p.hostName], ∀ data,
      d.readFile (join "/sys/class/iscsi_session" [name, "targetname"]) ≠ .ok data

theorem getISCSISession_of_single {disk : Disk} {p : SessionPath} (session : OfSession d disk p)
    (single : p.adapter.length = 1) : getISCSISession d disk.name = .ok p.sessionName := by
  refine (getISCSIProperty_eq session 2 _).mpr ?_
  obtain ⟨platform, is⟩ := List.length_eq_one_iff.mp single
  simp [SessionPath.below, is]

/-- Under an adapter of more components, what is taken for the session stands above it. -/
theorem getISCSISession_above {disk : Disk} {p : SessionPath} (session : OfSession d disk p)
    (more : p.adapter.length ≠ 1) {name : String} (taken : getISCSISession d disk.name = .ok name) :
    name ∈ p.adapter ++ [p.hostName] := by
  have here : p.below[2]? = some name := (getISCSIProperty_eq session 2 _).mp taken
  unfold SessionPath.below at here
  match shape : p.adapter, p.filled with
  | [platform], _ => exact absurd (by rw [shape]; rfl) more
  | [bus, device], _ =>
    rw [shape] at here
    simp only [List.cons_append, List.nil_append, List.getElem?_cons_succ, List.getElem?_cons_zero,
      Option.some.injEq] at here
    simp [here]
  | bus :: bridge :: device :: rest, _ =>
    rw [shape] at here
    simp only [List.cons_append, List.getElem?_cons_succ, List.getElem?_cons_zero,
      Option.some.injEq] at here
    simp [here]

/-- **What the check finds in the iBFT** is the disk's own session, if it stands where it is looked for. -/
theorem foundInIbft_iff {disk : Disk} (sysfs : Sysfs d disk) :
    FoundInIbft d disk ↔ ∃ p, OfSession d disk p ∧ p.adapter.length = 1 ∧ SessionInIbft d p := by
  constructor
  · rintro ⟨_, ⟨session, data, taken, read, rfl⟩, found⟩
    cases resolved : d.evalSymlinks (join "/sys" ["block", disk.name]) with
    | error err =>
      rw [getISCSISession, getISCSIProperty, resolved] at taken
      cases taken
    | ok path =>
      obtain ⟨p, rfl, apart⟩ := sysfs path resolved
      have single : p.adapter.length = 1 := by
        by_contra more
        exact apart session (getISCSISession_above d resolved more taken) data read
      rw [getISCSISession_of_single d resolved single] at taken
      cases taken
      exact ⟨p, resolved, single, data, read, found⟩
  · rintro ⟨p, session, single, data, read, found⟩
    exact ⟨_, ⟨_, data, getISCSISession_of_single d session single, read, rfl⟩, found⟩

/-- What has to hold of the device, whatever its partitions; `inIbft` says that its target is in the
iBFT. -/
structure DeviceEligible (disk : Disk) (inIbft : Prop) : Prop where
  controller : disk.storageController ≠ .unknown ∨ isMultipath d disk = true ∨ isLVM d disk = true ∨
    isDASD disk = true ∨ isMultipleDevices disk = true
  notLVM : isLVM d disk = false
  iscsi : isISCSIDisk disk = true → Running d disk ∧ inIbft

theorem checkISCSI_spec {disk : Disk} {reasons : List String}
    (returned : checkISCSI d disk = some reasons) :
    reasons = [] ↔ (isISCSIDisk disk = true → Running d disk ∧ FoundInIbft d disk) := by
  unfold checkISCSI at returned
  split at returned
  · rename_i iscsi
    obtain ⟨ibft, found, rfl⟩ := Option.map_eq_some_iff.mp returned
    rw [List.append_eq_nil_iff, checkEligibilityISCSIState_spec,
      checkEligibilityISCSIinIBFT_spec d found]
    exact ⟨fun both _ => both, fun both => both iscsi⟩
  · rename_i other
    cases returned
    exact iff_of_true rfl fun iscsi => absurd iscsi other

/-- **The reasons of the device.** -/
theorem checkDevice_spec {disk : Disk} {reasons : List String}
    (returned : checkDevice d disk = some reasons) :
    reasons = [] ↔ DeviceEligible d disk (FoundInIbft d disk) := by
  obtain ⟨iscsi, checked, rfl⟩ := Option.map_eq_some_iff.mp returned
  rw [List.append_eq_nil_iff, List.append_eq_nil_iff, checkISCSI_spec d checked]
  constructor
  · rintro ⟨⟨controller, lvm⟩, iscsi⟩
    refine ⟨?_, ?_, iscsi⟩
    · by_contra unknown_
      simp only [not_or, not_not, Bool.not_eq_true] at unknown_
      simp [unknown_] at controller
    · by_contra isLvm
      simp [isLvm] at lvm
  · rintro ⟨controller, notLVM, iscsi⟩
    refine ⟨⟨if_neg ?_, if_neg (by simp [notLVM])⟩, iscsi⟩
    intro unknown_
    simp only [Bool.and_eq_true, decide_eq_true_eq, Bool.not_eq_true'] at unknown_
    obtain ⟨⟨⟨⟨unknown_, multipath⟩, lvm⟩, dasd⟩, md⟩ := unknown_
    simp [unknown_, multipath, lvm, dasd, md] at controller

/-- A disk is eligible: its device is, and its partitions are the appliance's or not mounted. -/
structure EligibleIf (disk : Disk) (inIbft : Prop) : Prop extends DeviceEligible d disk inIbft where
  partitions : HasAgentLabel disk.partitions ∨ ∀ p ∈ disk.partitions, p.mountPoint = ""

/-- **A disk is eligible**, by its own session. -/
def Eligible (disk : Disk) : Prop := EligibleIf d disk (InIbft d disk)

/-- A disk is judged eligible, by the session that is taken from its path. -/
def JudgedEligible (disk : Disk) : Prop := EligibleIf d disk (FoundInIbft d disk)

/-- A disk is an installation medium: optical, or mounted as one and not the appliance's. -/
def IsMedia (disk : Disk) : Prop :=
  disk.driveType = .odd ∨ (¬ HasAgentLabel disk.partitions ∧ HasIsoMount disk.partitions)

theorem checkEligibility_spec {disk : Disk} {checked : List String × Bool}
    (returned : checkEligibility d disk = some checked) :
    (checked.1 = [] ↔ JudgedEligible d disk) ∧
      (checked.2 = true ↔ ¬ HasAgentLabel disk.partitions ∧ HasIsoMount disk.partitions) := by
  obtain ⟨reasons, device, rfl⟩ := Option.map_eq_some_iff.mp returned
  obtain ⟨none_, media⟩ := checkPartitions_spec reasons disk.partitions
  refine ⟨?_, media⟩
  rw [none_, checkDevice_spec d device]
  exact ⟨fun ⟨device, partitions⟩ => ⟨device, partitions⟩,
    fun eligible => ⟨eligible.toDeviceEligible, eligible.partitions⟩⟩

/-! ### Records -/

/-- What a record has to say about the disk it is of. -/
structure Describes (disk : Disk) (r : Record) : Prop where
  name : r.name = disk.name
  eligible : r.installationEligibility.eligible = true ↔ Eligible d disk
  media : r.isInstallationMedia = true ↔ IsMedia disk

/-- What a record says about the disk it is of. -/
structure Judges (disk : Disk) (r : Record) : Prop where
  name : r.name = disk.name
  eligible : r.installationEligibility.eligible = true ↔ JudgedEligible d disk
  media : r.isInstallationMedia = true ↔ IsMedia disk

theorem diskRecord_judges {disks : List Disk} {wwns : List (String × String)} {disk : Disk}
    {index : Nat} {r : Record} (returned : diskRecord d disks wwns disk index = some r) :
    Judges d disk r := by
  obtain ⟨⟨reasons, media⟩, checked, rest⟩ := Option.bind_eq_some_iff.mp returned
  obtain ⟨hctl, -, rest⟩ := Option.bind_eq_some_iff.mp rest
  obtain ⟨driveType, -, rest⟩ := Option.bind_eq_some_iff.mp rest
  obtain ⟨holders, -, rest⟩ := Option.bind_eq_some_iff.mp rest
  obtain ⟨eligible, isMedia⟩ := checkEligibility_spec d checked
  cases rest
  refine ⟨rfl, ?_, ?_⟩
  · rw [← eligible]
    exact List.isEmpty_iff
  · show (media || decide (disk.driveType = .odd)) = true ↔ _
    rw [Bool.or_eq_true, decide_eq_true_eq, isMedia, or_comm]
    rfl

/-- The disks to return are those of the indexed list. -/
theorem filter_eq_map_zipIdx (disks : List Disk) :
    disks.filter (shouldReturnDisk d) =
      (disks.zipIdx.filter fun p => shouldReturnDisk d p.1).map Prod.fst := by
  conv_lhs => rw [← List.zipIdx_map_fst 0 disks]
  rw [List.filter_map]
  rfl

theorem diskRecords_judge {disks : List Disk} {wwns : List (String × String)}
    {records : List Record} (returned : diskRecords d disks wwns = some records) :
    List.Forall₂ (Judges d) (disks.filter (shouldReturnDisk d)) records := by
  rw [filter_eq_map_zipIdx, List.forall₂_map_left_iff]
  exact (mapM_eq_some.mp returned).imp fun p r => diskRecord_judges d

/-- **The verdict is the right one** exactly where an eligible iSCSI disk has its session in the place
that is looked at. -/
theorem judgedEligible_iff {disk : Disk} (sysfs : isISCSIDisk disk = true → Sysfs d disk) :
    (JudgedEligible d disk ↔ Eligible d disk) ↔
      (isISCSIDisk disk = true → Eligible d disk → ∀ p, OfSession d disk p → p.adapter.length = 1) := by
  constructor
  · intro same iscsi eligible p session
    obtain ⟨-, found⟩ := (same.mpr eligible).iscsi iscsi
    obtain ⟨q, session', single, -⟩ := (foundInIbft_iff d (sysfs iscsi)).mp found
    have texts : p.text = q.text := Except.ok.inj (session.symm.trans session')
    rw [(SessionPath.sessionName_of_text_eq texts).1, single]
  · intro placed
    constructor
    · intro judged
      refine ⟨⟨judged.controller, judged.notLVM, fun iscsi => ?_⟩, judged.partitions⟩
      obtain ⟨running, found⟩ := judged.iscsi iscsi
      obtain ⟨p, session, -, inIbft⟩ := (foundInIbft_iff d (sysfs iscsi)).mp found
      exact ⟨running, p, session, inIbft⟩
    · intro eligible
      refine ⟨⟨eligible.controller, eligible.notLVM, fun iscsi => ?_⟩, eligible.partitions⟩
      obtain ⟨running, p, session, inIbft⟩ := eligible.iscsi iscsi
      exact ⟨running, (foundInIbft_iff d (sysfs iscsi)).mpr
        ⟨p, session, placed iscsi eligible p session, inIbft⟩⟩

/-! ### The order of the partitions -/

/-- The same disk with its partitions in another order. -/
def Repartitioned (disk disk' : Disk) : Prop :=
  ∃ partitions, disk' = { disk with partitions := partitions } ∧ partitions.Perm disk.partitions

/-- The two answers of a record. -/
def answers (r : Record) : Bool × Bool :=
  (r.installationEligibility.eligible, r.isInstallationMedia)

theorem JudgedEligible.iff_of_repartitioned {disk disk' : Disk} (same : Repartitioned disk disk') :
    (JudgedEligible d disk' ↔ JudgedEligible d disk) ∧ (IsMedia disk' ↔ IsMedia disk) := by
  obtain ⟨partitions, rfl, perm⟩ := same
  have agent : HasAgentLabel partitions ↔ HasAgentLabel disk.partitions := by
    simp only [HasAgentLabel, perm.mem_iff]
  have iso : HasIsoMount partitions ↔ HasIsoMount disk.partitions := by
    simp only [HasIsoMount, perm.mem_iff]
  have unmounted : (∀ p ∈ partitions, p.mountPoint = "") ↔
      ∀ p ∈ disk.partitions, p.mountPoint = "" := by
    simp only [perm.mem_iff]
  refine ⟨⟨fun eligible => ?_, fun eligible => ?_⟩, ?_⟩
  · obtain ⟨⟨controller, notLVM, iscsi⟩, either⟩ := eligible
    exact ⟨⟨controller, notLVM, iscsi⟩, either.imp agent.mp unmounted.mp⟩
  · obtain ⟨⟨controller, notLVM, iscsi⟩, either⟩ := eligible
    exact ⟨⟨controller, notLVM, iscsi⟩, either.imp agent.mpr unmounted.mpr⟩
  · exact or_congr Iff.rfl (and_congr (not_congr agent) iso)

/-- **A record exists for a disk with its partitions in another order**, with the same answers. -/
theorem diskRecord_repartitioned {disks : List Disk} (disks' : List Disk)
    {wwns : List (String × String)} {disk disk' : Disk} (same : Repartitioned disk disk')
    {index : Nat} {r : Record}
    (returned : diskRecord d disks wwns disk index = some r) :
    ∃ r', diskRecord d disks' wwns disk' index = some r' ∧ answers r' = answers r := by
  have exists_ : ∃ r', diskRecord d disks' wwns disk' index = some r' := by
    obtain ⟨partitions, rfl, -⟩ := same
    obtain ⟨checked, found, rest⟩ := Option.bind_eq_some_iff.mp returned
    obtain ⟨reasons, device, -⟩ := Option.map_eq_some_iff.mp found
    obtain ⟨hctl, isHctl, rest⟩ := Option.bind_eq_some_iff.mp rest
    obtain ⟨driveType, isType, rest⟩ := Option.bind_eq_some_iff.mp rest
    obtain ⟨holders, isHolders, -⟩ := Option.bind_eq_some_iff.mp rest
    have checked' : checkEligibility d { disk with partitions := partitions } =
        some (checkPartitions reasons partitions) :=
      Option.map_eq_some_iff.mpr ⟨reasons, device, rfl⟩
    exact ⟨_, Option.bind_eq_some_iff.mpr ⟨_, checked', Option.bind_eq_some_iff.mpr ⟨hctl, isHctl,
      Option.bind_eq_some_iff.mpr ⟨driveType, isType, Option.bind_eq_some_iff.mpr
        ⟨holders, isHolders, rfl⟩⟩⟩⟩⟩
  obtain ⟨r', returned'⟩ := exists_
  refine ⟨r', returned', ?_⟩
  obtain ⟨-, eligible, media⟩ := diskRecord_judges d returned
  obtain ⟨-, eligible', media'⟩ := diskRecord_judges d returned'
  obtain ⟨sameEligible, sameMedia⟩ := JudgedEligible.iff_of_repartitioned d same
  refine Prod.ext ?_ ?_
  · exact Bool.eq_iff_iff.mpr (eligible'.trans (sameEligible.trans eligible.symm))
  · exact Bool.eq_iff_iff.mpr (media'.trans (sameMedia.trans media.symm))

theorem zipIdx_filter_repartitioned {disks disks' : List Disk}
    (same : List.Forall₂ Repartitioned disks disks') (start : Nat) :
    List.Forall₂ (fun p p' : Disk × Nat => Repartitioned p.1 p'.1 ∧ p.2 = p'.2)
      ((disks.zipIdx start).filter fun p => shouldReturnDisk d p.1)
      ((disks'.zipIdx start).filter fun p => shouldReturnDisk d p.1) := by
  induction same generalizing start with
  | nil => exact .nil
  | @cons disk disk' _ _ first _ ih =>
    have kept : shouldReturnDisk d disk' = shouldReturnDisk d disk := by
      obtain ⟨partitions, rfl, -⟩ := first
      rfl
    simp only [List.zipIdx_cons, List.filter_cons, kept]
    split
    · exact .cons ⟨first, rfl⟩ (ih (start + 1))
    · exact ih (start + 1)

theorem diskRecords_repartitioned {disks disks' : List Disk} {wwns : List (String × String)}
    (same : List.Forall₂ Repartitioned disks disks') {records : List Record}
    (returned : diskRecords d disks wwns = some records) :
    ∃ records', diskRecords d disks' wwns = some records' ∧
      records'.map answers = records.map answers := by
  have pairs := zipIdx_filter_repartitioned d same 0
  have each := mapM_eq_some.mp returned
  unfold diskRecords
  generalize (disks.zipIdx 0).filter (fun p => shouldReturnDisk d p.1) = l at pairs each
  generalize (disks'.zipIdx 0).filter (fun p => shouldReturnDisk d p.1) = l' at pairs
  clear returned
  induction pairs generalizing records with
  | nil =>
    cases each
    exact ⟨[], rfl, rfl⟩
  | cons first _ ih =>
    cases each with
    | cons here rest =>
      obtain ⟨records', mapped, sameAnswers⟩ := ih rest
      obtain ⟨r', here', sameAnswer⟩ := diskRecord_repartitioned d disks' first.1 here
      rw [first.2] at here'
      refine ⟨r' :: records', mapM_eq_some.mpr (.cons here' (mapM_eq_some.mp mapped)), ?_⟩
      rw [List.map_cons, List.map_cons, sameAnswer, sameAnswers]

theorem noAppliance_repartitioned {disks disks' : List Disk}
    (same : List.Forall₂ Repartitioned disks disks')
    (noAppliance : ∀ disk ∈ disks, isAppliance d disk = false) :
    ∀ disk' ∈ disks', isAppliance d disk' = false := by
  induction same with
  | nil => exact fun disk' member => absurd member List.not_mem_nil
  | @cons disk _ _ _ first _ ih =>
    intro disk' member
    rcases List.mem_cons.mp member with rfl | member
    · obtain ⟨partitions, rfl, -⟩ := first
      exact noAppliance disk List.mem_cons_self
    · exact ih (fun disk member => noAppliance disk (List.mem_cons_of_mem _ member)) disk' member

/-- `getDisks` on a list of disks without the appliance's. -/
theorem getDisks_eq {disks : List Disk} (block : d.block = .ok disks)
    (noAppliance : ∀ disk ∈ disks, isAppliance d disk = false) :
    getDisks d = if disks = [] then some [] else (getDisksWWNs d).bind (diskRecords d disks) := by
  have none_ : getApplianceDisks d disks = some [] := by
    unfold getApplianceDisks
    rw [List.find?_eq_none.mpr fun disk member => by simp [noAppliance disk member]]
  unfold getDisks
  rw [block]
  cases disks with
  | nil => rfl
  | cons disk disks =>
    dsimp only
    rw [none_]
    rfl

/-- The records of the disks to return, and the same answers for every order of the partitions. -/
theorem getDisks_judges {disks : List Disk} (block : d.block = .ok disks)
    (noAppliance : ∀ disk ∈ disks, isAppliance d disk = false) {records : List Record}
    (returned : getDisks d = some records) :
    List.Forall₂ (Judges d) (disks.filter (shouldReturnDisk d)) records ∧
      ∀ disks', List.Forall₂ Repartitioned disks disks' →
        ∃ records', getDisks { d with block := .ok disks' } = some records' ∧
          records'.map answers = records.map answers := by
  rw [getDisks_eq d block noAppliance] at returned
  by_cases empty : disks = []
  · subst empty
    cases returned
    refine ⟨.nil, ?_⟩
    rintro disks' same
    cases same
    exact ⟨[], rfl, rfl⟩
  · rw [if_neg empty] at returned
    obtain ⟨wwns, links, returned⟩ := Option.bind_eq_some_iff.mp returned
    refine ⟨diskRecords_judge d returned, fun disks' same => ?_⟩
    have filled : disks' ≠ [] := by
      rintro rfl
      cases same
      exact empty rfl
    obtain ⟨records', returned', sameAnswers⟩ := diskRecords_repartitioned d same returned
    refine ⟨records', ?_, sameAnswers⟩
    -- The other dependencies are the same, so everything but the list of disks is.
    rw [getDisks_eq { d with block := .ok disks' } rfl (noAppliance_repartitioned d same noAppliance),
      if_neg filled]
    exact Option.bind_eq_some_iff.mpr ⟨wwns, links, returned'⟩

/-- **Eligibility is sound, complete and independent of the order of the partitions** exactly if every
eligible iSCSI disk that is returned has one component above its host. -/
theorem getDisks_eligible_iff {disks : List Disk} (block : d.block = .ok disks)
    (noAppliance : ∀ disk ∈ disks, isAppliance d disk = false)
    (sysfs : ∀ disk ∈ disks, shouldReturnDisk d disk = true → isISCSIDisk disk = true → Sysfs d disk)
    {records : List Record} (returned : getDisks d = some records) :
    (List.Forall₂ (Describes d) (disks.filter (shouldReturnDisk d)) records ∧
        ∀ disks', List.Forall₂ Repartitioned disks disks' →
          ∃ records', getDisks { d with block := .ok disks' } = some records' ∧
            records'.map answers = records.map answers) ↔
      ∀ disk ∈ disks, shouldReturnDisk d disk = true → isISCSIDisk disk = true → Eligible d disk →
        ∀ p, OfSession d disk p → p.adapter.length = 1 := by
  obtain ⟨judged, reordered⟩ := getDisks_judges d block noAppliance returned
  rw [and_iff_left reordered, forall₂_iff_forall judged (P := fun disk =>
    isISCSIDisk disk = true → Eligible d disk → ∀ p, OfSession d disk p → p.adapter.length = 1)]
  · simp only [List.mem_filter, and_imp]
  · intro disk member r judges
    obtain ⟨inside, kept⟩ := List.mem_filter.mp member
    rw [← judgedEligible_iff d (sysfs disk inside kept)]
    constructor
    · intro describes
      exact judges.eligible.symm.trans describes.eligible
    · intro same
      exact ⟨judges.name, judges.eligible.trans same, judges.media⟩

end Eligibility

/-! ### Two hosts -/

/-- A disk with these partitions. -/
def plainDisk (name : String) (partitions : List Partition) : Disk :=
  ⟨name, 1000, .ssd, false, .scsi, "pci-0000:00:1f.2-ata-1", "", "", "", "unknown", partitions⟩

/-- A disk of a session that runs and is in the iBFT, beside others. -/
def bootHost (p : SessionPath) (others : List Disk) : Dependencies :=
  hostWith (sessionDisk :: others)
    [("/sys/block/sda/device/state", "running\n"),
      ("/sys/class/iscsi_session/session1/targetname", "iqn.2024-01.com.example:boot\n"),
      ("/sys/firmware/ibft/target0/target-name", "iqn.2024-01.com.example:boot\n"),
      ("/sys/block/dm-0/dm/uuid", "LVM-0a1b2c")]
    [("/sys/block/sda", p.text)]
    [("/sys/firmware/ibft", [⟨"initiator", true, false⟩, ⟨"target0", true, false⟩])]

/-- A logical volume, a disk of the appliance that is mounted, one that is free, one that is mounted and
one that the host has been started from. -/
def otherDisks : List Disk :=
  [plainDisk "dm-0" [], plainDisk "sdb" [⟨"sdb1", "agentdata", "/var"⟩],
    plainDisk "sdc" [⟨"sdc1", "root", ""⟩],
    plainDisk "sdd" [⟨"sdd1", "data", "/var"⟩],
    plainDisk "sde" [⟨"sde1", "", "/run/media/iso"⟩, ⟨"sde2", "", "/boot"⟩]]

theorem bootHost_sysfs {p : SessionPath} {others : List Disk}
    (apart : ∀ name ∈ p.adapter ++ [p.hostName], ∀ data,
      (bootHost p others).readFile (join "/sys/class/iscsi_session" [name, "targetname"]) ≠ .ok data) :
    Sysfs (bootHost p others) sessionDisk := by
  intro path resolved
  have own : (bootHost p others).evalSymlinks (join "/sys" ["block", sessionDisk.name]) =
      .ok p.text := rfl
  exact ⟨p, (Except.ok.inj (own.symm.trans resolved)).symm, apart⟩

theorem getDisks_eligible_platform :
    ∃ records, getDisks (bootHost platformSession otherDisks) = some records ∧
      records.map answers = [(true, false), (false, false), (true, false), (true, false), (false, false),
        (false, true)] ∧
      List.Forall₂ (Describes (bootHost platformSession otherDisks)) (sessionDisk :: otherDisks)
        records := by
  have run : (getDisks (bootHost platformSession otherDisks)).map (List.map answers) =
      some [(true, false), (false, false), (true, false), (true, false), (false, false), (false, true)] := by
    decide +kernel
  have all : (sessionDisk :: otherDisks).filter (shouldReturnDisk (bootHost platformSession otherDisks)) =
      sessionDisk :: otherDisks := by
    decide +kernel
  have only : ∀ disk ∈ sessionDisk :: otherDisks, isISCSIDisk disk = true → disk = sessionDisk := by
    decide +kernel
  obtain ⟨records, returned, sameAnswers⟩ := Option.map_eq_some_iff.mp run
  refine ⟨records, returned, sameAnswers, ?_⟩
  have described := ((getDisks_eligible_iff (bootHost platformSession otherDisks) rfl (by decide +kernel)
    ?_ returned).mpr ?_).1
  · rwa [all] at described
  · intro disk member _ iscsi
    rw [only disk member iscsi]
    refine bootHost_sysfs ?_
    intro name above data
    have names : platformSession.adapter ++ [platformSession.hostName] = ["platform", "host6"] := by
      decide +kernel
    rw [names] at above
    rcases List.mem_pair.mp above with rfl | rfl
    · exact nofun
    · exact nofun
  · intro disk member _ iscsi _ p session
    rw [only disk member iscsi] at session
    have texts : platformSession.text = p.text := Except.ok.inj session
    exact (SessionPath.sessionName_of_text_eq texts).1.symm

/-- **A disk of an offload adapter is not eligible**, although its session runs and is in the iBFT. -/
theorem not_eligible_pci :
    Eligible (bootHost pciSession []) sessionDisk ∧
      ∃ records, getDisks (bootHost pciSession []) = some records ∧
        records.map answers = [(false, false)] ∧
        ¬ List.Forall₂ (Describes (bootHost pciSession [])) [sessionDisk] records := by
  have own : OfSession (bootHost pciSession []) sessionDisk pciSession := rfl
  have running : Running (bootHost pciSession []) sessionDisk := ⟨_, rfl, by decide +kernel⟩
  have target : NamesTarget (bootHost pciSession []) "iqn.2024-01.com.example:boot"
      ⟨"target0", true, false⟩ :=
    ⟨rfl, by decide, _, rfl, by decide +kernel⟩
  have inIbft : SessionInIbft (bootHost pciSession []) pciSession := by
    have trimmed : trimSpace "iqn.2024-01.com.example:boot\n" = "iqn.2024-01.com.example:boot" := by
      decide +kernel
    refine ⟨_, rfl, rfl, ⟨"target0", true, false⟩, by decide +kernel, ?_⟩
    rwa [trimmed]
  have eligible : Eligible (bootHost pciSession []) sessionDisk :=
    ⟨⟨.inl (by decide), by decide +kernel, fun _ => ⟨running, pciSession, own, inIbft⟩⟩,
      .inr fun p member => absurd member List.not_mem_nil⟩
  have run : (getDisks (bootHost pciSession [])).map (List.map answers) = some [(false, false)] := by
    decide +kernel
  obtain ⟨records, returned, sameAnswers⟩ := Option.map_eq_some_iff.mp run
  refine ⟨eligible, records, returned, sameAnswers, ?_⟩
  intro described
  cases described with
  | cons first rest =>
    have verdict := first.eligible.mpr eligible
    simp [answers, verdict] at sameAnswers

end AssistedAgent.Inventory
