/-
**Where the free space is measured.**

`run` hands the boot folder to `ensureBootHasSpace`, which takes its argument for the mount directory
and appends `boot` once more: the free space of `<mount>/boot/boot` is measured, and the files are
copied to `<mount>/boot`.

* **`spaceTrace_spent`** — everything that `ensureBootHasSpace` can do, with the folder that it measures.
* `spaceTrace_done_iff` — when it finds room, by the answers of `statfs` and of the reclaim.
* **`roomChecked_iff`** — so an execution copies, and reclaims, by the free space of the boot folder
  exactly when it does not get as far as a measurement, or when the two paths name one folder, as they
  do where `boot` is a link in the boot folder to itself.
-/

import AssistedAgent.BootArtifacts.AllOrNothing

namespace AssistedAgent.BootArtifacts

open GoPath
open Bytes (utf8)

def Event.isMeasured : Event → Bool
  | .measured _ _ => true
  | .reclaim _ => false
  | .copy _ => false

/-- The size of the three files that are downloaded or generated. -/
def artifactsTotal (files : Files) : Nat :=
  let size (a : Artifact) : Nat := ((files (tempPath a)).getD []).length
  size .kernel + size .initrd + size .config

section Trace

variable (o : Outside)

/-! ### Room where the files are copied to -/

/-- Artifacts are copied only where there is room: the last measurement before a copy is one of the
folder, and has the size of the artifacts; space is reclaimed only if the first measurement is one of
the folder, and is not larger than that size. Paths are compared by what they `resolve` to. -/
structure RoomIn (resolve : Path → Path) (folder : Path) (events : List Event) : Prop where
  copy : ∀ i files, events[i]? = some (.copy files) → ∃ measured freeSpace,
    ((events.take i).filter Event.isMeasured).getLast? = some (.measured measured (.ok freeSpace)) ∧
      resolve measured = resolve folder ∧ artifactsTotal files ≤ freeSpace
  reclaim : ∀ i files, events[i]? = some (.reclaim files) → ∃ measured freeSpace,
    ((events.take i).filter Event.isMeasured).head? = some (.measured measured (.ok freeSpace)) ∧
      resolve measured = resolve folder ∧ freeSpace ≤ artifactsTotal files

/-- An execution copies, and reclaims, by the room in the boot folder that it copies to. -/
def RoomChecked (resolve : Path → Path) (files : Files) : Prop :=
  ∀ req, o.request = .ok req →
    RoomIn resolve (getMountedBootFolder (Path.clean req.hostFsMountDir)) (runTrace o files).1

/-- An execution that gets as far as a measurement. -/
structure Measures (files : Files) (req : Request) : Prop where
  request : o.request = .ok req
  missing : bootArtifactsExist files (Path.clean req.hostFsMountDir) = false
  folders : createFolders o defaultRetryAmount = .done
  download : (downloadArtifactsToTempFolder o files req).2 = .done
  config : o.write .config = .done
  statfs : ∃ bavail bsize, o.statfs 0 = .ok (bavail, bsize)

/-- The free space that `statfs` answers is enough, at first or after the reclaim. -/
def HasRoom (size : Nat) : Prop :=
  (∃ bavail bsize, o.statfs 0 = .ok (bavail, bsize) ∧ size < bavail * bsize % 2 ^ 64) ∨
    ∃ stdout stderr bavail bsize, o.reclaim = (stdout, stderr, 0) ∧
      o.statfs 1 = .ok (bavail, bsize) ∧ size ≤ bavail * bsize % 2 ^ 64

end Trace

section Room

variable {o : Outside}

theorem andThen_eq_done_iff {before : Files × Outcome} {next : Files → Files × Outcome} :
    (andThen before next).2 = .done ↔ before.2 = .done ∧ (next before.1).2 = .done := by
  rcases andThen_cases before next with ⟨done, is⟩ | ⟨failed, -, failed'⟩
  · rw [is]
    exact ⟨fun next => ⟨done, next⟩, fun both => both.2⟩
  · exact iff_of_false failed' fun both => failed both.1

theorem config_eq_done_iff {files : Files} {rootfsUrl : String} :
    (createBootLoaderConfigInTempFolder o files rootfsUrl).2 = .done ↔ o.write .config = .done := by
  unfold createBootLoaderConfigInTempFolder writeFile
  cases o.write .config with
  | done => exact iff_of_true rfl rfl
  | failed err left => exact iff_of_false nofun nofun

theorem prepare_eq_done_iff {files : Files} {req : Request} : (prepare o files req).2 = .done ↔
    createFolders o defaultRetryAmount = .done ∧ (downloadArtifactsToTempFolder o files req).2 = .done ∧
      o.write .config = .done := by
  rw [prepare, andThen_eq_done_iff]
  dsimp only
  rw [andThen_eq_done_iff, wrap_eq_done_iff, wrap_eq_done_iff, wrap_eq_done_iff, config_eq_done_iff]

/-- After the preparation the three files are there to be measured. -/
theorem calculate_of_prepare {files : Files} {req : Request} (done : (prepare o files req).2 = .done) :
    calculateBootArtifactsSize (prepare o files req).1 =
      .ok (artifactsTotal (prepare o files req).1 % 2 ^ 64) := by
  obtain ⟨folders, downloads, config⟩ := prepare_eq_done_iff.mp done
  have is : (prepare o files req).1 = (createBootLoaderConfigInTempFolder o
      (downloadArtifactsToTempFolder o files req).1 req.rootfsURL).1 := by
    rw [prepare, folders]
    dsimp only [Outcome.wrap, andThen]
    rw [downloads]
  obtain ⟨-, bodies⟩ := downloads_spec o files req
  obtain ⟨-, -, ⟨kernel, -, tempKernel⟩, initrd, -, tempInitrd⟩ := bodies downloads
  obtain ⟨-, others, written⟩ := writeFile_spec (downloadArtifactsToTempFolder o files req).1 .config
    (utf8 (bootLoaderConfig o.s390x req.rootfsURL)) (o.write .config)
    ("failed writing bootloader config content to " ++ (tempPath .config).text)
  have isKernel : (prepare o files req).1 (tempPath .kernel) = some kernel := by
    rw [is]
    exact (others .kernel (by decide)).trans tempKernel
  have isInitrd : (prepare o files req).1 (tempPath .initrd) = some initrd := by
    rw [is]
    exact (others .initrd (by decide)).trans tempInitrd
  have isConfig : (prepare o files req).1 (tempPath .config) =
      some (utf8 (bootLoaderConfig o.s390x req.rootfsURL)) := by
    rw [is]
    exact written (config_eq_done_iff.mpr config)
  unfold calculateBootArtifactsSize artifactsTotal
  dsimp only
  rw [isKernel, isInitrd, isConfig]
  rfl

theorem bootFolder_twice (base : Path) :
    getMountedBootFolder (getMountedBootFolder base) ≠ getMountedBootFolder base := by
  have once (base : Path) : getMountedBootFolder base = { base with parts := base.parts ++ ["boot"] } :=
    Path.join_names base _ _ (by decide) (by decide)
  rw [once (getMountedBootFolder base), once base]
  intro same
  have parts := congrArg (fun path => path.parts.length) same
  simp at parts

/-- What `ensureBootHasSpace` can do once it has the size of the artifacts: one measurement, or a
reclaim and another one. -/
inductive Spent (o : Outside) (folder : Path) (files : Files) (size : Nat) : List Event × Outcome → Prop
  | unmeasured {err : String} {outcome : Outcome} (failed : outcome ≠ .done)
    (lost : getFreeSpace o folder 0 = .error err) :
    Spent o folder files size ([.measured folder (.error err)], outcome)
  | room {freeSpace : Nat} (enough : size < freeSpace) (bound : freeSpace < 2 ^ 64) :
    Spent o folder files size ([.measured folder (.ok freeSpace)], .done)
  | stuck {freeSpace : Nat} {outcome : Outcome} (short : freeSpace ≤ size) (failed : outcome ≠ .done) :
    Spent o folder files size ([.measured folder (.ok freeSpace), .reclaim files], outcome)
  | lost {freeSpace : Nat} {err : String} {outcome : Outcome} (short : freeSpace ≤ size)
    (failed : outcome ≠ .done) : Spent o folder files size
      ([.measured folder (.ok freeSpace), .reclaim files, .measured folder (.error err)], outcome)
  | again {freeSpace freeSpace' : Nat} {outcome : Outcome} (short : freeSpace ≤ size)
    (enough : outcome = .done → size ≤ freeSpace') (bound : freeSpace' < 2 ^ 64) :
    Spent o folder files size
      ([.measured folder (.ok freeSpace), .reclaim files, .measured folder (.ok freeSpace')], outcome)

theorem getFreeSpace_lt {folder : Path} {n freeSpace : Nat}
    (measured : getFreeSpace o folder n = .ok freeSpace) :
    freeSpace < 2 ^ 64 := by
  unfold getFreeSpace at measured
  split at measured
  · cases measured
  · cases measured
    exact Nat.mod_lt _ (by decide)

/-- **Everything that `ensureBootHasSpace` can do.** -/
theorem spaceTrace_spent {files : Files} {size : Nat}
    (calculated : calculateBootArtifactsSize files = .ok size)
    (base : Path) : Spent o (getMountedBootFolder base) files size (spaceTrace o files base) := by
  unfold spaceTrace
  rw [calculated]
  dsimp only
  cases first : getFreeSpace o (getMountedBootFolder base) 0 with
  | error err => exact .unmeasured nofun first
  | ok freeSpace =>
    dsimp only
    by_cases room : size < freeSpace
    · rw [if_pos room]
      exact .room room (getFreeSpace_lt first)
    · rw [if_neg room]
      have short := Nat.le_of_not_lt room
      cases reclaimBootFolderSpace o with
      | panicked => exact .stuck short nofun
      | failed err => exact .stuck short nofun
      | done =>
        dsimp only
        cases second : getFreeSpace o (getMountedBootFolder base) 1 with
        | error err => exact .lost short nofun
        | ok freeSpace' =>
          refine .again short (fun done => Nat.le_of_not_lt fun less => ?_) (getFreeSpace_lt second)
          rw [if_pos less] at done
          cases done

theorem reclaimBootFolderSpace_done_iff :
    reclaimBootFolderSpace o = .done ↔ ∃ stdout stderr, o.reclaim = (stdout, stderr, 0) := by
  unfold reclaimBootFolderSpace
  rcases o.reclaim with ⟨stdout, stderr, exitCode⟩
  by_cases succeeded : exitCode = 0
  · simp [succeeded]
  · simp [succeeded]

/-- **When `ensureBootHasSpace` finds room**, after a first measurement that succeeds. -/
theorem spaceTrace_done_iff {files : Files} {size : Nat}
    (calculated : calculateBootArtifactsSize files = .ok size) {bavail bsize : Nat}
    (statfs : o.statfs 0 = .ok (bavail, bsize)) (base : Path) :
    (spaceTrace o files base).2 = .done ↔ HasRoom o size := by
  have first : getFreeSpace o (getMountedBootFolder base) 0 = .ok (bavail * bsize % 2 ^ 64) := by
    rw [getFreeSpace, statfs]
  unfold spaceTrace HasRoom
  rw [calculated, statfs]
  dsimp only
  rw [first]
  dsimp only
  by_cases room : size < bavail * bsize % 2 ^ 64
  · rw [if_pos room]
    exact iff_of_true rfl (.inl ⟨bavail, bsize, rfl, room⟩)
  · rw [if_neg room]
    have once : ¬ ∃ bavail' bsize', Except.ok (ε := String) (bavail, bsize) = .ok (bavail', bsize') ∧
        size < bavail' * bsize' % 2 ^ 64 := by
      rintro ⟨_, _, same, enough⟩
      cases same
      exact room enough
    rw [or_iff_right once]
    cases reclaimed : reclaimBootFolderSpace o with
    | panicked | failed =>
      refine iff_of_false nofun ?_
      rintro ⟨stdout, stderr, _, _, succeeded, -⟩
      rw [reclaimBootFolderSpace_done_iff.mpr ⟨stdout, stderr, succeeded⟩] at reclaimed
      cases reclaimed
    | done =>
      obtain ⟨stdout, stderr, succeeded⟩ := reclaimBootFolderSpace_done_iff.mp reclaimed
      dsimp only
      unfold getFreeSpace
      cases o.statfs 1 with
      | error err =>
        refine iff_of_false nofun ?_
        rintro ⟨_, _, _, _, -, answered, -⟩
        cases answered
      | ok answer =>
        obtain ⟨bavail', bsize'⟩ := answer
        dsimp only
        by_cases short : bavail' * bsize' % 2 ^ 64 < size
        · rw [if_pos short]
          refine iff_of_false nofun ?_
          rintro ⟨_, _, _, _, -, answered, enough⟩
          cases answered
          exact absurd short (Nat.not_lt.mpr enough)
        · rw [if_neg short]
          exact iff_of_true rfl
            ⟨stdout, stderr, bavail', bsize', succeeded, rfl, Nat.le_of_not_lt short⟩

/-- Without a first measurement there is no reclaim, and no success. -/
theorem spaceTrace_of_statfs_error {err : String} (statfs : o.statfs 0 = .error err) (files : Files)
    (base : Path) : (∀ event ∈ (spaceTrace o files base).1, event.isMeasured = true) ∧
      (spaceTrace o files base).2 ≠ .done := by
  unfold spaceTrace
  cases calculateBootArtifactsSize files with
  | error err => exact ⟨nofun, nofun⟩
  | ok size =>
    dsimp only
    rw [getFreeSpace, statfs]
    exact ⟨List.forall_mem_singleton.mpr rfl, nofun⟩

/-! ### Which executions check the room -/

theorem runTrace_of_prepared {files : Files} {req : Request} (request : o.request = .ok req)
    (missing : bootArtifactsExist files (Path.clean req.hostFsMountDir) = false)
    (done : (prepare o files req).2 = .done) :
    runTrace o files = installTrace o (prepare o files req).1 (Path.clean req.hostFsMountDir) := by
  unfold runTrace
  rw [request]
  dsimp only
  rw [missing, done]
  rfl

/-- The events of a space check, and of the copy if it succeeds. -/
def withCopy (space : List Event × Outcome) (files : Files) : List Event :=
  if space.2 = .done then space.1 ++ [.copy files] else space.1

theorem installTrace_events (files : Files) (base : Path) :
    (installTrace o files base).1 = withCopy (spaceTrace o files (getMountedBootFolder base)) files := by
  unfold installTrace withCopy ensureBootHasSpace
  dsimp only
  cases (spaceTrace o files (getMountedBootFolder base)).2 with
  | done => rfl
  | failed err => rfl
  | panicked => rfl

section RoomIn

variable {resolve : Path → Path} {folder target : Path} {files : Files}

theorem roomIn_of_forall_isMeasured {events : List Event}
    (measured : ∀ event ∈ events, event.isMeasured = true) : RoomIn resolve target events := by
  constructor
  · intro i files at_i
    cases measured _ (List.mem_of_getElem? at_i)
  · intro i files at_i
    cases measured _ (List.mem_of_getElem? at_i)

/-- A reclaim by the room in the folder, with nothing after it but measurements. -/
theorem roomIn_reclaim (same : resolve folder = resolve target) {freeSpace : Nat}
    (short : freeSpace ≤ artifactsTotal files) {later : List Event}
    (measured : ∀ event ∈ later, event.isMeasured = true) :
    RoomIn resolve target (.measured folder (.ok freeSpace) :: .reclaim files :: later) := by
  constructor
  · rintro (_ | _ | i) files' at_i
    · cases at_i
    · cases at_i
    · cases measured _ (List.mem_of_getElem? at_i)
  · rintro (_ | _ | i) files' at_i
    · cases at_i
    · cases at_i
      exact ⟨folder, freeSpace, rfl, same, short⟩
    · cases measured _ (List.mem_of_getElem? at_i)

/-- A reclaim goes by the measurement before it. -/
theorem RoomIn.of_reclaim {freeSpace : Nat} {later : List Event}
    (room : RoomIn resolve target (.measured folder (.ok freeSpace) :: .reclaim files :: later)) :
    resolve folder = resolve target := by
  obtain ⟨_, _, first, same, -⟩ := room.reclaim 1 files rfl
  cases first
  exact same

/-- A copy by the room in the folder, after everything else. -/
theorem RoomIn.append_copy {events : List Event} (room : RoomIn resolve target events) {freeSpace : Nat}
    (last : (events.filter Event.isMeasured).getLast? = some (.measured folder (.ok freeSpace)))
    (same : resolve folder = resolve target) (fits : artifactsTotal files ≤ freeSpace) :
    RoomIn resolve target (events ++ [.copy files]) := by
  have before {i : Nat} {event : Event} (at_i : (events ++ [Event.copy files])[i]? = some event) :
      (events[i]? = some event ∧ (events ++ [Event.copy files]).take i = events.take i) ∨
        (event = .copy files ∧ (events ++ [Event.copy files]).take i = events) := by
    rcases Nat.lt_trichotomy i events.length with inside | rfl | outside
    · rw [List.getElem?_append_left inside] at at_i
      exact .inl ⟨at_i, List.take_append_of_le_length inside.le⟩
    · rw [List.getElem?_concat_length] at at_i
      cases at_i
      exact .inr ⟨rfl, List.take_left⟩
    · rw [List.getElem?_eq_none (by simp; omega)] at at_i
      cases at_i
  constructor
  · intro i files' at_i
    rcases before at_i with ⟨old, taken⟩ | ⟨new, taken⟩
    · rw [taken]
      exact room.copy i files' old
    · cases new
      rw [taken]
      exact ⟨folder, freeSpace, last, same, fits⟩
  · intro i files' at_i
    rcases before at_i with ⟨old, taken⟩ | ⟨new, -⟩
    · rw [taken]
      exact room.reclaim i files' old
    · cases new

/-- **When a space check is one of the folder that is copied to.** -/
theorem Spent.roomIn_iff {space : List Event × Outcome}
    (spent : Spent o folder files (artifactsTotal files % 2 ^ 64) space)
    (measured : ∀ err, getFreeSpace o folder 0 ≠ .error err) :
    RoomIn resolve target (withCopy space files) ↔
      resolve folder = resolve target ∧ (artifactsTotal files < 2 ^ 64 ∨ space.2 ≠ .done) := by
  have least := Nat.mod_le (artifactsTotal files) (2 ^ 64)
  cases spent with
  | unmeasured failed lost => exact absurd lost (measured _)
  | @room freeSpace enough bound =>
    constructor
    · intro room
      obtain ⟨_, _, last, same, fits⟩ := room.copy 1 files rfl
      cases last
      exact ⟨same, .inl (fits.trans_lt bound)⟩
    · rintro ⟨same, small | failed⟩
      · rw [Nat.mod_eq_of_lt small] at enough
        exact (roomIn_of_forall_isMeasured (List.forall_mem_singleton.mpr rfl)).append_copy rfl same enough.le
      · exact absurd rfl failed
  | @stuck freeSpace outcome short failed =>
    rw [withCopy, if_neg failed]
    exact ⟨fun room => ⟨room.of_reclaim, .inr failed⟩,
      fun both => roomIn_reclaim both.1 (short.trans least) nofun⟩
  | @lost freeSpace err outcome short failed =>
    rw [withCopy, if_neg failed]
    exact ⟨fun room => ⟨room.of_reclaim, .inr failed⟩,
      fun both => roomIn_reclaim both.1 (short.trans least) (List.forall_mem_singleton.mpr rfl)⟩
  | @again freeSpace freeSpace' outcome short enough bound =>
    have reclaimed (same : resolve folder = resolve target) : RoomIn resolve target
        [.measured folder (.ok freeSpace), .reclaim files, .measured folder (.ok freeSpace')] :=
      roomIn_reclaim same (short.trans least) (List.forall_mem_singleton.mpr rfl)
    by_cases done : outcome = .done
    · rw [withCopy, if_pos done]
      constructor
      · intro room
        obtain ⟨_, _, last, same, fits⟩ := room.copy 3 files rfl
        cases last
        exact ⟨same, .inl (fits.trans_lt bound)⟩
      · rintro ⟨same, small | failed⟩
        · have fits := enough done
          rw [Nat.mod_eq_of_lt small] at fits
          exact (reclaimed same).append_copy rfl same fits
        · exact absurd done failed
    · rw [withCopy, if_neg done]
      exact ⟨fun room => ⟨room.of_reclaim, .inr done⟩, fun both => reclaimed both.1⟩

end RoomIn

/-- An execution that does not get as far as a measurement neither reclaims nor copies. -/
theorem isMeasured_of_not_measures {files : Files} {req : Request} (request : o.request = .ok req)
    (short : ¬ Measures o files req) : ∀ event ∈ (runTrace o files).1, event.isMeasured = true := by
  cases missing : bootArtifactsExist files (Path.clean req.hostFsMountDir) with
  | true =>
    unfold runTrace
    rw [request]
    dsimp only
    rw [missing]
    exact nofun
  | false =>
    by_cases done : (prepare o files req).2 = .done
    · rw [runTrace_of_prepared request missing done, installTrace_events]
      obtain ⟨folders, download, config⟩ := prepare_eq_done_iff.mp done
      cases statfs : o.statfs 0 with
      | ok answer =>
        exact absurd ⟨request, missing, folders, download, config, answer.1, answer.2, statfs⟩ short
      | error err =>
        obtain ⟨measured, failed⟩ := spaceTrace_of_statfs_error statfs (prepare o files req).1
          (getMountedBootFolder (Path.clean req.hostFsMountDir))
        rw [withCopy, if_neg failed]
        exact measured
    · unfold runTrace
      rw [request]
      dsimp only
      rw [missing, if_neg Bool.false_ne_true]
      split
      · rename_i finished
        exact absurd finished done
      · exact nofun
      · exact nofun

/-- An execution that gets as far as a measurement goes by the room in the boot folder if the measured
path names that folder. -/
theorem Measures.roomIn_iff {resolve : Path → Path} {files : Files} {req : Request}
    (measures : Measures o files req) :
    RoomIn resolve (getMountedBootFolder (Path.clean req.hostFsMountDir)) (runTrace o files).1 ↔
      resolve (getMountedBootFolder (getMountedBootFolder (Path.clean req.hostFsMountDir))) =
          resolve (getMountedBootFolder (Path.clean req.hostFsMountDir)) ∧
        (artifactsTotal (prepare o files req).1 < 2 ^ 64 ∨
          ¬ HasRoom o (artifactsTotal (prepare o files req).1 % 2 ^ 64)) := by
  have done := prepare_eq_done_iff.mpr ⟨measures.folders, measures.download, measures.config⟩
  obtain ⟨bavail, bsize, statfs⟩ := measures.statfs
  rw [runTrace_of_prepared measures.request measures.missing done, installTrace_events,
    ← spaceTrace_done_iff (calculate_of_prepare done) statfs
      (getMountedBootFolder (Path.clean req.hostFsMountDir))]
  refine (spaceTrace_spent (calculate_of_prepare done) _).roomIn_iff fun err failed => ?_
  rw [getFreeSpace, statfs] at failed
  cases failed

/-- **Which executions go by the room in the boot folder**: those that end before a measurement
succeeds, and those for which `boot` in the boot folder names that folder itself. In the latter, the
size of the artifacts has to fit the integer that it is added up in, or what is left of it has to be
more than the free space that is answered. -/
theorem roomChecked_iff (resolve : Path → Path) (o : Outside) (files : Files) :
    RoomChecked o resolve files ↔ ∀ req, Measures o files req →
      resolve (getMountedBootFolder (getMountedBootFolder (Path.clean req.hostFsMountDir))) =
          resolve (getMountedBootFolder (Path.clean req.hostFsMountDir)) ∧
        (artifactsTotal (prepare o files req).1 < 2 ^ 64 ∨
          ¬ HasRoom o (artifactsTotal (prepare o files req).1 % 2 ^ 64)) := by
  constructor
  · intro checked req measures
    exact measures.roomIn_iff.mp (checked req measures.request)
  · intro named req request
    by_cases measures : Measures o files req
    · exact measures.roomIn_iff.mpr (named req measures)
    · exact roomIn_of_forall_isMeasured (isMeasured_of_not_measures request measures)

end Room

/-- The folders whose free space was measured. -/
def measuredFolders (events : List Event) : List Path :=
  events.filterMap fun
    | .measured folder _ => some folder
    | .reclaim _ => none
    | .copy _ => none

/-- Without links, an execution in which everything succeeds measures `/host/boot/boot`, and copies to
`/host/boot`. -/
theorem not_roomChecked_plain :
    measuredFolders (runTrace (plainOutside fun _ => wholeCopy) fun _ => none).1 =
        [Path.clean "/host/boot/boot"] ∧
      (run (plainOutside fun _ => wholeCopy) fun _ => none).2 = .done ∧
      ¬ RoomChecked (plainOutside fun _ => wholeCopy) id fun _ => none := by
  refine ⟨by decide +kernel, by decide +kernel, fun checked => ?_⟩
  have measures : Measures (plainOutside fun _ => wholeCopy) (fun _ => none)
      ⟨"/host", "http://service/kernel", "http://service/initrd", "http://service/rootfs"⟩ :=
    ⟨rfl, by decide +kernel, by decide +kernel, by decide +kernel, rfl, 1000, 4096, rfl⟩
  exact bootFolder_twice _ (measures.roomIn_iff.mp (checked _ measures.request)).1

end AssistedAgent.BootArtifacts
