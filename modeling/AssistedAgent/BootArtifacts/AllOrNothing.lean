/-
**When the installation of boot artifacts is all or nothing.**

An execution that finds the three files returns at once, and looks at their existence only. The boot
loader configuration is copied last, so that it exists only after the other two have been copied
whole. What is left is the copy of the configuration itself.

* **`installed_whole`** — in every sequence of executions none of which fails in the copy of the
  configuration after a part of it (`KeepsConfigWhole`), an execution that returns nil leaves the
  three files with the whole content that some execution downloaded or generated.
* `run_of_existing` — an execution that finds three files returns nil, whatever they hold; so one
  copy of the configuration that fails midway is enough (`partial_config_reported`).
-/

import AssistedAgent.BootArtifacts.Execution
import AssistedAgent.Lib.Transition

namespace AssistedAgent.BootArtifacts

open GoPath Transition
open Bytes (utf8)

/-! ### Paths -/

/-- The components below the mount directory. -/
def mountedNames : Artifact → List String
  | .kernel => ["boot", "discovery", "vmlinuz"]
  | .initrd => ["boot", "discovery", "initrd"]
  | .config => ["boot", "loader", "entries", "00-assisted-discovery.conf"]

theorem artifactsFolder_eq (base : Path) :
    getMountedArtifactsFolder base = { base with parts := base.parts ++ ["boot", "discovery"] } :=
  Path.join_names base _ _ (by decide) (by decide)

theorem bootLoaderFolder_eq (base : Path) :
    getMountedBootLoaderFolder base =
      { base with parts := base.parts ++ ["boot", "loader", "entries"] } :=
  Path.join_names base _ _ (by decide) (by decide)

theorem mountedPath_eq (base : Path) (a : Artifact) :
    mountedPath base a = { base with parts := base.parts ++ mountedNames a } := by
  cases a with
  | kernel =>
    show (getMountedArtifactsFolder base).join [kernelFile] = _
    rw [artifactsFolder_eq, Path.join_names _ [kernelFile] ["vmlinuz"] (by decide) (by decide)]
    simp [mountedNames]
  | initrd =>
    show (getMountedArtifactsFolder base).join [initrdFile] = _
    rw [artifactsFolder_eq, Path.join_names _ [initrdFile] ["initrd"] (by decide) (by decide)]
    simp [mountedNames]
  | config =>
    show (getMountedBootLoaderFolder base).join [bootLoaderConfigFileName] = _
    rw [bootLoaderFolder_eq, Path.join_names _ [bootLoaderConfigFileName]
      ["00-assisted-discovery.conf"] (by decide) (by decide)]
    simp [mountedNames]

/-- **Installed files are told apart by their mount directory and their kind.** -/
theorem mountedPath_inj {base base' : Path} {a a' : Artifact}
    (same : mountedPath base a = mountedPath base' a') : base = base' ∧ a = a' := by
  rw [mountedPath_eq, mountedPath_eq, GoPath.Path.mk.injEq] at same
  obtain ⟨rooted, parts⟩ := same
  have last := congrArg List.getLast? parts
  have kind : a = a' := by
    revert last
    cases a <;> cases a' <;> simp [mountedNames]
  subst kind
  refine ⟨?_, rfl⟩
  have folders := List.append_cancel_right parts
  cases base
  cases base'
  simp_all

theorem tempPath_ne_mountedPath (a : Artifact) (base : Path) (a' : Artifact) :
    tempPath a ≠ mountedPath base a' := by
  intro same
  rw [mountedPath_eq] at same
  have parts := congrArg (fun p => p.parts.reverse.take 2) same
  cases a <;> cases a' <;> simp [mountedNames] at parts <;> revert parts <;> decide

theorem tempPath_inj {a a' : Artifact} (same : tempPath a = tempPath a') : a = a' := by
  revert same
  cases a <;> cases a' <;> decide

/-! ### What the parts of an execution change -/

/-- No installed file has changed. -/
def SameBoot (files files' : Files) : Prop :=
  ∀ base a, files' (mountedPath base a) = files (mountedPath base a)

theorem SameBoot.refl (files : Files) : SameBoot files files := fun _ _ => rfl

theorem SameBoot.trans {first second third : Files} (left : SameBoot first second)
    (right : SameBoot second third) : SameBoot first third :=
  fun base a => (right base a).trans (left base a)

theorem setFile_same (files : Files) (path : Path) (content : Option Bytes) :
    setFile files path content path = content :=
  if_pos rfl

theorem setFile_other (files : Files) {path other : Path} (content : Option Bytes)
    (ne : other ≠ path) : setFile files path content other = files other :=
  if_neg ne

theorem setFile_temp_sameBoot (files : Files) (a : Artifact) (content : Option Bytes) :
    SameBoot files (setFile files (tempPath a) content) :=
  fun base b => setFile_other _ _ (tempPath_ne_mountedPath a base b).symm

/-- **`andThen` by the outcome of the part before.** -/
theorem andThen_cases (before : Files × Outcome) (next : Files → Files × Outcome) :
    (before.2 = .done ∧ andThen before next = next before.1) ∨
      (before.2 ≠ .done ∧ (andThen before next).1 = before.1 ∧ (andThen before next).2 ≠ .done) := by
  unfold andThen
  split
  · rename_i here
    exact Or.inl ⟨here, rfl⟩
  · rename_i here
    exact Or.inr ⟨by simp [here], rfl, by simp⟩
  · rename_i here
    exact Or.inr ⟨by simp [here], rfl, by simp⟩

theorem wrap_eq_done_iff (message : String) (outcome : Outcome) :
    outcome.wrap message = .done ↔ outcome = .done := by
  cases outcome <;> simp [Outcome.wrap]

section Execution

variable (o : Outside)

/-- The body a download gets. -/
def downloaded (a : Artifact) (url : String) : Option Bytes :=
  match downloadLoop o a url defaultRetryAmount with
  | .body (.ok body) => some body
  | .body (.error _) => none
  | .failed _ => none
  | .panicked => none

/-- The content that an execution downloads or generates for an artifact, if it gets that far. -/
def produced (files : Files) (a : Artifact) : Option Bytes :=
  match o.request with
  | .error _ => none
  | .ok req =>
    if bootArtifactsExist files (Path.clean req.hostFsMountDir) then none
    else if createFolders o defaultRetryAmount ≠ .done ∨ o.clientErr.isSome then none
    else
      match a with
      | .kernel => downloaded o .kernel req.kernelURL
      | .initrd =>
        if (download o files .kernel req.kernelURL defaultRetryAmount).2 = .done then
          downloaded o .initrd req.initrdURL
        else none
      | .config =>
        if (downloadArtifactsToTempFolder o files req).2 = .done then
          some (utf8 (bootLoaderConfig o.s390x req.rootfsURL))
        else none

theorem writeFile_spec (files : Files) (a : Artifact) (content : Bytes) (write : Write)
    (message : String) :
    SameBoot files (writeFile files (tempPath a) content write message).1 ∧
      (∀ b ≠ a, (writeFile files (tempPath a) content write message).1 (tempPath b) =
        files (tempPath b)) ∧
      ((writeFile files (tempPath a) content write message).2 = .done →
        (writeFile files (tempPath a) content write message).1 (tempPath a) = some content) := by
  cases write with
  | done =>
    refine ⟨setFile_temp_sameBoot files a _, fun b ne => ?_, fun _ => setFile_same _ _ _⟩
    exact setFile_other _ _ fun same => ne (tempPath_inj same)
  | failed err left =>
    refine ⟨setFile_temp_sameBoot files a _, fun b ne => ?_, fun done => by cases done⟩
    exact setFile_other _ _ fun same => ne (tempPath_inj same)

/-- **A download** changes only its temporary file, which holds the body if it succeeds. -/
theorem download_spec (files : Files) (a : Artifact) (url : String) :
    SameBoot files (download o files a url defaultRetryAmount).1 ∧
      (∀ b ≠ a, (download o files a url defaultRetryAmount).1 (tempPath b) = files (tempPath b)) ∧
      ((download o files a url defaultRetryAmount).2 = .done →
        ∃ body, downloaded o a url = some body ∧
          (download o files a url defaultRetryAmount).1 (tempPath a) = some body) := by
  unfold download downloaded
  split
  · exact ⟨SameBoot.refl files, fun _ _ => rfl, fun done => by cases done⟩
  · exact ⟨SameBoot.refl files, fun _ _ => rfl, fun done => by cases done⟩
  · exact ⟨SameBoot.refl files, fun _ _ => rfl, fun done => by cases done⟩
  · rename_i body got
    obtain ⟨same, others, written⟩ := writeFile_spec files a body (o.write a)
      ("failed writing file " ++ (tempPath a).text)
    exact ⟨same, others, fun done => ⟨body, by rw [got], written done⟩⟩

theorem downloads_spec (files : Files) (req : Request) :
    SameBoot files (downloadArtifactsToTempFolder o files req).1 ∧
      ((downloadArtifactsToTempFolder o files req).2 = .done →
        o.clientErr = none ∧ (download o files .kernel req.kernelURL defaultRetryAmount).2 = .done ∧
        (∃ body, downloaded o .kernel req.kernelURL = some body ∧
          (downloadArtifactsToTempFolder o files req).1 (tempPath .kernel) = some body) ∧
        ∃ body, downloaded o .initrd req.initrdURL = some body ∧
          (downloadArtifactsToTempFolder o files req).1 (tempPath .initrd) = some body) := by
  unfold downloadArtifactsToTempFolder
  split
  · exact ⟨SameBoot.refl files, fun done => by cases done⟩
  · rename_i client
    obtain ⟨same, -, kernel⟩ := download_spec o files .kernel req.kernelURL
    rcases andThen_cases _ _ with ⟨done, next⟩ | ⟨-, stays, failed⟩
    · rw [next]
      simp only [wrap_eq_done_iff] at done ⊢
      obtain ⟨same', others, initrd⟩ := download_spec o
        (download o files .kernel req.kernelURL defaultRetryAmount).1 .initrd req.initrdURL
      refine ⟨same.trans same', fun done' => ⟨client, done, ?_, initrd done'⟩⟩
      obtain ⟨body, got, written⟩ := kernel done
      exact ⟨body, got, (others .kernel (by decide)).trans written⟩
    · rw [stays]
      exact ⟨same, fun done => absurd done failed⟩

/-- The temporary folder holds what was downloaded and generated. -/
def Prepared (made : Artifact → Option Bytes) (files : Files) : Prop :=
  ∀ a, ∃ content, made a = some content ∧ files (tempPath a) = some content

/-- **The parts before the space check** leave the installed files alone. -/
theorem prepare_spec (files : Files) (req : Request) :
    SameBoot files (prepare o files req).1 ∧
      (o.request = .ok req → bootArtifactsExist files (Path.clean req.hostFsMountDir) = false →
        (prepare o files req).2 = .done → Prepared (produced o files) (prepare o files req).1) := by
  unfold prepare
  -- Each part that fails ends the preparation with the installed files as they were.
  rcases andThen_cases (files, (createFolders o defaultRetryAmount).wrap "failed creating folders") _
    with ⟨folders, next⟩ | ⟨-, stays, failed⟩
  swap
  · exact ⟨by rw [stays]; exact SameBoot.refl files, fun _ _ done => absurd done failed⟩
  rw [next]
  obtain ⟨same, bodies⟩ := downloads_spec o files req
  rcases andThen_cases ((downloadArtifactsToTempFolder o files req).1,
      (downloadArtifactsToTempFolder o files req).2.wrap "failed downloading boot artifacts") _
    with ⟨downloads, next⟩ | ⟨-, stays, failed⟩
  swap
  · exact ⟨by rw [stays]; exact same, fun _ _ done => absurd done failed⟩
  rw [next]
  obtain ⟨same', others, written⟩ := writeFile_spec (downloadArtifactsToTempFolder o files req).1 .config
    (utf8 (bootLoaderConfig o.s390x req.rootfsURL)) (o.write .config)
    ("failed writing bootloader config content to " ++ (tempPath .config).text)
  refine ⟨same.trans same', fun request missing done a => ?_⟩
  have created := (wrap_eq_done_iff _ _).mp folders
  have downloaded := (wrap_eq_done_iff _ _).mp downloads
  obtain ⟨client, gotten, ⟨kernel, gotKernel, tempKernel⟩, initrd, gotInitrd, tempInitrd⟩ :=
    bodies downloaded
  unfold produced
  rw [request]
  simp only [missing, created, client, Option.isSome_none, ne_eq, not_true_eq_false, or_self, if_false,
    Bool.false_eq_true]
  cases a with
  | kernel => exact ⟨kernel, gotKernel, (others .kernel (by decide)).trans tempKernel⟩
  | initrd =>
    rw [if_pos gotten]
    exact ⟨initrd, gotInitrd, (others .initrd (by decide)).trans tempInitrd⟩
  | config =>
    rw [if_pos downloaded]
    exact ⟨_, rfl, written ((wrap_eq_done_iff _ _).mp done)⟩

/-- **An execution either leaves the installed files alone**, and returns nil only if it found them,
**or copies from a prepared temporary folder.** -/
theorem run_spec (files : Files) :
    (SameBoot files (run o files).1 ∧ ((run o files).2 = .done →
        ∃ req, o.request = .ok req ∧ bootArtifactsExist files (Path.clean req.hostFsMountDir) = true)) ∨
      ∃ req prepared, o.request = .ok req ∧
        bootArtifactsExist files (Path.clean req.hostFsMountDir) = false ∧
        SameBoot files prepared ∧ Prepared (produced o files) prepared ∧
        (run o files).1 = (copyFilesToBootFolder o prepared (Path.clean req.hostFsMountDir)).1 ∧
        ((run o files).2 = .done →
          (copyFilesToBootFolder o prepared (Path.clean req.hostFsMountDir)).2 = .done) := by
  unfold run runTrace
  cases request : o.request with
  | error err => exact Or.inl ⟨SameBoot.refl files, fun done => by cases done⟩
  | ok req =>
    dsimp only
    cases found : bootArtifactsExist files (Path.clean req.hostFsMountDir) with
    | true => exact Or.inl ⟨SameBoot.refl files, fun _ => ⟨req, rfl, found⟩⟩
    | false =>
      obtain ⟨same, ready⟩ := prepare_spec o files req
      rw [if_neg Bool.false_ne_true]
      cases outcome : (prepare o files req).2 with
      | failed err => exact Or.inl ⟨same, fun done => by cases done⟩
      | panicked => exact Or.inl ⟨same, fun done => by cases done⟩
      | done =>
        dsimp only
        unfold installTrace
        dsimp only
        cases ensureBootHasSpace o (prepare o files req).1
          (getMountedBootFolder (Path.clean req.hostFsMountDir)) with
        | failed err => exact Or.inl ⟨same, fun done => by cases done⟩
        | panicked => exact Or.inl ⟨same, fun done => by cases done⟩
        | done =>
          exact Or.inr ⟨req, _, rfl, found, same, ready request found outcome, rfl,
            fun done => (wrap_eq_done_iff _ _).mp done⟩

/-! ### The copies -/

/-- **A copy** leaves its destination alone, with a part of the content, or with the whole of it; it
succeeds only in the last case. -/
theorem copyArtifact_cases {files : Files} (base : Path) {a : Artifact} {content : Bytes}
    (source : files (tempPath a) = some content) :
    ((copyArtifact o files base a).1 = files ∧ (copyArtifact o files base a).2 ≠ .done) ∨
      (∃ err n, (o.copy a).openErr = none ∧ (o.copy a).createErr = none ∧
        (o.copy a).copyErr = some (err, n) ∧
        (copyArtifact o files base a).1 = setFile files (mountedPath base a) (some (content.take n)) ∧
        (copyArtifact o files base a).2 ≠ .done) ∨
      (copyArtifact o files base a).1 = setFile files (mountedPath base a) (some content) := by
  unfold copyArtifact copyFile
  simp only [source]
  split
  · exact Or.inl ⟨rfl, by simp [Outcome.wrap]⟩
  · rename_i opened
    split
    · exact Or.inl ⟨rfl, by simp [Outcome.wrap]⟩
    · rename_i created
      split
      · rename_i err n failed
        exact Or.inr (Or.inl ⟨err, n, opened, created, failed, rfl, by simp [Outcome.wrap]⟩)
      · refine Or.inr (Or.inr ?_)
        split
        · rfl
        · split
          · rfl
          · split <;> rfl

/-- The copies of a host leave the files of other hosts and the temporary folder alone. -/
theorem copyArtifact_other {files : Files} {base : Path} {a : Artifact} {content : Bytes}
    (source : files (tempPath a) = some content) {path : Path} (ne : path ≠ mountedPath base a) :
    (copyArtifact o files base a).1 path = files path := by
  rcases copyArtifact_cases o base source with ⟨same, -⟩ | ⟨err, n, -, -, -, set, -⟩ | set
  · rw [same]
  · rw [set, setFile_other _ _ ne]
  · rw [set, setFile_other _ _ ne]

/-- A copy of the boot loader configuration that fails has not begun to write, or has written all of
it. -/
def KeepsConfigWhole : Prop :=
  ∀ err n req, (o.copy .config).openErr = none → (o.copy .config).createErr = none →
    (o.copy .config).copyErr = some (err, n) → o.request = .ok req →
      (utf8 (bootLoaderConfig o.s390x req.rootfsURL)).length ≤ n

/-- What is generated is the configuration of the request. -/
theorem exists_request_of_produced {files : Files} {content : Bytes}
    (made : produced o files .config = some content) :
    ∃ req, o.request = .ok req ∧ content = utf8 (bootLoaderConfig o.s390x req.rootfsURL) := by
  unfold produced at made
  cases request : o.request with
  | error err =>
    rw [request] at made
    cases made
  | ok req =>
    rw [request] at made
    dsimp only at made
    split_ifs at made
    exact ⟨req, rfl, (Option.some.inj made).symm⟩

/-- A copy that succeeds leaves the whole content. -/
theorem copyArtifact_done {files : Files} {base : Path} {a : Artifact} {content : Bytes}
    (source : files (tempPath a) = some content) (done : (copyArtifact o files base a).2 = .done) :
    (copyArtifact o files base a).1 = setFile files (mountedPath base a) (some content) := by
  rcases copyArtifact_cases o base source with ⟨-, failed⟩ | ⟨_, _, -, -, -, -, failed⟩ | set
  · exact absurd done failed
  · exact absurd done failed
  · exact set

/-- A configuration that a copy leaves where there was none is the whole one. -/
theorem copyArtifact_config_whole {files before : Files} {base : Path} {content : Bytes}
    (whole : KeepsConfigWhole o) (made : produced o before .config = some content)
    (source : files (tempPath .config) = some content)
    (absent : files (mountedPath base .config) = none)
    (present : ((copyArtifact o files base .config).1 (mountedPath base .config)).isSome) :
    (copyArtifact o files base .config).1 (mountedPath base .config) = some content := by
  rcases copyArtifact_cases o base source with
    ⟨same, -⟩ | ⟨err, n, opened, created, stopped, set, -⟩ | set
  · rw [same, absent] at present
    cases present
  · obtain ⟨req, request, rfl⟩ := exists_request_of_produced o made
    rw [set, setFile_same, List.take_of_length_le (whole err n req opened created stopped request)]
  · rw [set, setFile_same]

theorem Prepared.set {made : Artifact → Option Bytes} {files : Files} (prepared : Prepared made files)
    (base : Path) (a : Artifact) (content : Option Bytes) :
    Prepared made (setFile files (mountedPath base a) content) := by
  intro b
  obtain ⟨whole, made, temp⟩ := prepared b
  exact ⟨whole, made, (setFile_other _ _ (tempPath_ne_mountedPath b base a)).trans temp⟩

/-- **The three copies**: they touch one host only, and the configuration is there at the end only if
the three files are whole. -/
theorem copies_spec {files before : Files} (base : Path) (prepared : Prepared (produced o before) files) :
    (∀ base' ≠ base, ∀ a, (copyFilesToBootFolder o files base).1 (mountedPath base' a) =
        files (mountedPath base' a)) ∧
      (files (mountedPath base .config) = none → KeepsConfigWhole o →
        ((copyFilesToBootFolder o files base).1 (mountedPath base .config)).isSome →
        ∀ a, ∃ content, produced o before a = some content ∧
          (copyFilesToBootFolder o files base).1 (mountedPath base a) = some content) ∧
      ((copyFilesToBootFolder o files base).2 = .done →
        ((copyFilesToBootFolder o files base).1 (mountedPath base .config)).isSome) := by
  have differ : ∀ {base' : Path} {a b : Artifact}, base' ≠ base →
      mountedPath base' a ≠ mountedPath base b := fun ne same => ne (mountedPath_inj same).1
  have kinds : ∀ {a b : Artifact}, a ≠ b → mountedPath base a ≠ mountedPath base b :=
    fun ne same => ne (mountedPath_inj same).2
  obtain ⟨kernel, madeKernel, tempKernel⟩ := prepared .kernel
  unfold copyFilesToBootFolder
  rcases andThen_cases (copyArtifact o files base .kernel) _ with ⟨done, next⟩ | ⟨-, stays, failed⟩
  swap
  · rw [stays]
    refine ⟨fun base' ne a => copyArtifact_other o tempKernel (differ ne), fun absent _ present => ?_,
      fun done => absurd done failed⟩
    rw [copyArtifact_other o tempKernel (kinds (by decide)), absent] at present
    cases present
  rw [next, copyArtifact_done o tempKernel done]
  have prepared₁ := prepared.set base .kernel (some kernel)
  obtain ⟨initrd, madeInitrd, tempInitrd⟩ := prepared₁ .initrd
  rcases andThen_cases (copyArtifact o (setFile files (mountedPath base .kernel) (some kernel)) base
    .initrd) _ with ⟨done, next⟩ | ⟨-, stays, failed⟩
  swap
  · rw [stays]
    refine ⟨fun base' ne a => ?_, fun absent _ present => ?_, fun done => absurd done failed⟩
    · rw [copyArtifact_other o tempInitrd (differ ne), setFile_other _ _ (differ ne)]
    · rw [copyArtifact_other o tempInitrd (kinds (by decide)), setFile_other _ _ (kinds (by decide)),
        absent] at present
      cases present
  rw [next, copyArtifact_done o tempInitrd done]
  have prepared₂ := prepared₁.set base .initrd (some initrd)
  obtain ⟨config, madeConfig, tempConfig⟩ := prepared₂ .config
  have others : ∀ base' a, mountedPath base' a ≠ mountedPath base .config →
      (copyArtifact o (setFile (setFile files (mountedPath base .kernel) (some kernel))
        (mountedPath base .initrd) (some initrd)) base .config).1 (mountedPath base' a) =
      setFile (setFile files (mountedPath base .kernel) (some kernel))
        (mountedPath base .initrd) (some initrd) (mountedPath base' a) :=
    fun base' a ne => copyArtifact_other o tempConfig ne
  refine ⟨fun base' ne a => ?_, fun absent whole present a => ?_, fun done => ?_⟩
  · rw [others base' a (differ ne), setFile_other _ _ (differ ne), setFile_other _ _ (differ ne)]
  · cases a with
    | kernel =>
      refine ⟨kernel, madeKernel, ?_⟩
      rw [others base .kernel (kinds (by decide)), setFile_other _ _ (kinds (by decide)), setFile_same]
    | initrd =>
      refine ⟨initrd, madeInitrd, ?_⟩
      rw [others base .initrd (kinds (by decide)), setFile_same]
    | config =>
      refine ⟨config, madeConfig, ?_⟩
      refine copyArtifact_config_whole o whole madeConfig tempConfig ?_ present
      rw [setFile_other _ _ (kinds (by decide)), setFile_other _ _ (kinds (by decide)), absent]
  · rw [copyArtifact_done o tempConfig done, setFile_same]
    rfl

end Execution

/-! ### Sequences of executions -/

/-- A host file system, and what the executions it has gone through have downloaded and generated. -/
structure Host where
  files : Files
  history : List (Artifact → Option Bytes)

def Host.execute (h : Host) (o : Outside) : Host :=
  ⟨(run o h.files).1, h.history ++ [produced o h.files]⟩

/-- The installed file of an artifact holds the whole content that some execution downloaded or
generated. -/
def Host.Holds (h : Host) (base : Path) (a : Artifact) : Prop :=
  ∃ made ∈ h.history, ∃ content, made a = some content ∧ h.files (mountedPath base a) = some content

/-- **The invariant**: where there is a boot loader configuration, the three files are whole. -/
def Host.Whole (h : Host) : Prop :=
  ∀ base, (h.files (mountedPath base .config)).isSome → ∀ a, h.Holds base a

/-- The three files of a whole host are found. -/
theorem Host.Whole.exist {h : Host} (whole : h.Whole) {base : Path}
    (present : (h.files (mountedPath base .config)).isSome) : bootArtifactsExist h.files base = true := by
  obtain ⟨_, -, kernel, -, isKernel⟩ := whole base present .kernel
  obtain ⟨_, -, initrd, -, isInitrd⟩ := whole base present .initrd
  unfold bootArtifactsExist
  rw [isKernel, isInitrd]
  exact present

theorem bootArtifactsExist_config {files : Files} {base : Path}
    (found : bootArtifactsExist files base = true) : (files (mountedPath base .config)).isSome := by
  unfold bootArtifactsExist at found
  split at found
  · cases found
  · split at found
    · cases found
    · exact found

theorem Host.Holds.later {h : Host} {base : Path} {a : Artifact} (holds : h.Holds base a)
    {files : Files} (same : files (mountedPath base a) = h.files (mountedPath base a))
    (made : Artifact → Option Bytes) : Host.Holds ⟨files, h.history ++ [made]⟩ base a := by
  obtain ⟨earlier, member, content, is, held⟩ := holds
  exact ⟨earlier, List.mem_append_left _ member, content, is, same.trans held⟩

/-- **One execution keeps the host whole.** -/
theorem Host.Whole.execute {h : Host} (whole : h.Whole) {o : Outside} (keeps : KeepsConfigWhole o) :
    (h.execute o).Whole := by
  intro base present a
  rcases run_spec o h.files with ⟨same, -⟩ | ⟨req, prepared, request, missing, same, ready, files, -⟩
  · refine (whole base ?_ a).later (same base a) _
    rwa [← same base .config]
  · obtain ⟨others, complete, -⟩ := copies_spec o (Path.clean req.hostFsMountDir) ready
    unfold Host.execute at present ⊢
    rw [files] at present ⊢
    dsimp only at present
    by_cases here : base = Path.clean req.hostFsMountDir
    · subst here
      have absent : prepared (mountedPath (Path.clean req.hostFsMountDir) .config) = none := by
        rw [same]
        by_contra some_
        rw [whole.exist (Option.isSome_iff_ne_none.mpr some_)] at missing
        cases missing
      obtain ⟨content, made, is⟩ := complete absent keeps present a
      exact ⟨_, List.mem_append_right _ (List.mem_singleton_self _), content, made, is⟩
    · rw [others base here .config, same] at present
      exact (whole base present a).later ((others base here a).trans (same base a)) _

/-- **All or nothing**: in every sequence of executions whose copies of the configuration do not stop
midway, on a host that has no configuration at the start, an execution that returns nil leaves the
three files whole. -/
theorem installed_whole {files : Files}
    (fresh : ∀ base, files (mountedPath base .config) = none) {os : List Outside} {h : Host}
    (reach : Run (guarded (fun _ o => KeepsConfigWhole o) (ofTotal Host.execute)) ⟨files, []⟩ os h)
    {o : Outside} (keeps : KeepsConfigWhole o) {req : Request} (request : o.request = .ok req)
    (returned : (run o h.files).2 = .done) (a : Artifact) :
    (h.execute o).Holds (Path.clean req.hostFsMountDir) a := by
  have start : Host.Whole ⟨files, []⟩ := by
    intro base present
    dsimp only at present
    rw [fresh] at present
    cases present
  have whole : h.Whole := by
    refine reach.invariant start ?_
    rintro s o' _ whole ⟨keeps, rfl⟩
    exact whole.execute keeps
  refine whole.execute keeps _ ?_ a
  rcases run_spec o h.files with
    ⟨same, found⟩ | ⟨req', prepared, request', -, same, ready, copied, done⟩
  · obtain ⟨req', request', found⟩ := found returned
    obtain rfl : req = req' := Except.ok.inj (request.symm.trans request')
    show ((run o h.files).1 _).isSome
    rw [same]
    exact bootArtifactsExist_config found
  · obtain rfl : req = req' := Except.ok.inj (request.symm.trans request')
    show ((run o h.files).1 _).isSome
    rw [copied]
    exact (copies_spec o _ ready).2.2 (done returned)

/-- An outside in which everything succeeds, but for the copies. -/
def plainOutside (copy : Artifact → Copy) : Outside where
  request := .ok ⟨"/host", "http://service/kernel", "http://service/initrd", "http://service/rootfs"⟩
  s390x := false
  mountErr _ := none
  folderMissing _ _ := true
  mkdirErr _ _ := none
  clientErr := none
  get
    | .kernel, _ => .response 200 (.ok [1, 2, 3])
    | .initrd, _ => .response 200 (.ok [4, 5])
    | .config, _ => .response 404 (.ok [])
  write _ := .done
  statfs _ := .ok (1000, 4096)
  reclaim := ("", "", 0)
  copy := copy

/-- All operations of a copy succeed. -/
def wholeCopy : Copy := ⟨none, none, none, none, none, none⟩

/-- The disk is full after `n` bytes. -/
def cutCopy (n : Nat) : Copy := ⟨none, none, some ("no space left on device", n), none, none, none⟩

/-- The copy of the initial ramdisk fails midway, and the next execution succeeds. -/
theorem installed_whole_retry :
    let cut := plainOutside fun | .initrd => cutCopy 1 | _ => wholeCopy
    let retry := plainOutside fun _ => wholeCopy
    let h := (Host.mk (fun _ => none) []).execute cut
    (run retry h.files).2 = .done ∧ (h.execute retry).Holds (Path.clean "/host") .initrd := by
  intro cut retry h
  have keepsCut : KeepsConfigWhole cut := fun _ _ _ _ _ stopped => by cases stopped
  have keepsRetry : KeepsConfigWhole retry := fun _ _ _ _ _ stopped => by cases stopped
  have returned : (run retry h.files).2 = .done := by decide +kernel
  exact ⟨returned,
    installed_whole (fun _ => rfl) (Run.single ⟨keepsCut, rfl⟩) keepsRetry rfl returned .initrd⟩

/-- **An execution that finds three files returns nil**, whatever they hold. -/
theorem run_of_existing {o : Outside} {files : Files} {req : Request} (request : o.request = .ok req)
    (found : bootArtifactsExist files (Path.clean req.hostFsMountDir) = true) :
    run o files = (files, .done) := by
  unfold run runTrace
  rw [request]
  dsimp only
  rw [if_pos found]

/-- The copy of the configuration fails after the file has been created: the next execution returns
nil, and the configuration is empty. -/
theorem partial_config_reported :
    let cut := plainOutside fun | .config => cutCopy 0 | _ => wholeCopy
    let retry := plainOutside fun _ => wholeCopy
    let h := (Host.mk (fun _ => none) []).execute cut
    (run cut fun _ => none).2 ≠ .done ∧ (run retry h.files).2 = .done ∧
      (h.execute retry).files (mountedPath (Path.clean "/host") .config) = some [] ∧
      ¬ (h.execute retry).Holds (Path.clean "/host") .config := by
  intro cut retry h
  have again : run retry h.files = (h.files, .done) := run_of_existing rfl (by decide +kernel)
  have empty : (h.execute retry).files (mountedPath (Path.clean "/host") .config) = some [] := by
    unfold Host.execute
    rw [again]
    decide +kernel
  refine ⟨by decide +kernel, congrArg Prod.snd again, empty, ?_⟩
  rintro ⟨made, member, content, is, held⟩
  have nonempty : made .config ≠ some [] := by
    have either : made = produced cut (fun _ => none) ∨ made = produced retry h.files := by
      simpa [h, Host.execute] using member
    rcases either with rfl | rfl <;> decide +kernel
  rw [empty] at held
  rw [← held] at is
  exact nonempty is

end AssistedAgent.BootArtifacts
