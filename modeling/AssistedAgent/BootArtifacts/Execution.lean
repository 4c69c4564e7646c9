/-
**One execution of the download of boot artifacts.**

`run` on a file system, with an outside that answers every operation that may fail: the request, the
mounts and folders, the HTTP client and its responses, the writes to the temporary folder, the free
space, the reclaim, and every operation of every copy. A copy creates its destination before it
copies, so that one that fails may leave a part of the content. The measurements of the free space, the
reclaim and the start of the copies are kept as events (`runTrace`), and so is the number of requests of
a download (`downloadTrace`).

A transport error leaves `download` with a nil response, whose status code it reads: the execution
panics.
-/

import AssistedAgent.Lib.Bytes
import AssistedAgent.Lib.GoPath

namespace AssistedAgent.BootArtifacts

open GoPath
open Bytes (utf8)

abbrev Bytes := List UInt8

/-- The files of the host, by their clean paths. -/
abbrev Files := Path → Option Bytes

/-- The three files that are installed. -/
inductive Artifact
  | kernel
  | initrd
  | config
deriving DecidableEq, Repr

/-- `models.DownloadBootArtifactsRequest`. -/
structure Request where
  hostFsMountDir : String
  kernelURL : String
  initrdURL : String
  rootfsURL : String
deriving DecidableEq, Repr

/-- What `httpClient.Get` returns: an error and no response, or a response whose body may not be
readable to its end. -/
inductive Response
  | transportError (err : String)
  | response (statusCode : Int) (body : Except String Bytes)

/-- What `os.WriteFile` does: it may fail and leave anything at the path. -/
inductive Write
  | done
  | failed (err : String) (left : Option Bytes)

/-- The errors of the operations of one `copyFile`; `copy` with the number of bytes written. -/
structure Copy where
  openErr : Option String
  createErr : Option String
  copyErr : Option (String × Nat)
  statErr : Option String
  chmodErr : Option String
  syncErr : Option String

/-- What the outside answers during one execution. -/
structure Outside where
  /-- The decoded request. -/
  request : Except String Request
  /-- `runtime.GOARCH` is `s390x`. -/
  s390x : Bool
  /-- The error of the remount in an attempt to create the folders. -/
  mountErr : Nat → Option String
  /-- Whether a folder does not exist in an attempt, and the error of `MkdirAll`. -/
  folderMissing : Nat → Nat → Bool
  mkdirErr : Nat → Nat → Option String
  /-- The error of `createHTTPClient`. -/
  clientErr : Option String
  /-- The response to an attempt to get an artifact. -/
  get : Artifact → Nat → Response
  /-- The write of an artifact to the temporary folder. -/
  write : Artifact → Write
  /-- `Bavail` and `Bsize` of a measurement of the free space. -/
  statfs : Nat → Except String (Nat × Nat)
  /-- Standard output, standard error and exit code of `rpm-ostree cleanup`. -/
  reclaim : String × String × Int
  /-- The copy of an artifact to the boot folder. -/
  copy : Artifact → Copy

/-- How an execution, or a part of it, ends. -/
inductive Outcome
  | done
  | failed (err : String)
  | panicked
deriving DecidableEq, Repr

/-- What an execution does about space, and the files when it does. -/
inductive Event
  | measured (folder : Path) (freeSpace : Except String Nat)
  | reclaim (files : Files)
  | copy (files : Files)

/-- `fmt.Errorf(message + ": %s", err.Error())`, on the error of a part. -/
def Outcome.wrap (message : String) : Outcome → Outcome
  | .done => .done
  | .failed err => .failed (message ++ ": " ++ err)
  | .panicked => .panicked

/-- The next part, if the one before it has not failed. -/
def andThen (before : Files × Outcome) (next : Files → Files × Outcome) : Files × Outcome :=
  match before.2 with
  | .done => next before.1
  | .failed err => (before.1, .failed err)
  | .panicked => (before.1, .panicked)

/-! ### Paths -/

def artifactsFolder : String := "/discovery"

def bootLoaderFolder : String := "/loader/entries"

def kernelFile : String := "vmlinuz"

def initrdFile : String := "initrd"

def bootLoaderConfigFileName : String := "/00-assisted-discovery.conf"

def tempBootArtifactsFolder : Path := Path.clean "/tmp/boot"

/-- The folders of the host are named by the clean path of the mount directory. -/
def getMountedBootFolder (hostFsMountDir : Path) : Path := hostFsMountDir.join ["boot"]

def getMountedArtifactsFolder (hostFsMountDir : Path) : Path :=
  hostFsMountDir.join ["boot", artifactsFolder]

def getMountedBootLoaderFolder (hostFsMountDir : Path) : Path :=
  hostFsMountDir.join ["boot", bootLoaderFolder]

/-- Where an artifact is installed. -/
def mountedPath (hostFsMountDir : Path) : Artifact → Path
  | .kernel => (getMountedArtifactsFolder hostFsMountDir).join [kernelFile]
  | .initrd => (getMountedArtifactsFolder hostFsMountDir).join [initrdFile]
  | .config => (getMountedBootLoaderFolder hostFsMountDir).join [bootLoaderConfigFileName]

/-- Where an artifact is downloaded to. -/
def tempPath : Artifact → Path
  | .kernel => tempBootArtifactsFolder.join [kernelFile]
  | .initrd => tempBootArtifactsFolder.join [initrdFile]
  | .config => tempBootArtifactsFolder.join [bootLoaderConfigFileName]

def setFile (files : Files) (path : Path) (content : Option Bytes) : Files :=
  fun other => if other = path then content else files other

/-! ### The parts of an execution -/

def defaultRetryAmount : Nat := 5

def bootArtifactsExist (files : Files) (hostFsMountDir : Path) : Bool :=
  if (files (mountedPath hostFsMountDir .kernel)).isNone then false
  else if (files (mountedPath hostFsMountDir .initrd)).isNone then false
  else (files (mountedPath hostFsMountDir .config)).isSome

section Parts

variable (o : Outside)

/-- The error of one attempt to create the folders. -/
def foldersErr (attempt : Nat) : Option String :=
  let createFolderIfNotExist (folder : Nat) : Option String :=
    if o.folderMissing attempt folder then o.mkdirErr attempt folder else none
  (o.mountErr attempt).or
    ((createFolderIfNotExist 0).or ((createFolderIfNotExist 1).or (createFolderIfNotExist 2)))

/-- The attempts to create the folders, with the error of the last one. -/
def createFoldersLoop : Nat → Nat → Option String → Outcome
  | 0, _, err => .failed ("failed to create folders: " ++ err.getD "%!w(<nil>)")
  | left + 1, i, _ =>
    match foldersErr o i with
    | none => .done
    | some err => createFoldersLoop left (i + 1) (some err)

def createFolders (retryAmount : Nat) : Outcome := createFoldersLoop o retryAmount 0 none

/-- `os.WriteFile`. -/
def writeFile (files : Files) (path : Path) (content : Bytes) (write : Write) (message : String) :
    Files × Outcome :=
  match write with
  | .done => (setFile files path (some content), .done)
  | .failed err left => (setFile files path left, .failed (message ++ ": " ++ err))

/-- The attempts of `download`: the body of the first response in the 200s, the error of the last
attempt, or a panic. With no attempt at all there is no response to read either. -/
inductive Got
  | body (body : Except String Bytes)
  | failed (err : String)
  | panicked

/-- The loop of `download`, with the number of requests that it sends. -/
def downloadTrace (a : Artifact) (url : String) (retry : Nat) : Nat → Nat → Option String → Got × Nat
  | 0, _, none => (.panicked, 0)
  | 0, _, some err => (.failed err, 0)
  | left + 1, attempts, _ =>
    match o.get a attempts with
    | .transportError _ => (.panicked, 1)
    | .response statusCode body =>
      if 200 ≤ statusCode ∧ statusCode < 300 then (.body body, 1)
      else
        let rest := downloadTrace a url retry left (attempts + 1) (some
          ("failed downloading boot artifact from " ++ url ++ ", status code received: " ++
            toString statusCode ++ ", attempt " ++ toString attempts ++ "/" ++ toString retry ++
            ", download error: %!w(<nil>)"))
        (rest.1, rest.2 + 1)

def downloadLoop (a : Artifact) (url : String) (retry : Nat) : Got :=
  (downloadTrace o a url retry retry 0 none).1

def download (files : Files) (a : Artifact) (url : String) (retry : Nat) : Files × Outcome :=
  match downloadLoop o a url retry with
  | .panicked => (files, .panicked)
  | .failed err => (files, .failed ("failed getting " ++ url ++ ": " ++ err))
  | .body (.error err) =>
    (files, .failed ("failed to read body while getting url " ++ url ++ ": " ++ err))
  | .body (.ok body) =>
    writeFile files (tempPath a) body (o.write a) ("failed writing file " ++ (tempPath a).text)

def downloadArtifactsToTempFolder (files : Files) (req : Request) : Files × Outcome :=
  match o.clientErr with
  | some err => (files, .failed ("failed creating secure assisted service client: " ++ err))
  | none =>
    let kernel := download o files .kernel req.kernelURL defaultRetryAmount
    andThen (kernel.1, kernel.2.wrap "failed downloading kernel to host") fun files =>
      let initrd := download o files .initrd req.initrdURL defaultRetryAmount
      (initrd.1, initrd.2.wrap "failed downloading initrd to host")

/-- The text of the boot loader configuration. -/
def bootLoaderConfig (s390x : Bool) (rootfsUrl : String) : String :=
  let options :=
    if s390x then
      "options random.trust_cpu=on ai.ip_cfg_override=1 ignition.firstboot " ++
        "ignition.platform.id=metal coreos.live.rootfs_url=" ++ rootfsUrl
    else
      "options random.trust_cpu=on ignition.firstboot ignition.platform.id=metal " ++
        "'coreos.live.rootfs_url=" ++ rootfsUrl ++ "'"
  "title Assisted Installer Discovery\nversion 999\n" ++ options ++
    "\nlinux /boot/discovery/vmlinuz\ninitrd /boot/discovery/initrd"

def createBootLoaderConfigInTempFolder (files : Files) (rootfsUrl : String) : Files × Outcome :=
  writeFile files (tempPath .config) (utf8 (bootLoaderConfig o.s390x rootfsUrl)) (o.write .config)
    ("failed writing bootloader config content to " ++ (tempPath .config).text)

/-- The error of `os.Stat` and `os.Open` on a path without a file. -/
def notFound (operation : String) (path : Path) : String :=
  operation ++ " " ++ path.text ++ ": no such file or directory"

/-- `calculateBootArtifactsSize`, in `uint64`. -/
def calculateBootArtifactsSize (files : Files) : Except String Nat :=
  let statErr (name : String) (path : Path) : Except String Nat :=
    .error ("failed to stat " ++ name ++ " file " ++ path.text ++ ": " ++ notFound "stat" path)
  match files (tempPath .kernel), files (tempPath .initrd), files (tempPath .config) with
  | none, _, _ => statErr "kernel" (tempPath .kernel)
  | some _, none, _ => statErr "initrd" (tempPath .initrd)
  | some _, some _, none => statErr "bootloader config" (tempPath .config)
  | some kernel, some initrd, some config =>
    .ok ((kernel.length + initrd.length + config.length) % 2 ^ 64)

/-- `getFreeSpace`, in `uint64`; `n` measurements have been made. -/
def getFreeSpace (folder : Path) (n : Nat) : Except String Nat :=
  match o.statfs n with
  | .error err => .error ("failed to statfs " ++ folder.text ++ ": " ++ err)
  | .ok (bavail, bsize) => .ok (bavail * bsize % 2 ^ 64)

def reclaimBootFolderSpace : Outcome :=
  match o.reclaim with
  | (stdout, stderr, exitCode) =>
    if exitCode ≠ 0 then
      .failed ("Cleanup command for RHCOS failed: " ++ stdout ++ ": " ++ stderr)
    else .done

/-- `ensureBootHasSpace` with its events. -/
def spaceTrace (files : Files) (hostFsMountDir : Path) : List Event × Outcome :=
  let mountedBootFolder := getMountedBootFolder hostFsMountDir
  match calculateBootArtifactsSize files with
  | .error err => ([], .failed ("failed to calculate size of boot artifacts: " ++ err))
  | .ok artifactsSize =>
    let measureErr (err : String) : Outcome :=
      .failed ("failed to get free space of boot folder [" ++ mountedBootFolder.text ++ "]: " ++ err)
    match getFreeSpace o mountedBootFolder 0 with
    | .error err => ([.measured mountedBootFolder (.error err)], measureErr err)
    | .ok freeSpace =>
      if artifactsSize < freeSpace then ([.measured mountedBootFolder (.ok freeSpace)], .done)
      else
        let first := [.measured mountedBootFolder (.ok freeSpace), .reclaim files]
        match reclaimBootFolderSpace o with
        | .panicked => (first, .panicked)
        | .failed err => (first, .failed ("failed to reclaim boot folder space: " ++ err))
        | .done =>
          match getFreeSpace o mountedBootFolder 1 with
          | .error err => (first ++ [.measured mountedBootFolder (.error err)], measureErr err)
          | .ok freeSpace =>
            (first ++ [.measured mountedBootFolder (.ok freeSpace)],
              if freeSpace < artifactsSize then
                .failed ("boot folder does not have enough space, artifacts size: " ++
                  toString artifactsSize ++ ", free space: " ++ toString freeSpace ++ "\nRetrying...")
              else .done)

def ensureBootHasSpace (files : Files) (hostFsMountDir : Path) : Outcome :=
  (spaceTrace o files hostFsMountDir).2

/-- `copyFile`: the destination is created, and so emptied, before anything is copied. -/
def copyFile (files : Files) (src dst : Path) (c : Copy) : Files × Outcome :=
  let message (what : String) (err : String) : Outcome := .failed (what ++ ": " ++ err)
  match files src with
  | none => (files, message ("failed to open source file " ++ src.text) (notFound "open" src))
  | some content =>
    match c.openErr with
    | some err => (files, message ("failed to open source file " ++ src.text) err)
    | none =>
      match c.createErr with
      | some err => (files, message ("failed to create destination file " ++ dst.text) err)
      | none =>
        match c.copyErr with
        | some (err, n) =>
          (setFile files dst (some (content.take n)),
            message ("failed to copy data from " ++ src.text ++ " to " ++ dst.text) err)
        | none =>
          let copied := setFile files dst (some content)
          match c.statErr with
          | some err => (copied, message ("failed to stat source file " ++ src.text) err)
          | none =>
            match c.chmodErr with
            | some err => (copied, message ("failed to set permissions on " ++ dst.text) err)
            | none =>
              match c.syncErr with
              | some err => (copied, message ("failed to sync destination file " ++ dst.text) err)
              | none => (copied, .done)

/-- The copy of one artifact, with the message of `copyFilesToBootFolder`. -/
def copyArtifact (files : Files) (hostFsMountDir : Path) (a : Artifact) : Files × Outcome :=
  let copied := copyFile files (tempPath a) (mountedPath hostFsMountDir a) (o.copy a)
  (copied.1, copied.2.wrap ("failed to copy file " ++ (tempPath a).text ++ " to " ++
    (mountedPath hostFsMountDir a).text))

def copyFilesToBootFolder (files : Files) (hostFsMountDir : Path) : Files × Outcome :=
  andThen (copyArtifact o files hostFsMountDir .kernel) fun files =>
    andThen (copyArtifact o files hostFsMountDir .initrd) fun files =>
      copyArtifact o files hostFsMountDir .config

/-- The parts of `run` before `ensureBootHasSpace`. -/
def prepare (files : Files) (req : Request) : Files × Outcome :=
  andThen (files, (createFolders o defaultRetryAmount).wrap "failed creating folders") fun files =>
    let downloaded := downloadArtifactsToTempFolder o files req
    andThen (downloaded.1, downloaded.2.wrap "failed downloading boot artifacts") fun files =>
      let written := createBootLoaderConfigInTempFolder o files req.rootfsURL
      (written.1, written.2.wrap "failed creating bootloader config file on host")

/-- The parts of `run` from `ensureBootHasSpace` on, with their events. -/
def installTrace (files : Files) (hostFsMountDir : Path) : List Event × Files × Outcome :=
  let mountedBootFolder := getMountedBootFolder hostFsMountDir
  let events := (spaceTrace o files mountedBootFolder).1
  match (ensureBootHasSpace o files mountedBootFolder).wrap
    "failed to ensure boot folder has enough space" with
  | .done =>
    let copied := copyFilesToBootFolder o files hostFsMountDir
    (events ++ [.copy files], copied.1, copied.2.wrap "failed to move files to boot folder")
  | .failed err => (events, files, .failed err)
  | .panicked => (events, files, .panicked)

/-- `run` with its events. -/
def runTrace (files : Files) : List Event × Files × Outcome :=
  match o.request with
  | .error err => ([], files, .failed ("failed unmarshalling download boot artifacts request: " ++ err))
  | .ok req =>
    let hostFsMountDir := Path.clean req.hostFsMountDir
    if bootArtifactsExist files hostFsMountDir then ([], files, .done)
    else
      let prepared := prepare o files req
      match prepared.2 with
      | .done => installTrace o prepared.1 hostFsMountDir
      | .failed err => ([], prepared.1, .failed err)
      | .panicked => ([], prepared.1, .panicked)

def run (files : Files) : Files × Outcome := (runTrace o files).2

end Parts

end AssistedAgent.BootArtifacts
