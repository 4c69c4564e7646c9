/-
**The iSCSI session of a disk, by its place in the resolved path.**

`getISCSIHost` and `getISCSISession` take the fifth and the sixth component of the path that
`/sys/block/<disk>` resolves to. The host and the session stand there below `/sys/devices/platform`,
that is, for an adapter of one component. The components of an adapter on the PCI bus push them
further down.

* `getISCSIProperty_eq` — what is taken from the path of a session.
* **`refersToOwn_iff`** — the paths whose own host and session are taken.
* `not_refersToOwn_pci` — an adapter behind a PCI bridge.
-/

import AssistedAgent.Inventory.Disks
import AssistedAgent.Lib.GoNet

namespace AssistedAgent.Inventory

open GoPath GoStrings

/-! ### Paths of sessions -/

/-- The path that `/sys/block/<disk>` resolves to, for a disk of an iSCSI session. -/
structure SessionPath where
  /-- The components between `/sys/devices` and the host. -/
  adapter : List String
  host : Nat
  session : Nat
  /-- What follows `target`. -/
  target : String
  hctl : String
  disk : String
  filled : adapter ≠ []
  names : ∀ name ∈ adapter ++ ["target" ++ target, hctl, disk], Path.IsComponent name

namespace SessionPath

variable (p : SessionPath)

def hostName : String := "host" ++ Nat.repr p.host

def sessionName : String := "session" ++ Nat.repr p.session

/-- The components from the adapter on. -/
def below : List String :=
  p.adapter ++ [p.hostName, p.sessionName, "target" ++ p.target, p.hctl, "block", p.disk]

def text : String := Path.text ⟨true, "sys" :: "devices" :: p.below⟩

theorem hostName_ne_sessionName : p.hostName ≠ p.sessionName := by
  intro same
  have letters := congrArg (·.toList.head?) same
  simp [hostName, sessionName] at letters

/-- A name that ends in a number has no slash if its beginning has none. -/
theorem slash_not_mem_numbered {start : String} (single : '/' ∉ start.toList) (n : Nat) :
    '/' ∉ (start ++ Nat.repr n).toList := by
  rw [String.toList_append, List.mem_append, Nat.toList_repr]
  rintro (early | late)
  · exact single early
  · exact GoNet.not_mem_toDigits rfl n late

theorem single_of_mem_below {name : String} (member : name ∈ p.below) : '/' ∉ name.toList := by
  have known (listed : name ∈ p.adapter ++ ["target" ++ p.target, p.hctl, p.disk]) :
      '/' ∉ name.toList := (p.names name listed).single
  simp only [below, List.mem_append, List.mem_cons, List.not_mem_nil, or_false] at member known
  rcases member with adapter | rfl | rfl | target | hctl | rfl | disk
  · exact known (.inl adapter)
  · exact slash_not_mem_numbered (by decide) p.host
  · exact slash_not_mem_numbered (by decide) p.session
  · exact known (.inr (.inl target))
  · exact known (.inr (.inr (.inl hctl)))
  · decide
  · exact known (.inr (.inr (.inr disk)))

theorem split_text : split p.text '/' = "" :: "sys" :: "devices" :: p.below := by
  refine Path.components_text (List.cons_ne_nil _ _) ?_
  intro name member
  rcases List.mem_cons.mp member with rfl | member
  · decide
  rcases List.mem_cons.mp member with rfl | member
  · decide
  · exact p.single_of_mem_below member

/-- The session of a path is read off its text. -/
theorem sessionName_of_text_eq {p q : SessionPath} (same : p.text = q.text) :
    p.adapter.length = q.adapter.length ∧ p.sessionName = q.sessionName := by
  have split_eq := p.split_text
  rw [same, q.split_text] at split_eq
  have below_eq : q.below = p.below := by simpa using split_eq
  have length_eq : q.adapter.length = p.adapter.length := by
    simpa [below] using congrArg List.length below_eq
  have at_ (r : SessionPath) : r.below[r.adapter.length + 1]? = some r.sessionName := by
    simp [below]
  have found := at_ q
  rw [below_eq, length_eq, at_ p] at found
  exact ⟨length_eq.symm, Option.some.inj found⟩

end SessionPath

/-! ### What is taken from a path -/

section Sessions

variable (d : Dependencies)

/-- The address of a host. -/
def hostIPAddress (iSCSIHost : String) : String :=
  match d.readFile (join "/sys/class/iscsi_host" [iSCSIHost, "ipaddress"]) with
  | .error _ => ""
  | .ok data => trimSpace data

/-- The check of a session against the iBFT. -/
def sessionInIBFT (iSCSISession : String) : Option (List String) :=
  match d.readFile (join "/sys/class/iscsi_session" [iSCSISession, "targetname"]) with
  | .error _ => some ["Cannot find iSCSI target name"]
  | .ok data =>
    match d.readDir ibftBasePath with
    | (_, some _) => some ["iBFT firmware is missing"]
    | (files, none) => findTarget d.readFile (trimSpace data) files

/-- The disk's own host and session are found, and what is reported of the disk is theirs. -/
structure RefersToOwn (p : SessionPath) (disk : Disk) : Prop where
  host : getISCSIHost d disk.name = .ok p.hostName
  session : getISCSISession d disk.name = .ok p.sessionName
  address : getISCSIHostIPAddress d disk.name = hostIPAddress d p.hostName
  inIBFT : checkEligibilityISCSIinIBFT d disk = sessionInIBFT d p.sessionName

variable {d} {p : SessionPath} {disk : Disk}

theorem RefersToOwn.of_names (host : getISCSIHost d disk.name = .ok p.hostName)
    (session : getISCSISession d disk.name = .ok p.sessionName) : RefersToOwn d p disk where
  host := host
  session := session
  address := by
    rw [getISCSIHostIPAddress, host]
    rfl
  inIBFT := by
    rw [checkEligibilityISCSIinIBFT, session]
    rfl

/-- **The component at an index**, counted from the adapter on. -/
theorem getISCSIProperty_eq {diskName : String}
    (resolves : d.evalSymlinks (join "/sys" ["block", diskName]) = .ok p.text) (i : Nat)
    (name : String) :
    getISCSIProperty d diskName (i + 3) = .ok name ↔ p.below[i]? = some name := by
  rw [getISCSIProperty, resolves]
  simp only [p.split_text, List.getElem?_cons_succ]
  cases p.below[i]? with
  | none => exact ⟨nofun, nofun⟩
  | some found =>
    simp only [Except.ok.injEq, Option.some.injEq]

/-- The second and the third component are the host and the session if the adapter has one component,
or components of these names itself. -/
theorem below_eq_names_iff :
    (p.below[1]? = some p.hostName ∧ p.below[2]? = some p.sessionName) ↔
      p.adapter.length = 1 ∨
        (p.adapter[1]? = some p.hostName ∧ p.adapter[2]? = some p.sessionName) := by
  unfold SessionPath.below
  match shape : p.adapter, p.filled with
  | [platform], _ => simp
  | [bus, device], _ =>
    -- The session would have to be the host.
    simp [p.hostName_ne_sessionName]
  | bus :: bridge :: device :: rest, _ => simp

/-- **The disk's own host and session are found** exactly under an adapter of one component, or of one
that has components of their names in the places of theirs. -/
theorem refersToOwn_iff (d : Dependencies) (p : SessionPath) (disk : Disk)
    (resolves : d.evalSymlinks (join "/sys" ["block", disk.name]) = .ok p.text) :
    RefersToOwn d p disk ↔
      p.adapter.length = 1 ∨
        (p.adapter[1]? = some p.hostName ∧ p.adapter[2]? = some p.sessionName) := by
  rw [← below_eq_names_iff, ← getISCSIProperty_eq resolves, ← getISCSIProperty_eq resolves]
  constructor
  · intro own
    exact ⟨own.host, own.session⟩
  · rintro ⟨host, session⟩
    exact .of_names host session

end Sessions

/-! ### Two adapters -/

/-- A session of host 6 below an adapter. -/
def sampleSession (adapter : List String) (filled : adapter ≠ [])
    (names : ∀ name ∈ adapter ++ ["target6:0:0", "6:0:0:0", "sda"], Path.IsComponent name) :
    SessionPath :=
  ⟨adapter, 6, 1, "6:0:0", "6:0:0:0", "sda", filled, names⟩

/-- Software iSCSI. -/
def platformSession : SessionPath := sampleSession ["platform"] (by decide) (by decide)

/-- An offload adapter behind a PCI bridge. -/
def pciSession : SessionPath :=
  sampleSession ["pci0000:00", "0000:00:02.0", "0000:3b:00.0"] (by decide) (by decide)

def sessionDisk : Disk :=
  ⟨"sda", 1000, .ssd, false, .scsi, "ip-10.0.0.5:3260-iscsi-iqn.2024-01.com.example:boot-lun-0", "", "", "",
    "unknown", []⟩

/-- A host whose disk has this path. -/
def sessionHost (p : SessionPath) : Dependencies :=
  hostWith [sessionDisk] [] [("/sys/block/sda", p.text)] []

theorem refersToOwn_platform :
    platformSession.text =
        "/sys/devices/platform/host6/session1/target6:0:0/6:0:0:0/block/sda" ∧
      RefersToOwn (sessionHost platformSession) platformSession sessionDisk :=
  ⟨by decide +kernel,
    (refersToOwn_iff (sessionHost platformSession) platformSession sessionDisk rfl).mpr (.inl rfl)⟩

/-- **Components of the PCI bus are taken for the host and the session.** -/
theorem not_refersToOwn_pci :
    pciSession.text =
        "/sys/devices/pci0000:00/0000:00:02.0/0000:3b:00.0/host6/session1/target6:0:0/6:0:0:0/block/sda" ∧
      getISCSIHost (sessionHost pciSession) "sda" = .ok "0000:00:02.0" ∧
      getISCSISession (sessionHost pciSession) "sda" = .ok "0000:3b:00.0" ∧
      ¬ RefersToOwn (sessionHost pciSession) pciSession sessionDisk := by
  have resolves : (sessionHost pciSession).evalSymlinks (join "/sys" ["block", "sda"]) =
      .ok pciSession.text := rfl
  have host : getISCSIHost (sessionHost pciSession) "sda" = .ok "0000:00:02.0" :=
    (getISCSIProperty_eq resolves 1 _).mpr rfl
  have session : getISCSISession (sessionHost pciSession) "sda" = .ok "0000:3b:00.0" :=
    (getISCSIProperty_eq resolves 2 _).mpr rfl
  refine ⟨by decide +kernel, host, session, ?_⟩
  intro own
  have both := host.symm.trans own.host
  exact absurd (Except.ok.inj both) (by decide)

end AssistedAgent.Inventory
