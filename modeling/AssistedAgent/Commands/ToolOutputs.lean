/-
**What a tool prints, in the process that runs the steps.**

The checker for arping, the reader of `chronyc -n sources` and the reader of `findmnt` run in the
long-lived process of the step runner. Each takes something of the outcome of its tool for granted, and
panics if it is not there: an exit code, a state and a name after a caret, a second column.

* `formatChronySourcesOutput_eq_none_iff`, `getMountpointSourceDeviceFile_eq_none_iff` — the outputs on
  which the readers panic.
* **`toolOutputs_return_iff`** — the outcomes on which the three return.
* `toolOutputs_panic` — a missing binary, a line without a name and a line of blanks.
-/

import AssistedAgent.Connectivity.Order
import AssistedAgent.Lib.GoStrings

namespace AssistedAgent.Commands

open GoStrings Connectivity

/-! ### The sources of chrony -/

/-- `models.SourceState`. -/
inductive SourceState
  | synced
  | combined
  | notCombined
  | unreachable
  | error
  | variableState
deriving DecidableEq, Repr

/-- `models.NtpSource`. -/
structure NtpSource where
  sourceName : String
  sourceState : SourceState
deriving DecidableEq, Repr

/-- The argument in the source is the second byte of a word. Where that is the first byte of a longer
character, neither the byte nor the character is one of those that are listed. -/
def convertSourceState : Char → SourceState
  | '*' => .synced
  | '+' => .combined
  | '-' => .notCombined
  | '?' => .unreachable
  | 'x' => .error
  | '~' => .variableState
  | _ => .error

/-- One line: a source, or none if it is no line of a server; no result is a panic. -/
def formatLine (line : String) : Option (Option NtpSource) :=
  if line = "" then some none
  else
    match fields line with
    | [] => some none
    | first :: rest =>
      match first.toList with
      | [] => none
      | mode :: states =>
        if mode ≠ '^' then some none
        else
          match rest, states with
          | name :: _, state :: _ => some (some ⟨name, convertSourceState state⟩)
          | _, _ => none

def formatLines : List String → Option (List NtpSource)
  | [] => some []
  | line :: lines => do
    let source ← formatLine line
    let sources ← formatLines lines
    some (source.toList ++ sources)

/-- `none` is an index out of range. -/
def formatChronySourcesOutput (output : String) : Option (List NtpSource) :=
  formatLines (split output '\n')

/-- A line of a server without a state or without a name. -/
def Cut (line : String) : Prop :=
  ∃ states rest, fields line = String.ofList ('^' :: states) :: rest ∧ (states = [] ∨ rest = [])

theorem formatLine_eq_none_iff (line : String) : formatLine line = none ↔ Cut line := by
  unfold formatLine Cut
  split
  · rename_i empty
    rw [empty]
    exact ⟨nofun, nofun⟩
  split
  · rename_i blank
    rw [blank]
    exact ⟨nofun, nofun⟩
  rename_i first rest words
  have filled : first.toList ≠ [] := by
    have member : first ∈ fields line := words ▸ List.mem_cons_self
    obtain ⟨word, listed, rfl⟩ := List.mem_map.mp member
    rw [String.toList_ofList]
    exact ne_nil_of_mem_wordsFrom listed
  rw [words]
  cases chars : first.toList with
  | nil => exact absurd chars filled
  | cons mode states =>
    have is : first = String.ofList (mode :: states) := by rw [← chars, String.ofList_toList]
    dsimp only
    by_cases server : mode = '^'
    · rw [if_neg (not_not.mpr server), is, server]
      cases rest with
      | nil => exact ⟨fun _ => ⟨states, [], rfl, Or.inr rfl⟩, fun _ => rfl⟩
      | cons name rest =>
        cases states with
        | nil => exact ⟨fun _ => ⟨[], name :: rest, rfl, Or.inl rfl⟩, fun _ => rfl⟩
        | cons state states =>
          refine ⟨nofun, ?_⟩
          rintro ⟨states', rest', same, missing⟩
          rw [List.cons.injEq, String.ofList_inj, List.cons.injEq] at same
          obtain ⟨⟨-, rfl⟩, rfl⟩ := same
          rcases missing with missing | missing <;> cases missing
    · rw [if_pos server, is]
      refine ⟨nofun, ?_⟩
      rintro ⟨states', rest', same, -⟩
      rw [List.cons.injEq, String.ofList_inj, List.cons.injEq] at same
      exact absurd same.1.1 server

theorem formatLines_eq_none_iff (lines : List String) :
    formatLines lines = none ↔ ∃ line ∈ lines, Cut line := by
  induction lines with
  | nil => exact ⟨nofun, fun ⟨_, member, _⟩ => nomatch member⟩
  | cons line lines ih =>
    rw [formatLines, List.exists_mem_cons_iff, ← formatLine_eq_none_iff, ← ih]
    cases formatLine line with
    | none => simp
    | some source => cases formatLines lines <;> simp

/-- **The outputs of chronyc on which the reader panics.** -/
theorem formatChronySourcesOutput_eq_none_iff (output : String) :
    formatChronySourcesOutput output = none ↔ ∃ line ∈ split output '\n', Cut line :=
  formatLines_eq_none_iff _

/-! ### The mount of the ISO -/

def mediaPath : String := "/run/media/iso"

def mediaErrorMessage : String := "failed to validate media disconnection - continuing"

/-- The device of the mounted ISO, or an error. `found` is the outcome of `os.Stat`, and the others
are that of `findmnt`; `none` is an index out of range. -/
def getMountpointSourceDeviceFile (found : Bool) (stdout stderr : String) (exitCode : Int) :
    Option (Except String String) :=
  if ! found then some (.ok "")
  else if exitCode ≠ 0 then some (.error (mediaErrorMessage ++ ": " ++ stderr))
  else if stdout = "" then
    some (.error (mediaErrorMessage ++ ": cannot find ISO mountpoint source"))
  else
    match fields stdout with
    | source :: target :: _ =>
      if target ≠ mediaPath then
        some (.error (mediaErrorMessage ++ ": media mounted to " ++ target ++
          " instead of directly to " ++ mediaPath))
      else if source = "" || ! hasPrefix source "/dev" then
        some (.error (mediaErrorMessage ++ ": the mount source isn't a device file " ++ source))
      else some (.ok source)
    | _ => none

/-- **The outputs of findmnt on which the reader panics.** -/
theorem getMountpointSourceDeviceFile_eq_none_iff (found : Bool) (stdout stderr : String)
    (exitCode : Int) :
    getMountpointSourceDeviceFile found stdout stderr exitCode = none ↔
      found = true ∧ exitCode = 0 ∧ stdout ≠ "" ∧ (fields stdout).length < 2 := by
  unfold getMountpointSourceDeviceFile
  cases found with
  | false => exact ⟨nofun, nofun⟩
  | true =>
    by_cases failed : exitCode = 0
    swap
    · rw [if_neg (by decide), if_pos failed]
      exact ⟨nofun, fun ⟨_, zero, _⟩ => absurd zero failed⟩
    by_cases empty : stdout = ""
    · rw [if_neg (by decide), if_neg (not_not.mpr failed), if_pos empty]
      exact ⟨nofun, fun ⟨_, _, filled, _⟩ => absurd empty filled⟩
    rw [if_neg (by decide), if_neg (not_not.mpr failed), if_neg empty]
    split
    · rename_i source target rest words
      rw [words]
      refine ⟨fun panicked => ?_, fun ⟨_, _, _, few⟩ => ?_⟩
      · split at panicked
        · cases panicked
        · split at panicked <;> cases panicked
      · rw [List.length_cons, List.length_cons] at few
        omega
    · rename_i few
      refine ⟨fun _ => ⟨rfl, failed, empty, ?_⟩, fun _ => rfl⟩
      cases words : fields stdout with
      | nil => decide
      | cons source rest =>
        cases rest with
        | nil => exact Nat.lt_succ_self 1
        | cons target rest => exact absurd words (few source target rest)

/-! ### The three of them -/

/-- **No outcome of a tool ends the process, but for these**: an arping that fails without an exit
code, a line of a chrony server without a state or a name, and an output of findmnt without a second
column. -/
theorem toolOutputs_return_iff (t : Tools) (w : World) (a : Attributes) (output : String)
    (found : Bool) (stdout stderr : String) (exitCode : Int) :
    (arpingCheck t w a ≠ none ↔ ¬ ArpingLost w a) ∧
      (formatChronySourcesOutput output ≠ none ↔ ∀ line ∈ split output '\n', ¬ Cut line) ∧
      (getMountpointSourceDeviceFile found stdout stderr exitCode ≠ none ↔
        (found = true → exitCode = 0 → stdout ≠ "" → 2 ≤ (fields stdout).length)) := by
  refine ⟨not_congr arpingCheck_eq_none_iff, ?_, ?_⟩
  · rw [Ne, formatChronySourcesOutput_eq_none_iff]
    push Not
    rfl
  · rw [Ne, getMountpointSourceDeviceFile_eq_none_iff]
    push Not
    rfl

/-- Arping is not installed. -/
def withoutArping : World :=
  { quietWorld with
    execute := fun _ _ => ("", some (.other "exec: \"arping\": executable file not found in $PATH")) }

/-- An arping of the remote address from a NIC in its network. -/
def sampleAttributes : Attributes where
  remoteIPAddress := "10.0.0.2"
  remoteMACAddress := "52:54:00:00:00:02"
  outgoingNIC := jumbo "ens3"
  remoteMACAddresses := []

/-- **Each of the three has an outcome that ends the process.** -/
theorem toolOutputs_panic :
    arpingCheck asciiTools withoutArping sampleAttributes = none ∧
      formatChronySourcesOutput "^?" = none ∧
      getMountpointSourceDeviceFile true " " "" 0 = none := by
  decide +kernel

end AssistedAgent.Commands
