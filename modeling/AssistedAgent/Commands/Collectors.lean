/-
**What a tool prints, in the one-shot collectors.**

`GetCPU`, `getCoreDumps`, `getDiskPerf` and `getV6Address` each run a tool and read what it prints. Each
takes something of a successful output for granted, and panics if it is not there: the name of a field,
a tenth column, a job, an address that is a text.

* `getDiskPerf_ne_none_iff`, `getV6Address_ne_none_iff` — the outputs on which the latter two return;
  those of the former are in their modules.
* **`collectors_return_iff`** — the outputs on which each of the four returns.
* `collectors_panic` — a null among the fields, a field without a name, no core dump, a report without
  jobs and an address that is null.
-/

import AssistedAgent.DiskSpeedCheck.FioPerfCheck
import AssistedAgent.Inventory.Bmc
import AssistedAgent.Inventory.Cpu
import AssistedAgent.LogsSender.CoreDumps

namespace AssistedAgent.Commands

open DiskSpeedCheck Inventory LogsSender

/-! ### Reports of fio -/

/-- **The reports of fio for which `getDiskPerf` returns.** -/
theorem getDiskPerf_ne_none_iff {dryRunEnabled : Bool} {jsonError : String → String} {path : String}
    {execute : Execute} {stdout stderr : String} {exitCode : Int}
    (ran : execute "fio" (fioArgs path) = (stdout, stderr, exitCode)) :
    getDiskPerf dryRunEnabled jsonError path execute ≠ none ↔
      (path ≠ "" → dryRunEnabled = false → exitCode = 0 → unmarshalFio stdout ≠ some []) := by
  unfold getDiskPerf
  by_cases empty : path = ""
  · rw [if_pos empty]
    exact iff_of_true nofun fun filled => absurd empty filled
  rw [if_neg empty]
  cases dryRunEnabled with
  | true =>
    rw [if_pos rfl]
    exact iff_of_true nofun nofun
  | false =>
    rw [if_neg Bool.false_ne_true, ran]
    dsimp only
    by_cases failed : exitCode = 0
    · rw [if_neg (not_not.mpr failed)]
      simp only [empty, failed, ne_eq, not_false_eq_true, forall_const]
      cases unmarshalFio stdout with
      | none => exact iff_of_true nofun nofun
      | some latencies =>
        cases latencies with
        | nil => exact iff_of_false (fun panics => panics rfl) fun other => other rfl
        | cons ns rest => exact iff_of_true nofun nofun
    · rw [if_pos failed]
      exact iff_of_true nofun fun _ _ zero => absurd zero failed

/-! ### Tables of ipmitool -/

theorem consider_eq_panic {addressType : AddressType} {addressMap : List (Scalar × Scalar)}
    {value : Scalar} (found : addressMap.lookup (.text "Address") = some value)
    (other : ∀ address, value ≠ .text address) : consider addressType addressMap = .panic := by
  unfold consider
  rw [found]
  cases value with
  | bool value => rfl
  | text address => exact absurd rfl (other address)
  | other source => rfl

/-- The order that puts one entry of a table in front. -/
def inFront (m : List Entry) (entry : Entry) (member : entry ∈ m) : Iteration where
  order _ _ m' := if m' = m then entry :: m.erase entry else m'
  perm _ _ m' := by
    split
    · rename_i same
      rw [same]
      exact (List.perm_cons_erase member).symm
    · exact .refl _

/-- **The tables of ipmitool for which `getV6Address` returns**, in whatever order it reads them. -/
theorem getV6Address_ne_none_iff {d : Util.Dependencies} {unmarshal : String → Option (List Entry)}
    {ch : Nat} {addressType : AddressType} {o e : String} {exitCode : Int}
    (ran : d.execute ["ipmitool", "lan6", "print", toString ch, addressType.text ++ "_addr"] =
      (o, e, exitCode)) :
    (∀ it, getV6Address d unmarshal it ch addressType ≠ none) ↔
      (exitCode = 0 → ∀ m, unmarshal o = some m → TextAddresses m) := by
  unfold getV6Address
  rw [ran]
  dsimp only
  by_cases failed : exitCode = 0
  swap
  · simp only [ne_eq, failed, not_false_eq_true, if_true, reduceCtorEq, implies_true,
      false_implies]
  simp only [failed, ne_eq, not_true_eq_false, if_false, forall_const]
  cases decoded : unmarshal o with
  | none => exact iff_of_true (fun _ => nofun) nofun
  | some m =>
    simp only [Option.some.injEq, forall_eq']
    constructor
    · intro returns addressMap member value found
      by_contra other
      push Not at other
      refine returns (inFront m (.fields addressMap) member) ?_
      have first : (inFront m (.fields addressMap) member).order ch addressType m =
          .fields addressMap :: m.erase (.fields addressMap) := if_pos rfl
      rw [first, firstAddress, consider_eq_panic found other]
    · intro texts it
      have kept : TextAddresses (it.order ch addressType m) := fun addressMap member =>
        texts addressMap ((it.perm ch addressType m).mem_iff.mp member)
      rw [firstAddress_eq kept]
      exact nofun

/-! ### The four of them -/

/-- **No successful output ends a collector, but for these**: a field of lscpu that is null or has no
name, a line of coredumpctl with less than ten columns that is reached, a report of fio without jobs,
and an address of ipmitool that is not a text. -/
theorem collectors_return_iff {F : Type} (parseFloat : String → F) (greater : F → F → Bool) (zero : F)
    (d : Util.Dependencies) (dump : ExecutePrivileged) (targetDir : String) (dryRunEnabled : Bool)
    (jsonError : String → String) (path : String) (execute : Execute)
    (unmarshal : String → Option (List Entry)) (ch : Nat) (addressType : AddressType) :
    (getCPU parseFloat greater zero d ≠ none ↔
      ((d.execute ["lscpu", "-J"]).2.2 = 0 →
        ∀ l, unmarshalLscpu (d.execute ["lscpu", "-J"]).1 = some l → ∀ entry ∈ l, IsNamed entry)) ∧
    (getCoreDumps dump targetDir ≠ none ↔
      ((dump 0 listCommand).2.2 = 0 →
        ColumnsUpToFailure dump targetDir 1 (dumpLines (dump 0 listCommand).1))) ∧
    (getDiskPerf dryRunEnabled jsonError path execute ≠ none ↔
      (path ≠ "" → dryRunEnabled = false → (execute "fio" (fioArgs path)).2.2 = 0 →
        unmarshalFio (execute "fio" (fioArgs path)).1 ≠ some [])) ∧
    ((∀ it, getV6Address d unmarshal it ch addressType ≠ none) ↔
      ((d.execute ["ipmitool", "lan6", "print", toString ch, addressType.text ++ "_addr"]).2.2 = 0 →
        ∀ m, unmarshal (d.execute ["ipmitool", "lan6", "print", toString ch,
          addressType.text ++ "_addr"]).1 = some m → TextAddresses m)) :=
  ⟨getCPU_ne_none_iff rfl, getCoreDumps_ne_none_iff rfl, getDiskPerf_ne_none_iff rfl,
    getV6Address_ne_none_iff rfl⟩

def nullField : String := "\x7b\"lscpu\":[null]\x7d"

def unnamedField : String := "\x7b\"lscpu\":[\x7b\"field\":\"\"\x7d]\x7d"

/-- What the document `one:\n  Address:\n` decodes to. -/
def nullAddress : List Entry := [.fields [(.text "Address", .other "null")]]

/-- **Each of the four has a successful output that ends it.** -/
theorem collectors_panic :
    getCPU (fun _ => 0) (fun f g : Nat => f > g) 0 (printing nullField) = none ∧
      getCPU (fun _ => 0) (fun f g : Nat => f > g) 0 (printing unnamedField) = none ∧
      getCoreDumps (fun _ _ => ("", "", 0)) "/tmp" = none ∧
      getDiskPerf false (fun _ => "") "/dev/sda" (fun _ _ => ("\x7b\x7d", "", 0)) = none ∧
      getV6Address (printing "one:\n  Address:\n") (fun _ => some nullAddress)
        ⟨fun _ _ m => m, fun _ _ m => .refl m⟩ 1 .dynamic = none := by
  decide +kernel

end AssistedAgent.Commands
