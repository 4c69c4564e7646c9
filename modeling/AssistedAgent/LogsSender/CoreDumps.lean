/-
**The core dumps of the host.**

`getCoreDumps` lists the core dumps and writes each to a file, by the fifth and the tenth column of its
line. A line with fewer columns is a panic, `none`, unless an earlier dump has failed; and so is the
empty line of an empty list.

* **`getCoreDumps_ne_none_iff`** — the lists for which `getCoreDumps` returns.
-/

import AssistedAgent.Lib.GoPath
import AssistedAgent.Lib.GoStrings

namespace AssistedAgent.LogsSender

open GoPath GoStrings

/-- What `ExecutePrivileged` answers to its calls, by their number: standard output, standard error and
the exit code. -/
abbrev ExecutePrivileged := Nat → List String → String × String × Int

def outputFile (targetDir exe pid : String) : String :=
  ((Path.clean targetDir).join ["coredump_exe_" ++ exe ++ "_pid_" ++ pid]).text

/-- The command that writes the dump of a line with these columns. -/
def dumpCommand (targetDir : String) (columns : List String) : List String :=
  let pid := columns.getD 4 ""
  ["coredumpctl", "dump", pid, "--output", outputFile targetDir (base (columns.getD 9 "")) pid]

section Dumps

variable (execute : ExecutePrivileged) (targetDir : String)

/-- The loop over the lines, from a call on. Its result is the error that is returned, if any. -/
def dumpAll (call : Nat) : List String → Option (Option String)
  | [] => some none
  | dump :: dumps =>
    if (fields dump).length ≤ 9 then none
    else
      match execute call (dumpCommand targetDir (fields dump)) with
      | (_, stderr, exitCode) => if exitCode ≠ 0 then some (some stderr) else dumpAll (call + 1) dumps

def listCommand : List String := ["coredumpctl", "list", "--no-legend"]

def dumpLines (stdout : String) : List String := split (trimSuffix stdout "\n") '\n'

def getCoreDumps : Option (Option String) :=
  match execute 0 listCommand with
  | (stdout, _, exitCode) =>
    if exitCode ≠ 0 then some none else dumpAll execute targetDir 1 (dumpLines stdout)

/-! ### The lists that are read -/

/-- The dump of a line succeeds. -/
def Dumps (call : Nat) (dump : String) : Prop :=
  (execute call (dumpCommand targetDir (fields dump))).2.2 = 0

/-- Every line has its columns, up to one whose dump fails. -/
def ColumnsUpToFailure (call : Nat) (dumps : List String) : Prop :=
  ∀ before dump after, dumps = before ++ dump :: after →
    (∀ i earlier, before[i]? = some earlier → Dumps execute targetDir (call + i) earlier) →
    10 ≤ (fields dump).length

variable {execute targetDir}

theorem columnsUpToFailure_cons_iff {call : Nat} {dump : String} {dumps : List String} :
    ColumnsUpToFailure execute targetDir call (dump :: dumps) ↔
      10 ≤ (fields dump).length ∧
        (Dumps execute targetDir call dump → ColumnsUpToFailure execute targetDir (call + 1) dumps) := by
  constructor
  · intro columns
    refine ⟨columns [] dump dumps rfl (by simp), ?_⟩
    intro first before later after split earlier
    refine columns (dump :: before) later after (by rw [split, List.cons_append]) ?_
    intro i line here
    cases i with
    | zero =>
      cases here
      exact first
    | succ i =>
      rw [← Nat.add_assoc, Nat.add_right_comm]
      exact earlier i line here
  · rintro ⟨first, rest⟩ before later after split earlier
    cases before with
    | nil =>
      cases split
      exact first
    | cons line before =>
      cases split
      refine rest (earlier 0 dump rfl) before later after rfl ?_
      intro i line here
      rw [Nat.add_right_comm, Nat.add_assoc]
      exact earlier (i + 1) line here

theorem dumpAll_ne_none_iff {call : Nat} {dumps : List String} :
    dumpAll execute targetDir call dumps ≠ none ↔ ColumnsUpToFailure execute targetDir call dumps := by
  induction dumps generalizing call with
  | nil =>
    refine iff_of_true nofun ?_
    intro before dump after split
    simp at split
  | cons dump dumps ih =>
    rw [columnsUpToFailure_cons_iff, dumpAll]
    by_cases few : (fields dump).length ≤ 9
    · rw [if_pos few]
      exact iff_of_false (fun panics => panics rfl) fun both => by omega
    · have enough : 10 ≤ (fields dump).length := by omega
      rw [if_neg few]
      unfold Dumps
      rcases execute call (dumpCommand targetDir (fields dump)) with ⟨stdout, stderr, exitCode⟩
      dsimp only
      by_cases failed : exitCode = 0
      · rw [if_neg (not_not.mpr failed), ih]
        simp only [enough, failed, true_and, forall_const]
      · rw [if_pos failed]
        exact iff_of_true nofun ⟨enough, fun zero => absurd zero failed⟩

/-- **The lists of core dumps for which `getCoreDumps` returns.** -/
theorem getCoreDumps_ne_none_iff {stdout stderr : String} {exitCode : Int}
    (ran : execute 0 listCommand = (stdout, stderr, exitCode)) :
    getCoreDumps execute targetDir ≠ none ↔
      (exitCode = 0 → ColumnsUpToFailure execute targetDir 1 (dumpLines stdout)) := by
  unfold getCoreDumps
  rw [ran]
  dsimp only
  by_cases failed : exitCode = 0
  · rw [if_neg (not_not.mpr failed), dumpAll_ne_none_iff]
    simp only [failed, forall_const]
  · rw [if_pos failed]
    exact iff_of_true nofun fun zero => absurd zero failed

end Dumps

end AssistedAgent.LogsSender
