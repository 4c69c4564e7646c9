/-
**Errors that collect errors.**

An error is a plain one or a `*multierror.Error`, a list of errors. `append` is `multierror.Append`,
`flatten` is `multierror.Flatten`. What an error amounts to is the list of its `leaves`, the plain
errors in it: `append` concatenates them (`leaves_append`), `flatten` keeps them (`leaves_flatten`),
and a loop that appends errors one by one loses none (**`leaves_collect`**). A variable to which plain
errors and collections of them were added is `collected`, and its text lists them (`errorsOf_plain`).
-/

import Mathlib.Data.List.Flatten
import Mathlib.Data.List.Induction

namespace Multierror

variable {E : Type}

inductive GoError (E : Type)
  | plain (e : E)
  | multi (errors : List (GoError E))

namespace GoError

mutual

/-- The plain errors of an error. -/
def leaves : GoError E → List E
  | .plain e => [e]
  | .multi errors => leavesOf errors

def leavesOf : List (GoError E) → List E
  | [] => []
  | e :: errors => leaves e ++ leavesOf errors

end

theorem leavesOf_eq (errors : List (GoError E)) : leavesOf errors = errors.flatMap leaves := by
  induction errors with
  | nil => rfl
  | cons e errors ih => rw [leavesOf, ih, List.flatMap_cons]

/-- What `Append` takes from one error: the errors of a collection, one level deep. -/
def parts : GoError E → List (GoError E)
  | .plain e => [.plain e]
  | .multi errors => errors

theorem leaves_parts (e : GoError E) : (parts e).flatMap leaves = leaves e := by
  cases e with
  | plain e => simp [parts, leaves]
  | multi errors => rw [parts, leaves, leavesOf_eq]

/-- `multierror.Append(err, errs...)`; `none` is the nil error. -/
def append (err : Option (GoError E)) (errs : List (GoError E)) : GoError E :=
  .multi ((err.toList ++ errs).flatMap parts)

theorem leaves_append (err : Option (GoError E)) (errs : List (GoError E)) :
    leaves (append err errs) = (err.toList ++ errs).flatMap leaves := by
  rw [append, leaves, leavesOf_eq, List.flatMap_assoc]
  simp only [leaves_parts]

/-- `multierror.Flatten`. -/
def flatten : GoError E → GoError E
  | .plain e => .plain e
  | .multi errors => .multi ((leaves (.multi errors)).map .plain)

theorem leaves_flatten (e : GoError E) : leaves (flatten e) = leaves e := by
  cases e with
  | plain e => rfl
  | multi errors =>
    rw [flatten, leaves, leavesOf_eq, List.flatMap_map]
    simp [leaves]

/-- A loop that appends errors to a variable one by one. -/
def collect (err : Option (GoError E)) (errs : List (GoError E)) : Option (GoError E) :=
  errs.foldl (fun err e => some (append err [e])) err

@[simp] theorem collect_nil (err : Option (GoError E)) : collect err [] = err := rfl

theorem collect_concat (err : Option (GoError E)) (errs : List (GoError E)) (e : GoError E) :
    collect err (errs ++ [e]) = some (append (collect err errs) [e]) := by
  rw [collect, List.foldl_append]
  rfl

/-- **No plain error is lost on the way.** -/
theorem leaves_collect (errs : List (GoError E)) :
    (collect none errs).toList.flatMap leaves = errs.flatMap leaves := by
  induction errs using List.reverseRecOn with
  | nil => rfl
  | append_singleton errs e ih =>
    rw [collect_concat, Option.toList_some, List.flatMap_singleton, leaves_append, List.flatMap_append,
      ih, List.flatMap_append]

theorem collect_eq_none_iff (errs : List (GoError E)) : collect none errs = none ↔ errs = [] := by
  induction errs using List.reverseRecOn with
  | nil => simp
  | append_singleton errs e _ => simp [collect_concat]

/-! ### A variable of collected plain errors -/

/-- `if err != nil { result = multierror.Append(result, err) }`. -/
def appendError (result : Option (GoError E)) : Option (GoError E) → Option (GoError E)
  | none => result
  | some e => some (append result [e])

/-- The variable when these plain errors were added to it. -/
def collected (errs : List E) : Option (GoError E) :=
  if errs = [] then none else some (.multi (errs.map .plain))

/-- An error that adds these plain errors. -/
def Amounts : Option (GoError E) → List E → Prop
  | none, errs => errs = []
  | some e, errs => errs ≠ [] ∧ parts e = errs.map .plain

@[simp] theorem collected_nil : collected ([] : List E) = none := rfl

theorem collected_of_ne {errs : List E} (some_error : errs ≠ []) :
    collected errs = some (.multi (errs.map .plain)) := if_neg some_error

theorem amounts_collected (errs : List E) : Amounts (collected errs) errs := by
  by_cases empty : errs = []
  · subst empty
    rfl
  · rw [collected_of_ne empty]
    exact ⟨empty, rfl⟩

theorem amounts_plain (e : E) : Amounts (some (.plain e)) [e] := ⟨nofun, rfl⟩

theorem parts_collected (errs : List E) :
    (collected errs).toList.flatMap parts = errs.map .plain := by
  by_cases empty : errs = []
  · subst empty
    rfl
  · rw [collected_of_ne empty, Option.toList_some, List.flatMap_singleton, parts]

/-- **The variable has the errors that were added.** -/
theorem appendError_collected (errs : List E) {err : Option (GoError E)} {added : List E}
    (amounts : Amounts err added) : appendError (collected errs) err = collected (errs ++ added) := by
  cases err with
  | none =>
    obtain rfl : added = [] := amounts
    rw [appendError, List.append_nil]
  | some e =>
    obtain ⟨nonempty, parts_eq⟩ := amounts
    rw [collected_of_ne (List.append_ne_nil_of_right_ne_nil errs nonempty), appendError, append,
      List.flatMap_append, parts_collected, List.flatMap_singleton, parts_eq, List.map_append]

/-! ### Texts -/

/-- `ListFormatFunc`. -/
def listFormat (errs : List String) : String :=
  match errs with
  | [e] => "1 error occurred:\n\t* " ++ e ++ "\n\n"
  | _ => toString errs.length ++ " errors occurred:\n\t" ++
      "\n\t".intercalate (errs.map fun e => "* " ++ e) ++ "\n\n"

mutual

/-- `Error()`, of plain errors that are their texts. -/
def error : GoError String → String
  | .plain e => e
  | .multi errors => listFormat (errorsOf errors)

def errorsOf : List (GoError String) → List String
  | [] => []
  | e :: errors => error e :: errorsOf errors

end

end GoError

end Multierror
