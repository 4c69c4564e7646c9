/-
**The CPU, as lscpu describes it.**

`GetCPU` reads the fields that `lscpu -J` prints, each by its name without the colon at its end. It cuts
the last byte off a name without looking whether there is one, and does not expect a null among the
fields: in both cases it panics, `none`.

* **`readFields_eq_some_iff`** — the fields are all read, in order, if each has a name.
* `getCPU_ne_none_iff` — the outputs for which `GetCPU` returns.
-/

import AssistedAgent.Lib.JsonPointers
import AssistedAgent.Util.Interface

namespace AssistedAgent.Inventory

open GoJson GoStrings

/-! ### The output of lscpu -/

/-- `field`. -/
structure Field where
  field : String
  data : String
deriving DecidableEq, Repr

def decodeField : Json → Field → Option Field
  | .null, f => some f
  | .object members, f => do
    let field ← fieldAt "Field" decodeString f.field members
    let data ← fieldAt "Data" decodeString f.data members
    some ⟨field, data⟩
  | _, _ => none

/-- `lscpu`, by its fields. -/
def decodeLscpu : Json → DecodedSlice (Option Field) → Option (DecodedSlice (Option Field)) :=
  decodeStruct "Lscpu" (decodeSlice (decodePointer decodeField ⟨"", ""⟩) none)

def unmarshalLscpu (o : String) : Option (List (Option Field)) :=
  ((parse o).bind (decodeLscpu · .nil)).map (·.elems)

/-- `models.CPU`, with frequencies of any type. -/
structure CPU (F : Type) where
  architecture : String
  count : Int
  flags : List String
  frequency : F
  modelName : String
deriving DecidableEq, Repr

/-- The name of the field is this one, with one more byte. -/
def Field.isNamed (f : Field) (name : String) : Bool :=
  match f.field.toList.getLast? with
  | none => false
  | some last => last.utf8Size == 1 && f.field.toList.dropLast == name.toList

section Reading

-- `parseFloat` is the value that `strconv.ParseFloat` returns, also beside an error; `greater` compares.
variable {F : Type} (parseFloat : String → F) (greater : F → F → Bool) (zero : F)

def max (f1 f2 : F) : F := if greater f1 f2 then f1 else f2

/-- The body of the loop over the fields. -/
def readField (ret : CPU F) (f : Field) : CPU F :=
  if f.isNamed "Architecture" then { ret with architecture := f.data }
  else if f.isNamed "Model name" || f.isNamed "Machine type" then { ret with modelName := f.data }
  else if f.isNamed "CPU(s)" then { ret with count := (GoStrconv.parseInt64 f.data.toList).1 }
  else if f.isNamed "CPU MHz" || f.isNamed "CPU max MHz" || f.isNamed "CPU static MHz" then
    { ret with frequency := max greater ret.frequency (parseFloat f.data) }
  else if f.isNamed "Flags" then { ret with flags := split f.data ' ' }
  else ret

def readFields (ret : CPU F) : List (Option Field) → Option (CPU F)
  | [] => some ret
  | none :: _ => none
  | some f :: rest => if f.field = "" then none else readFields (readField parseFloat greater ret f) rest

def getCPU (d : Util.Dependencies) : Option (CPU F) :=
  match d.execute ["lscpu", "-J"] with
  | (o, _, exitCode) =>
    if exitCode ≠ 0 then some ⟨"", 0, [], zero, ""⟩
    else
      match unmarshalLscpu o with
      | none => some ⟨"", 0, [], zero, ""⟩
      | some l => readFields parseFloat greater ⟨"", 0, [], zero, ""⟩ l

/-! ### The outputs that are read -/

/-- A field with a name. -/
def IsNamed (entry : Option Field) : Prop := ∃ f, entry = some f ∧ f.field ≠ ""

variable {parseFloat greater zero}

/-- **The fields are read in order**, if each has a name. -/
theorem readFields_eq_some_iff {l : List (Option Field)} {ret result : CPU F} :
    readFields parseFloat greater ret l = some result ↔
      (∀ entry ∈ l, IsNamed entry) ∧
        result = (l.filterMap id).foldl (readField parseFloat greater) ret := by
  induction l generalizing ret with
  | nil =>
    rw [readFields, Option.some.injEq]
    exact ⟨fun same => ⟨nofun, same.symm⟩, fun both => both.2.symm⟩
  | cons entry rest ih =>
    rw [List.forall_mem_cons]
    cases entry with
    | none =>
      refine ⟨nofun, ?_⟩
      rintro ⟨⟨⟨f, is, -⟩, -⟩, -⟩
      cases is
    | some f =>
      by_cases empty : f.field = ""
      · rw [readFields, if_pos empty]
        refine ⟨nofun, ?_⟩
        rintro ⟨⟨⟨f', is, named⟩, -⟩, -⟩
        cases is
        exact absurd empty named
      · rw [readFields, if_neg empty, ih]
        have named : IsNamed (some f) := ⟨f, rfl, empty⟩
        simp only [named, true_and]
        rfl

theorem readFields_ne_none_iff {l : List (Option Field)} {ret : CPU F} :
    readFields parseFloat greater ret l ≠ none ↔ ∀ entry ∈ l, IsNamed entry := by
  rw [Option.ne_none_iff_exists']
  simp only [readFields_eq_some_iff, exists_and_left, exists_eq, and_true]

/-- **The outputs of lscpu for which `GetCPU` returns.** -/
theorem getCPU_ne_none_iff {d : Util.Dependencies} {o e : String} {exitCode : Int}
    (ran : d.execute ["lscpu", "-J"] = (o, e, exitCode)) :
    getCPU parseFloat greater zero d ≠ none ↔
      (exitCode = 0 → ∀ l, unmarshalLscpu o = some l → ∀ entry ∈ l, IsNamed entry) := by
  unfold getCPU
  rw [ran]
  dsimp only
  by_cases failed : exitCode = 0
  · rw [if_neg (not_not.mpr failed)]
    cases decoded : unmarshalLscpu o with
    | none => exact iff_of_true nofun nofun
    | some l =>
      simp only [failed, forall_const, Option.some.injEq, forall_eq', readFields_ne_none_iff]
  · rw [if_pos failed]
    exact iff_of_true nofun fun zero => absurd zero failed

end Reading

end AssistedAgent.Inventory
