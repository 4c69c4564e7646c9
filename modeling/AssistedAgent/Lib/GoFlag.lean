/-
**Command lines as the package `flag` reads them.**

A command line is read from the left: words that begin with one or two dashes set flags, up to the first
word that does not. A flag that is not boolean takes its value from behind an equals sign, or else from
the next word, whatever that is.

* `parse` — the flags that a command line sets, in order, and the words after them.
* `Writes` — words that set given flags.
* **`parse_writes`** — they are read as those flags.
* `stringVar`, `boolVar` — the value of a flag's variable: what the flag was last set to, or its default.
-/

import Mathlib.Data.List.Basic

namespace GoFlag

/-! ### Reading a command line -/

/-- A flag of a `FlagSet`: whether it is boolean, and which texts its `Set` takes. -/
structure Flag where
  isBool : Bool
  accepts : String → Bool

/-- `f.formal`. -/
abbrev FlagSet := String → Option Flag

structure Setting where
  name : String
  value : String
deriving DecidableEq, Repr

/-- Why `Parse` ends the program. -/
inductive ParseError
  | badSyntax (word : String)
  | help
  | undefined (name : String)
  | needsArgument (name : String)
  | invalid (name value : String)
deriving DecidableEq, Repr

/-- What a word is to `parseOne`. -/
inductive Word
  | plain
  /-- `--`. -/
  | terminator
  | bad
  | flag (name : String) (value : Option String)
deriving DecidableEq, Repr

/-- A name, with the value that follows the first equals sign. -/
def nameAndValue (text : List Char) : Word :=
  match text with
  | [] => .bad
  | '-' :: _ => .bad
  | '=' :: _ => .bad
  | _ =>
    let name := String.ofList (text.takeWhile (· ≠ '='))
    match text.dropWhile (· ≠ '=') with
    | [] => .flag name none
    | _ :: value => .flag name (some (String.ofList value))

def classify (word : String) : Word :=
  match word.toList with
  | ['-', '-'] => .terminator
  | '-' :: '-' :: text => nameAndValue text
  | '-' :: c :: text => nameAndValue (c :: text)
  | _ => .plain

/-- The flags that were set, and `f.args`. -/
abbrev Parsed := List Setting × List String

def Parsed.set (setting : Setting) (parsed : Parsed) : Parsed := (setting :: parsed.1, parsed.2)

/-- A flag is set before the rest is read. -/
def setting (flag : Flag) (name value : String) (rest : Except ParseError Parsed) :
    Except ParseError Parsed :=
  if flag.accepts value then rest.map (Parsed.set ⟨name, value⟩) else .error (.invalid name value)

def undefinedError (name : String) : ParseError :=
  if name = "help" ∨ name = "h" then .help else .undefined name

def parse (formal : FlagSet) : List String → Except ParseError Parsed
  | [] => .ok ([], [])
  | word :: args =>
    match classify word with
    | .plain => .ok ([], word :: args)
    | .terminator => .ok ([], args)
    | .bad => .error (.badSyntax word)
    | .flag name value =>
      match formal name with
      | none => .error (undefinedError name)
      | some flag =>
        if flag.isBool then setting flag name (value.getD "true") (parse formal args)
        else
          match value with
          | some value => setting flag name value (parse formal args)
          | none =>
            match args with
            | [] => .error (.needsArgument name)
            | value :: args => setting flag name value (parse formal args)

/-! ### Writing one -/

variable {formal : FlagSet}

/-- Words that set flags. -/
inductive Writes (formal : FlagSet) : List Setting → List String → Prop
  | nil : Writes formal [] []
  /-- A flag and, as a word of its own, its value. -/
  | separate {word name value : String} {flag : Flag} {settings : List Setting} {words : List String}
      (read : classify word = .flag name none) (defined : formal name = some flag)
      (notBool : flag.isBool = false) (accepted : flag.accepts value = true)
      (rest : Writes formal settings words) :
      Writes formal (⟨name, value⟩ :: settings) (word :: value :: words)
  /-- A flag and its value in one word. -/
  | joined {word name value : String} {flag : Flag} {settings : List Setting} {words : List String}
      (read : classify word = .flag name (some value)) (defined : formal name = some flag)
      (accepted : flag.accepts value = true) (rest : Writes formal settings words) :
      Writes formal (⟨name, value⟩ :: settings) (word :: words)

theorem Writes.append {settings more : List Setting} {words others : List String}
    (first : Writes formal settings words) (second : Writes formal more others) :
    Writes formal (settings ++ more) (words ++ others) := by
  induction first with
  | nil => exact second
  | separate read defined notBool accepted _ ih => exact .separate read defined notBool accepted ih
  | joined read defined accepted _ ih => exact .joined read defined accepted ih

theorem setting_ok {flag : Flag} {value : String} (accepted : flag.accepts value = true) (name : String)
    (parsed : Parsed) : setting flag name value (.ok parsed) = .ok (parsed.set ⟨name, value⟩) :=
  if_pos accepted

/-- **What is written is read.** -/
theorem parse_writes {settings : List Setting} {words : List String} (writes : Writes formal settings words) :
    parse formal words = .ok (settings, []) := by
  induction writes with
  | nil => rfl
  | separate read defined notBool accepted _ ih =>
    simp only [parse, read, defined, notBool, Bool.false_eq_true, if_false, ih, setting_ok accepted]
    rfl
  | @joined word name value flag _ _ read defined accepted _ ih =>
    cases kind : flag.isBool <;>
      simp only [parse, read, defined, kind, Bool.false_eq_true, if_false, if_true, Option.getD_some, ih,
        setting_ok accepted] <;> rfl

/-- The word of a flag with its value, for a name without an equals sign. -/
theorem classify_joined {name : List Char} (plain : ∀ c ∈ name, c ≠ '=') {c : Char}
    (begun : name.head? = some c) (notDash : c ≠ '-') (value : String) :
    classify (String.ofList ('-' :: name ++ '=' :: value.toList)) =
      .flag (String.ofList name) (some value) := by
  obtain ⟨text, rfl⟩ : ∃ text, name = c :: text := List.head?_eq_some_iff.mp begun
  have notEquals : c ≠ '=' := plain c List.mem_cons_self
  have front : (c :: text ++ '=' :: value.toList).takeWhile (· ≠ '=') = c :: text := by
    rw [List.takeWhile_append_of_pos (by simpa using plain)]
    simp
  have back : (c :: text ++ '=' :: value.toList).dropWhile (· ≠ '=') = '=' :: value.toList := by
    rw [List.dropWhile_append_of_pos (by simpa using plain)]
    simp
  have named : nameAndValue (c :: text ++ '=' :: value.toList) =
      .flag (String.ofList (c :: text)) (some value) := by
    unfold nameAndValue
    rw [front, back]
    split
    · contradiction
    · rename_i dash
      exact absurd (List.cons.inj dash).1 notDash
    · rename_i equals
      exact absurd (List.cons.inj equals).1 notEquals
    · dsimp only
      rw [String.ofList_toList]
  unfold classify
  rw [String.toList_ofList, List.cons_append, List.cons_append]
  split
  · rename_i dashes
    exact absurd (List.cons.inj (List.cons.inj dashes).2).1 notDash
  · rename_i dashes
    exact absurd (List.cons.inj (List.cons.inj dashes).2).1 notDash
  · rename_i word
    obtain ⟨rfl, rfl⟩ := List.cons.inj (List.cons.inj word).2
    exact named
  · rename_i plainWord
    exact absurd rfl (plainWord c _)

/-! ### Variables -/

/-- What a flag was last set to. -/
def lastSet (settings : List Setting) (name : String) : Option String :=
  ((settings.filter (·.name = name)).getLast?).map Setting.value

def stringVar (settings : List Setting) (name default : String) : String :=
  (lastSet settings name).getD default

/-- `strconv.ParseBool`. -/
def parseBool (text : String) : Option Bool :=
  if ["1", "t", "T", "true", "TRUE", "True"].contains text then some true
  else if ["0", "f", "F", "false", "FALSE", "False"].contains text then some false
  else none

def boolVar (settings : List Setting) (name : String) (default : Bool) : Bool :=
  ((lastSet settings name).bind parseBool).getD default

def stringFlag : Flag := ⟨false, fun _ => true⟩

def boolFlag : Flag := ⟨true, fun text => (parseBool text).isSome⟩

end GoFlag
