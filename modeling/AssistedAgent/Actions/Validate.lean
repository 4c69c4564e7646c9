/-
**What every action checks of its arguments.**

`ValidateCommon` counts the arguments and decodes the first into a model, which then validates itself.
The model is decoded through a variable of an interface type: the JSON text `null` sets the variable to
nil, and the call of its method panics.
-/

import AssistedAgent.Lib.GoRegexp
import AssistedAgent.Lib.Json

namespace AssistedAgent.Actions

open GoJson GoRegexp

/-- The fields of `config.AgentConfig` that the actions read. -/
structure AgentConfig where
  targetURL : String
  agentVersion : String
  insecureConnection : Bool
  caCertificatePath : String
deriving DecidableEq, Repr

/-- Why arguments are rejected: their number, an error of `encoding/json`, an error of the model's own
validation, or one of the checks that the action adds. -/
inductive Rejection
  | args (text : String)
  | json
  | model (err : String)
  | action (err : String)
deriving DecidableEq, Repr

inductive Validation (α : Type)
  | accepted (a : α)
  | rejected (why : Rejection)
  | panicked
deriving DecidableEq, Repr

def Validation.map {α β : Type} (f : α → β) : Validation α → Validation β
  | .accepted a => .accepted (f a)
  | .rejected why => .rejected why
  | .panicked => .panicked

@[simp] theorem Validation.map_panicked_iff {α β : Type} {f : α → β} {v : Validation α} :
    v.map f = .panicked ↔ v = .panicked := by
  cases v <;> simp [Validation.map]

theorem Validation.map_accepted {α β : Type} {f : α → β} {v : Validation α} {b : β}
    (accepted : v.map f = .accepted b) : ∃ a, v = .accepted a ∧ f a = b := by
  cases v with
  | accepted a => exact ⟨a, rfl, Validation.accepted.inj accepted⟩
  | rejected why => cases accepted
  | panicked => cases accepted

/-- A validation that goes on with what was accepted. -/
def Validation.bind {α β : Type} (v : Validation α) (next : α → Validation β) : Validation β :=
  match v with
  | .accepted a => next a
  | .rejected why => .rejected why
  | .panicked => .panicked

theorem Validation.bind_panicked {α β : Type} {v : Validation α} {next : α → Validation β}
    (panicked : v.bind next = .panicked) :
    v = .panicked ∨ ∃ a, v = .accepted a ∧ next a = .panicked := by
  cases v with
  | accepted a => exact .inr ⟨a, rfl, panicked⟩
  | rejected why => cases panicked
  | panicked => exact .inl rfl

theorem Validation.bind_panicked_iff {α β : Type} {v : Validation α} {next : α → Validation β}
    (returns : ∀ a, v = .accepted a → next a ≠ .panicked) : v.bind next = .panicked ↔ v = .panicked := by
  refine ⟨fun panicked => ?_, fun panicked => by rw [panicked]; rfl⟩
  rcases Validation.bind_panicked panicked with first | ⟨a, accepted, later⟩
  · exact first
  · exact absurd later (returns a accepted)

/-- A generated model, with its decoder for values other than null. -/
structure Model (α : Type) where
  unmarshal : Json → Option α
  validate : α → Option String

/-- A list of texts under the verb `%v`. -/
def formatArgs (args : List String) : String := "[" ++ " ".intercalate args ++ "]"

def checkCount (name : String) (expectedArgsLength : Nat) (args : List String) : Option Rejection :=
  if args.length ≠ expectedArgsLength then
    some (.args (name ++ " cmd accepts " ++ toString expectedArgsLength ++
      " params in args, given args " ++ formatArgs args))
  else none

/-- The part of `ValidateCommon` for a model. -/
def validateModel {α : Type} (model : Model α) (arg : String) : Validation α :=
  match parse arg with
  | none => .rejected .json
  | some .null => .panicked
  | some json =>
    match model.unmarshal json with
    | none => .rejected .json
    | some a =>
      match model.validate a with
      | some err => .rejected (.model err)
      | none => .accepted a

def validateCommon {α : Type} (name : String) (expectedArgsLength : Nat) (args : List String)
    (model : Model α) : Validation α :=
  match checkCount name expectedArgsLength args with
  | some why => .rejected why
  | none =>
    match args with
    | [] => .panicked
    | arg :: _ => validateModel model arg

/-- `ValidateCommon` without a model. -/
def validateCommonNil (name : String) (expectedArgsLength : Nat) (args : List String) :
    Validation Unit :=
  match checkCount name expectedArgsLength args with
  | some why => .rejected why
  | none => .accepted ()

theorem length_of_checkCount {name : String} {n : Nat} {args : List String}
    (counted : checkCount name n args = none) : args.length = n := by
  unfold checkCount at counted
  split at counted
  · cases counted
  · exact not_not.mp ‹_›

/-- **Arguments that are accepted have been counted and decoded.** -/
theorem validateCommon_accepted {α : Type} {name : String} {n : Nat} {args : List String}
    {model : Model α} {a : α} (accepted : validateCommon name n args model = .accepted a) :
    args.length = n ∧ ∃ arg rest json, args = arg :: rest ∧ parse arg = some json ∧
      model.unmarshal json = some a ∧ model.validate a = none := by
  unfold validateCommon at accepted
  split at accepted
  · cases accepted
  rename_i counted
  refine ⟨length_of_checkCount counted, ?_⟩
  cases args with
  | nil => cases accepted
  | cons arg rest =>
    change validateModel model arg = .accepted a at accepted
    unfold validateModel at accepted
    split at accepted
    · cases accepted
    · cases accepted
    rename_i json _ parsed
    split at accepted
    · cases accepted
    rename_i decoded unmarshalled
    split at accepted
    · cases accepted
    rename_i valid
    cases accepted
    exact ⟨arg, rest, json, rfl, parsed, unmarshalled, valid⟩

theorem checkCount_of_length {name : String} {n : Nat} {args : List String} (count : args.length = n) :
    checkCount name n args = none := if_neg (not_not.mpr count)

theorem validateModel_panicked_iff {α : Type} {model : Model α} {arg : String} :
    validateModel model arg = .panicked ↔ parse arg = some .null := by
  unfold validateModel
  split
  · rename_i invalid
    rw [invalid]
    exact ⟨nofun, nofun⟩
  · rename_i null
    exact ⟨fun _ => null, fun _ => rfl⟩
  · rename_i json filled parsed
    refine ⟨fun panicked => ?_, fun null => ?_⟩
    · split at panicked
      · cases panicked
      · split at panicked <;> cases panicked
    · rw [parsed] at null
      exact (filled (Option.some.inj null)).elim

/-- **The check of a model panics exactly for the right number of arguments, of which the first is
null.** -/
theorem validateCommon_panicked_iff {α : Type} {name : String} {n : Nat} {args : List String}
    {model : Model α} (filled : n ≠ 0) :
    validateCommon name n args model = .panicked ↔
      ∃ arg rest, args = arg :: rest ∧ args.length = n ∧ parse arg = some .null := by
  by_cases count : args.length = n
  · unfold validateCommon
    rw [checkCount_of_length count]
    cases args with
    | nil => exact absurd count.symm filled
    | cons arg rest =>
      refine validateModel_panicked_iff.trans ⟨fun null => ⟨arg, rest, rfl, count, null⟩, ?_⟩
      rintro ⟨arg', rest', is, -, null⟩
      rwa [(List.cons.inj is).1]
  · refine ⟨fun panicked => ?_, fun ⟨_, _, _, is, _⟩ => absurd is count⟩
    unfold validateCommon at panicked
    split at panicked
    · cases panicked
    · exact absurd (length_of_checkCount ‹_›) count

/-! ### The generated models -/

/-- The error of the generated models for one field that is missing. -/
def requiredError (field : String) : String :=
  "validation failure list:\n" ++ field ++ " in body is required"

/-- `errors.CompositeValidationError`, of the errors of the fields. -/
def compositeError (errs : List (Option String)) : Option String :=
  if errs.filterMap id = [] then none
  else some ("validation failure list:\n" ++ "\n".intercalate (errs.filterMap id))

theorem compositeError_eq_none_iff {errs : List (Option String)} :
    compositeError errs = none ↔ ∀ err ∈ errs, err = none := by
  unfold compositeError
  split
  · rename_i empty
    exact ⟨fun _ => List.filterMap_eq_nil_iff.mp empty, fun _ => rfl⟩
  · rename_i filled
    exact ⟨nofun, fun valid => absurd (List.filterMap_eq_nil_iff.mpr valid) filled⟩

/-- What the models check of a text: `strfmt.IsUUID`, `strfmt.IsMAC` and, for their messages,
`strconv.Quote`. -/
structure Formats where
  isUUID : String → Bool
  isMAC : String → Bool
  quote : String → String

/-- A required field that is checked further. -/
def validateRequired (field : String) (value : Option String) (check : String → Option String) :
    Option String :=
  match value with
  | none => some (field ++ " in body is required")
  | some text => check text

/-- `validate.FormatOf`, for the format `uuid`. -/
def validateUUID (f : Formats) (field text : String) : Option String :=
  if f.isUUID text then none else some (field ++ " in body must be of type uuid: " ++ f.quote text)

/-- `validate.Pattern`. -/
def validatePattern (pattern : String) (r : Regex) (field text : String) : Option String :=
  if matchString r text then none else some (field ++ " in body should match '" ++ pattern ++ "'")

/-- Of the checks of a list, with their indices, the first that fails. -/
def validateEach (check : String → String → Option String) (field : String) (texts : List String) :
    Option String :=
  (texts.zipIdx.filterMap fun entry => check (field ++ "." ++ toString entry.2) entry.1).head?

/-- `(([a-zA-Z0-9\-\.]+)(:[0-9]+)?\/)?[a-z0-9\._\-\/@]+[?::a-zA-Z0-9_\-.]+`. -/
def imageParts : List Regex :=
  [.opt (.group 1 (.all [
      .group 2 (.plus (.set fun c => c.isAlphanum || ['-', '.'].contains c)),
      .opt (.group 3 (.seq (.char ':') (.plus .digit))), .char '/'])),
    .plus (.set fun c => c.isLower || c.isDigit || ['.', '_', '-', '/', '@'].contains c),
    .plus (.set fun c => c.isAlphanum || ['?', ':', '_', '-', '.'].contains c)]

def imageRegex : Regex := .whole imageParts

def imagePattern : String :=
  "^(([a-zA-Z0-9\\-\\.]+)(:[0-9]+)?\\/)?[a-z0-9\\._\\-\\/@]+[?::a-zA-Z0-9_\\-.]+$"

def validateImage : String → String → Option String := validatePattern imagePattern imageRegex

/-- `[0-9a-fA-F]`. -/
def hexRegex : Regex := .set fun c => c.isDigit || ('a' ≤ c && c ≤ 'f') || ('A' ≤ c && c ≤ 'F')

/-- `(?:(?:[0-9]\x7b1,3\x7d\.)\x7b3\x7d[0-9]\x7b1,3\x7d)|(?:(?:[0-9a-fA-F]*:[0-9a-fA-F]*)\x7b2,\x7d)`. -/
def addressChoice : Regex :=
  let octet : Regex := .seq .digit (.upTo 2 .digit)
  let group : Regex := .all [.star hexRegex, .char ':', .star hexRegex]
  .alt (.all [octet, .char '.', octet, .char '.', octet, .char '.', octet])
    (.all [group, group, .star group])

def addressRegex : Regex := .whole [addressChoice]

def addressPattern : String :=
  "^(?:(?:(?:[0-9]\x7b1,3\x7d\\.)\x7b3\x7d[0-9]\x7b1,3\x7d)|(?:(?:[0-9a-fA-F]*:[0-9a-fA-F]*)\x7b2,\x7d))$"

def validateAddress : String → String → Option String := validatePattern addressPattern addressRegex

/-- `validate.FormatOf`, for the format `mac`. -/
def validateMAC (f : Formats) (field text : String) : Option String :=
  if f.isMAC text then none else some (field ++ " in body must be of type mac: " ++ f.quote text)

/-- `validate.EnumCase`, with regard to case. -/
def validateEnum (values : List String) (field text : String) : Option String :=
  if values.contains text then none
  else some (field ++ " in body should be one of " ++ formatArgs values)

/-- A check that the empty text passes. -/
def validateFilled (check : String → Option String) (text : String) : Option String :=
  if text = "" then none else check text

/-! ### Errors of models within models -/

/-- A line of an error's text: the heading of the errors that follow, or the message of one. -/
inductive ErrorLine
  | heading
  | message (text : String)
deriving DecidableEq, Repr

def ErrorLine.text : ErrorLine → String
  | .heading => "validation failure list:"
  | .message text => text

/-- The error of a model, by its lines. -/
abbrev ModelError := List ErrorLine

def ModelError.text (err : ModelError) : String := "\n".intercalate (err.map ErrorLine.text)

/-- `ValidateName`, of a composite error too. -/
def ModelError.validateName (name : String) (err : ModelError) : ModelError :=
  err.map fun
    | .heading => .heading
    | .message text => .message (name ++ "." ++ text)

/-- `errors.CompositeValidationError`, of errors that may be composite. -/
def compositeLines (errs : List (Option ModelError)) : Option ModelError :=
  if errs.filterMap id = [] then none else some (.heading :: (errs.filterMap id).flatten)

/-- The elements of a list, up to the first error; nil pointers are skipped. -/
def validatePointers {α : Type} (validate : α → Option ModelError) (nameOf : Nat → String)
    (pointers : List (Option α)) : Option ModelError :=
  (pointers.zipIdx.filterMap fun entry =>
    (entry.1.bind validate).map (ModelError.validateName (nameOf entry.2))).head?

end AssistedAgent.Actions
