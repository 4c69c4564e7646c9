/-
**Pointers, slices, integers and structures of one field, as `json.Unmarshal` fills them.**

A value is decoded in the place of one that is there: a pointer that is not nil keeps what it points to,
and a slice the elements of its array, also those beyond its length. null makes a pointer or a slice nil.

* `Keeps` — decoders that keep a property of the value, such as the range of an integer.
* `fieldAt_last` — a field holds what the last member of its name was decoded to.
* **`none_mem_decodeSlice_iff`** — the nil pointers of a decoded slice are the nulls of the document.
-/

import AssistedAgent.Lib.GoStrconv
import AssistedAgent.Lib.Json

namespace GoJson

variable {α : Type}

/-- A pointer to a value; a new one points to `zero`. -/
def decodePointer (decode : Json → α → Option α) (zero : α) : Json → Option α → Option (Option α)
  | .null, _ => some none
  | json, pointer => (decode json (pointer.getD zero)).map some

/-- The elements of a slice, and those that its array has beyond them. -/
structure DecodedSlice (α : Type) where
  elems : List α
  beyond : List α
deriving DecidableEq, Repr

def DecodedSlice.nil : DecodedSlice α := ⟨[], []⟩

/-- The items of an array, each in the place of the element that is there. -/
def decodeItems (decode : Json → α → Option α) (zero : α) : List Json → List α → Option (DecodedSlice α)
  | [], array => some ⟨[], array⟩
  | item :: items, array => do
    let elem ← decode item (array.headD zero)
    let rest ← decodeItems decode zero items array.tail
    some ⟨elem :: rest.elems, rest.beyond⟩

def decodeSlice (decode : Json → α → Option α) (zero : α) :
    Json → DecodedSlice α → Option (DecodedSlice α)
  | .null, _ => some .nil
  | .array [], _ => some .nil
  | .array items, slice => decodeItems decode zero items (slice.elems ++ slice.beyond)
  | _, _ => none

/-- An `int64`, which null leaves as it is. -/
def decodeInt64 : Json → Int → Option Int
  | .null, n => some n
  | .number text, _ =>
    match GoStrconv.parseInt64 text with
    | (n, none) => some n
    | (_, some _) => none
  | _, _ => none

/-- A structure of one field, as this field. -/
def decodeStruct (name : String) (decode : Json → α → Option α) : Json → α → Option α
  | .null, a => some a
  | .object members, a => fieldAt name decode a members
  | _, _ => none

/-! ### What every decoded value keeps -/

/-- A decoder that keeps a property of the value in whose place it decodes. -/
def Keeps (P : α → Prop) (decode : Json → α → Option α) : Prop :=
  ∀ json a a', P a → decode json a = some a' → P a'

theorem keeps_decodeInt64 : Keeps (fun n : Int => n < 2 ^ 63) decodeInt64 := by
  intro json n n' small decoded
  cases json with
  | null =>
    cases decoded
    exact small
  | number text =>
    rw [decodeInt64] at decoded
    split at decoded
    · rename_i m parsed
      cases decoded
      exact GoStrconv.parseInt64_lt parsed
    · cases decoded
  | bool b => cases decoded
  | string s => cases decoded
  | array items => cases decoded
  | object members => cases decoded

theorem Keeps.fieldAt {P : α → Prop} {decode : Json → α → Option α} (keeps : Keeps P decode)
    {name : String} {members : List (String × Json)} {a a' : α} (start : P a)
    (decoded : GoJson.fieldAt name decode a members = some a') : P a' := by
  induction members generalizing a with
  | nil =>
    cases decoded
    exact start
  | cons member members ih =>
    obtain ⟨key, item⟩ := member
    rw [GoJson.fieldAt] at decoded
    split at decoded
    · obtain ⟨b, here, later⟩ := Option.bind_eq_some_iff.mp decoded
      exact ih (keeps item a b start here) later
    · exact ih start decoded

theorem Keeps.decodeStruct {P : α → Prop} {decode : Json → α → Option α} (keeps : Keeps P decode)
    (name : String) : Keeps P (decodeStruct name decode) := by
  intro json a a' start decoded
  cases json with
  | null =>
    cases decoded
    exact start
  | object members => exact keeps.fieldAt start decoded
  | number text => cases decoded
  | bool b => cases decoded
  | string s => cases decoded
  | array items => cases decoded

theorem Keeps.decodeItems {P : α → Prop} {decode : Json → α → Option α} (keeps : Keeps P decode)
    {zero : α} (start : P zero) {items : List Json} {array : List α} (before : ∀ a ∈ array, P a)
    {slice : DecodedSlice α} (decoded : decodeItems decode zero items array = some slice) :
    ∀ a ∈ slice.elems ++ slice.beyond, P a := by
  induction items generalizing array slice with
  | nil =>
    cases decoded
    exact before
  | cons item items ih =>
    obtain ⟨elem, here, rest⟩ := Option.bind_eq_some_iff.mp decoded
    obtain ⟨later, others, is⟩ := Option.bind_eq_some_iff.mp rest
    cases is
    have first : P elem := by
      refine keeps item (array.headD zero) elem ?_ here
      cases array with
      | nil => exact start
      | cons a array => exact before a List.mem_cons_self
    intro a member
    rw [List.cons_append] at member
    rcases List.mem_cons.mp member with rfl | member
    · exact first
    · exact ih (fun a member => before a (List.mem_of_mem_tail member)) others a member

theorem Keeps.decodeSlice {P : α → Prop} {decode : Json → α → Option α} (keeps : Keeps P decode)
    {zero : α} (start : P zero) :
    Keeps (fun slice : DecodedSlice α => ∀ a ∈ slice.elems ++ slice.beyond, P a)
      (decodeSlice decode zero) := by
  intro json slice slice' before decoded
  cases json with
  | null =>
    cases decoded
    exact nofun
  | array items =>
    cases items with
    | nil =>
      cases decoded
      exact nofun
    | cons item items => exact keeps.decodeItems start before decoded
  | object members => cases decoded
  | number text => cases decoded
  | bool b => cases decoded
  | string s => cases decoded

/-! ### The last member of a name -/

def lastMember (name : String) (members : List (String × Json)) : Option Json :=
  ((members.filter fun member => foldName member.1 = foldName name).getLast?).map (·.2)

/-- **A field is decoded from the last member of its name.** -/
theorem fieldAt_last {name : String} {decode : Json → α → Option α} {init a : α}
    {members : List (String × Json)} (decoded : fieldAt name decode init members = some a) :
    (lastMember name members = none ∧ a = init) ∨
      ∃ item before, lastMember name members = some item ∧ decode item before = some a := by
  induction members generalizing init with
  | nil =>
    cases decoded
    exact .inl ⟨rfl, rfl⟩
  | cons member rest ih =>
    obtain ⟨key, item⟩ := member
    unfold fieldAt at decoded
    split at decoded
    · rename_i same
      obtain ⟨first, is, later⟩ := Option.bind_eq_some_iff.mp decoded
      have keeps : lastMember name ((key, item) :: rest) = some ((lastMember name rest).getD item) := by
        rw [lastMember, List.filter_cons_of_pos (by simpa using same), List.getLast?_cons, lastMember]
        cases (rest.filter fun member => foldName member.1 = foldName name).getLast? <;> rfl
      rcases ih later with ⟨last, rfl⟩ | ⟨item', before, last, decoded'⟩
      · refine .inr ⟨item, init, ?_, is⟩
        rw [keeps, last, Option.getD_none]
      · refine .inr ⟨item', before, ?_, decoded'⟩
        rw [keeps, last, Option.getD_some]
    · rename_i other
      have skips : lastMember name ((key, item) :: rest) = lastMember name rest := by
        rw [lastMember, List.filter_cons_of_neg (by simpa using other), lastMember]
      rw [skips]
      exact ih decoded

/-! ### Nil pointers -/

theorem decodePointer_none_iff {decode : Json → α → Option α} {zero : α} {json : Json}
    {pointer result : Option α} (decoded : decodePointer decode zero json pointer = some result) :
    result = none ↔ json = .null := by
  unfold decodePointer at decoded
  split at decoded
  · cases decoded
    exact ⟨fun _ => rfl, fun _ => rfl⟩
  · rename_i other
    obtain ⟨a, -, rfl⟩ := Option.map_eq_some_iff.mp decoded
    exact ⟨nofun, fun null => (other null).elim⟩

theorem decode_of_decodePointer {decode : Json → α → Option α} {zero a : α} {json : Json}
    {pointer : Option α} (decoded : decodePointer decode zero json pointer = some (some a)) :
    decode json (pointer.getD zero) = some a := by
  unfold decodePointer at decoded
  split at decoded
  · cases decoded
  · obtain ⟨a', is, same⟩ := Option.map_eq_some_iff.mp decoded
    rwa [← Option.some.inj same]

theorem none_mem_decodeItems_iff {decode : Json → α → Option α} {zero : α} {items : List Json}
    {array : List (Option α)} {slice : DecodedSlice (Option α)}
    (decoded : decodeItems (decodePointer decode zero) none items array = some slice) :
    none ∈ slice.elems ↔ .null ∈ items := by
  induction items generalizing array slice with
  | nil =>
    cases decoded
    exact ⟨nofun, nofun⟩
  | cons item items ih =>
    obtain ⟨elem, first, later⟩ := Option.bind_eq_some_iff.mp decoded
    obtain ⟨rest, others, is⟩ := Option.bind_eq_some_iff.mp later
    cases is
    rw [List.mem_cons, List.mem_cons, ih others, eq_comm, decodePointer_none_iff first, eq_comm]

/-- **The nil pointers are the nulls of the array.** -/
theorem none_mem_decodeSlice_iff {decode : Json → α → Option α} {zero : α} {json : Json}
    {before slice : DecodedSlice (Option α)}
    (decoded : decodeSlice (decodePointer decode zero) none json before = some slice) :
    none ∈ slice.elems ↔ ∃ items, json = .array items ∧ .null ∈ items := by
  unfold decodeSlice at decoded
  split at decoded
  · cases decoded
    exact ⟨nofun, nofun⟩
  · cases decoded
    constructor
    · exact nofun
    · rintro ⟨items, is, member⟩
      cases is
      cases member
  · rw [none_mem_decodeItems_iff decoded]
    constructor
    · exact fun member => ⟨_, rfl, member⟩
    · rintro ⟨items', is, member⟩
      cases is
      exact member
  · cases decoded

end GoJson
