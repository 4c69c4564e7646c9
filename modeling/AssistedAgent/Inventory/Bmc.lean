/-
**The IPv6 address of the BMC.**

`getV6Address` returns the first address of a decoded YAML map that is active, enabled and not null, in
the order in which Go iterates over the map (`Iteration`). A channel whose address is missing or cannot
be parsed is passed over. An `Address` that is not a text ends the process: `none`.

* **`mem_choices_iff`** — the addresses of one table that some order of the map returns.
* **`exists_iteration`** — every combination of choices, one for each channel, is that of some order.
* **`sameAddress_iff`** — the address does not depend on the orders exactly when all usable addresses
  of the channels that can be reached are one and the same.
-/

import AssistedAgent.Inventory.Memory
import AssistedAgent.Lib.GoNet
import Mathlib.Data.List.Perm.Basic
import Mathlib.Data.Set.Basic

namespace AssistedAgent.Inventory

open GoNet GoRegexp GoStrings Util

/-! ### The first choice that decides -/

section Choices

variable {ι β : Type}

/-- Going through a list, where each place passes over or decides, as one of its choices says: the
result does not depend on the choices if all decisions that can be reached are one and the same, which
is the default if every place may be passed over. -/
theorem findSome?_agree_iff [DecidableEq ι] {l : List ι} (distinct : l.Nodup) {V : ι → Set (Option β)}
    (nonempty : ∀ i, (V i).Nonempty) (default : β) :
    (∀ f g : ι → Option β, (∀ i, f i ∈ V i) → (∀ i, g i ∈ V i) →
        (l.findSome? f).getD default = (l.findSome? g).getD default) ↔
      ∃ result, (∀ before i after, l = before ++ i :: after → (∀ j ∈ before, none ∈ V j) →
          ∀ decision, some decision ∈ V i → decision = result) ∧
        ((∀ i ∈ l, none ∈ V i) → result = default) := by
  choose any inside using nonempty
  constructor
  · intro same
    refine ⟨(l.findSome? any).getD default, ?_, ?_⟩
    · rintro before i after rfl passed decision member
      -- Pass over everything before `i`, and decide there.
      have fresh : i ∉ before := fun twice =>
        (List.nodup_append.mp distinct).2.2 i twice i List.mem_cons_self rfl
      let f (j : ι) : Option β := if j = i then some decision else if j ∈ before then none else any j
      have within : ∀ j, f j ∈ V j := by
        intro j
        by_cases here : j = i
        · simpa [f, here] using member
        · by_cases earlier : j ∈ before
          · simpa [f, here, earlier] using passed j earlier
          · simpa [f, here, earlier] using inside j
      have decided : (before ++ i :: after).findSome? f = some decision := by
        have none_ : before.findSome? f = none := by
          refine List.findSome?_eq_none_iff.mpr fun j earlier => ?_
          have other : j ≠ i := fun eq => fresh (eq ▸ earlier)
          simp [f, other, earlier]
        rw [List.findSome?_append, none_, List.findSome?_cons]
        simp [f]
      rw [← same f any within inside, decided, Option.getD_some]
    · intro passed
      let f (j : ι) : Option β := if j ∈ l then none else any j
      have within : ∀ j, f j ∈ V j := by
        intro j
        by_cases member : j ∈ l
        · simpa [f, member] using passed j member
        · simpa [f, member] using inside j
      have undecided : l.findSome? f = none :=
        List.findSome?_eq_none_iff.mpr fun j member => by simp [f, member]
      rw [← same f any within inside, undecided, Option.getD_none]
  · rintro ⟨result, usable, exhausted⟩
    have each (f : ι → Option β) (within : ∀ i, f i ∈ V i) : (l.findSome? f).getD default = result := by
      cases found : l.findSome? f with
      | none =>
        have passed := List.findSome?_eq_none_iff.mp found
        exact (exhausted fun i member => passed i member ▸ within i).symm
      | some decision =>
        obtain ⟨before, i, after, split, decides, passed⟩ := List.findSome?_eq_some_iff.mp found
        exact usable before i after split (fun j earlier => passed j earlier ▸ within j) decision
          (decides ▸ within i)
    intro f g insideF insideG
    rw [each f insideF, each g insideG]

end Choices

/-! ### The decoded tables -/

/-- A value of a decoded YAML document that is compared with `false` and with texts only. -/
inductive Scalar
  | bool (value : Bool)
  | text (value : String)
  | other (source : String)
deriving DecidableEq, Repr

/-- A value of the map of `getV6Address`: itself a map, or not. -/
inductive Entry
  | fields (fields : List (Scalar × Scalar))
  | other (value : Scalar)
deriving DecidableEq, Repr

inductive AddressType
  | dynamic
  | static
deriving DecidableEq, Repr

/-- A value for each type. -/
def AddressType.pick {α : Type} (dynamic static : α) : AddressType → α
  | .dynamic => dynamic
  | .static => static

def AddressType.text : AddressType → String
  | .dynamic => "dynamic"
  | .static => "static"

def getIsEnabled (value : Scalar) : Bool := value != .bool false && value != .text ""

/-- `^::(/\d{1,3})*$`. -/
def nullAddressRE : Regex :=
  .whole [.lit "::", .star (.all [.char '/', .digit, .upTo 2 .digit])]

/-- `^IPv6/IPv4 Addressing Enables: (both|ipv6)[ \t]*$`. -/
def addrModeRegex : Regex :=
  .whole [.lit "IPv6/IPv4 Addressing Enables: ", .group 1 (.alt (.lit "both") (.lit "ipv6")),
    .star blankOrTab]

/-- What one turn of the loop over the map does. -/
inductive Turn
  | next
  | found (address : String)
  | panic
deriving DecidableEq, Repr

def consider (addressType : AddressType) (addressMap : List (Scalar × Scalar)) : Turn :=
  match addressMap.lookup (.text "Address") with
  | none => .next
  | some (.text address) =>
    let enabled : Option Bool :=
      match addressType with
      | .dynamic => (addressMap.lookup (.text "Source/Type")).map fun st =>
          st == .text "DHCPv6" || st == .text "SLAAC"
      | .static => some (((addressMap.lookup (.text "Enabled")).map getIsEnabled).getD false)
    match enabled with
    | none => .next
    | some enabled =>
      if addressMap.lookup (.text "Status") = some (.text "active") ∧ enabled = true ∧
          matchString nullAddressRE address = false then .found address
      else .next
  | some _ => .panic

def firstAddress (addressType : AddressType) : List Entry → Option String
  | [] => some ""
  | .other _ :: rest => firstAddress addressType rest
  | .fields addressMap :: rest =>
    match consider addressType addressMap with
    | .next => firstAddress addressType rest
    | .found address => some address
    | .panic => none

/-- The order in which each map is read. -/
structure Iteration where
  order : Nat → AddressType → List Entry → List Entry
  perm : ∀ ch addressType m, (order ch addressType m).Perm m

section Address

-- `unmarshal` is `yaml.Unmarshal` into a map.
variable (d : Util.Dependencies) (unmarshal : String → Option (List Entry)) (it : Iteration)

def getV6Address (ch : Nat) (addressType : AddressType) : Option String :=
  match d.execute ["ipmitool", "lan6", "print", toString ch, addressType.text ++ "_addr"] with
  | (o, _, exitCode) =>
    if exitCode ≠ 0 then some ""
    else
      match unmarshal o with
      | none => some ""
      | some m => firstAddress addressType (it.order ch addressType m)

def getAddrMode (ch : Nat) : String :=
  match d.execute ["ipmitool", "lan6", "print", toString ch, "enables"] with
  | (o, _, exitCode) =>
    if exitCode ≠ 0 then ""
    else
      ((split o '\n').findSome? fun line =>
        match findStringSubmatch addrModeRegex 1 line with
        | [_, mode] => some mode
        | _ => none).getD ""

def maxIpmiChannel : Nat := 12

def channels : List Nat := (List.range maxIpmiChannel).map (· + 1)

/-- The loop over the channels. -/
def channelLoop : List Nat → Option String
  | [] => some "::/0"
  | ch :: rest =>
    if getAddrMode d ch = "" then channelLoop rest
    else
      match getV6Address d unmarshal it ch .dynamic with
      | none => none
      | some dynamic =>
        match if dynamic = "" then getV6Address d unmarshal it ch .static else some dynamic with
        | none => none
        | some address =>
          if address = "" then channelLoop rest
          else
            match parseCIDR address with
            | .error _ => channelLoop rest
            | .ok (ip, _) => some (ipString ip)

def getBmcV6Address (dryRunEnabled : Bool) : Option String :=
  if dryRunEnabled then some "::/0" else channelLoop d unmarshal it channels

end Address

/-! ### What one table can give -/

/-- The address of an entry that is returned if the loop comes to it. -/
def qualifying (addressType : AddressType) : Entry → Option String
  | .other _ => none
  | .fields addressMap =>
    match consider addressType addressMap with
    | .next => none
    | .found address => some address
    | .panic => none

/-- Every `Address` is a text. -/
def TextAddresses (entries : List Entry) : Prop :=
  ∀ addressMap, .fields addressMap ∈ entries → ∀ value,
    addressMap.lookup (.text "Address") = some value →
    ∃ address, value = .text address

/-- The address that a table gives in an order of its entries. -/
def firstQualifying (addressType : AddressType) (entries : List Entry) : String :=
  (entries.filterMap (qualifying addressType)).headD ""

/-- The addresses that a table can give. -/
def choices (addressType : AddressType) (entries : List Entry) : List String :=
  match entries.filterMap (qualifying addressType) with
  | [] => [""]
  | addresses => addresses

theorem consider_ne_panic {addressType : AddressType} {addressMap : List (Scalar × Scalar)}
    (texts : ∀ value, addressMap.lookup (.text "Address") = some value → ∃ address,
      value = .text address) :
    consider addressType addressMap ≠ .panic := by
  unfold consider
  split
  · nofun
  · dsimp only
    split
    · nofun
    · split
      · nofun
      · nofun
  · rename_i value other is
    obtain ⟨address, rfl⟩ := texts value is
    exact absurd rfl (other address)

theorem firstAddress_eq {addressType : AddressType} {entries : List Entry}
    (texts : TextAddresses entries) :
    firstAddress addressType entries = some (firstQualifying addressType entries) := by
  unfold firstQualifying
  induction entries with
  | nil => rfl
  | cons entry rest ih =>
    have later : TextAddresses rest := fun m member => texts m (List.mem_cons_of_mem _ member)
    cases entry with
    | other value => exact ih later
    | fields addressMap =>
      unfold firstAddress
      cases turn : consider addressType addressMap with
      | next =>
        rw [List.filterMap_cons_none (by rw [qualifying, turn])]
        exact ih later
      | found address =>
        rw [List.filterMap_cons_some (by rw [qualifying, turn])]
        rfl
      | panic => exact absurd turn (consider_ne_panic (texts addressMap List.mem_cons_self))

/-- **The addresses that some order of a table gives.** -/
theorem mem_choices_iff {addressType : AddressType} {entries : List Entry} {address : String} :
    address ∈ choices addressType entries ↔
      ∃ l : List Entry, l.Perm entries ∧ firstQualifying addressType l = address := by
  unfold choices firstQualifying
  constructor
  · intro member
    split at member
    · rename_i none
      refine ⟨entries, .refl entries, ?_⟩
      rw [none, List.mem_singleton.mp member]
      rfl
    · -- Put the entry of the address in front.
      obtain ⟨entry, inside, is⟩ := List.mem_filterMap.mp member
      refine ⟨entry :: entries.erase entry, (List.perm_cons_erase inside).symm, ?_⟩
      rw [List.filterMap_cons_some is]
      rfl
  · rintro ⟨l, perm, rfl⟩
    have same := perm.filterMap (qualifying addressType)
    split
    · rename_i none
      rw [none] at same
      rw [same.eq_nil]
      exact List.mem_singleton_self _
    · rename_i addresses some_
      cases first : l.filterMap (qualifying addressType) with
      | nil =>
        rw [first] at same
        exact absurd same.nil_eq.symm (some_ ·)
      | cons address rest =>
        rw [first] at same
        exact same.mem_iff.mp List.mem_cons_self

/-! ### What the channels can give -/

section Channels

variable (d : Util.Dependencies) (unmarshal : String → Option (List Entry)) (it : Iteration)

/-- The entries of a channel's table; a table that is not printed, or not YAML, has none. -/
def table (ch : Nat) (addressType : AddressType) : List Entry :=
  match d.execute ["ipmitool", "lan6", "print", toString ch, addressType.text ++ "_addr"] with
  | (o, _, exitCode) => if exitCode ≠ 0 then [] else (unmarshal o).getD []

/-- The static address stands in for a dynamic one that is missing. -/
def preferred (dynamic static : String) : String := if dynamic = "" then static else dynamic

/-- What an address comes to: `none` passes over the channel. -/
def verdict (address : String) : Option String :=
  if address = "" then none
  else
    match parseCIDR address with
    | .error _ => none
    | .ok (ip, _) => some (ipString ip)

/-- What a channel comes to in an order of its tables. -/
def channelVerdict (ch : Nat) : Option String :=
  if getAddrMode d ch = "" then none
  else
    let given (addressType : AddressType) : String :=
      firstQualifying addressType (it.order ch addressType (table d unmarshal ch addressType))
    verdict (preferred (given .dynamic) (given .static))

/-- What a channel can come to: a dynamic address, or where that may be missing, a static one. -/
def verdicts (ch : Nat) : List (Option String) :=
  if getAddrMode d ch = "" then [none]
  else
    ((choices .dynamic (table d unmarshal ch .dynamic)).flatMap fun dynamic =>
      if dynamic = "" then choices .static (table d unmarshal ch .static) else [dynamic]).map verdict

variable {d unmarshal it}

theorem getV6Address_eq {ch : Nat} {addressType : AddressType}
    (texts : TextAddresses (table d unmarshal ch addressType)) :
    getV6Address d unmarshal it ch addressType =
      some (firstQualifying addressType
        (it.order ch addressType (table d unmarshal ch addressType))) := by
  have empty : it.order ch addressType [] = [] := (it.perm ch addressType []).eq_nil
  revert texts
  unfold getV6Address table
  obtain ⟨o, e, exitCode⟩ := d.execute ["ipmitool", "lan6", "print", toString ch,
    addressType.text ++ "_addr"]
  dsimp only
  intro texts
  by_cases failed : exitCode ≠ 0
  · rw [if_pos failed, if_pos failed, empty]
    rfl
  · rw [if_neg failed] at texts ⊢
    rw [if_neg failed]
    cases decoded : unmarshal o with
    | none =>
      rw [Option.getD_none, empty]
      rfl
    | some m =>
      rw [decoded, Option.getD_some] at texts
      refine firstAddress_eq fun addressMap member => texts addressMap ?_
      exact (it.perm ch addressType m).mem_iff.mp member

/-- **The loop over the channels** takes the first verdict. -/
theorem channelLoop_eq (l : List Nat)
    (texts : ∀ ch ∈ l, ∀ addressType, TextAddresses (table d unmarshal ch addressType)) :
    channelLoop d unmarshal it l = some ((l.findSome?
      (channelVerdict d unmarshal it)).getD "::/0") := by
  induction l with
  | nil => rfl
  | cons ch rest ih =>
    obtain ⟨texts, rest_⟩ := List.forall_mem_cons.mp texts
    have ih := ih rest_
    unfold channelLoop
    rw [List.findSome?_cons, channelVerdict]
    by_cases off : getAddrMode d ch = ""
    · rw [if_pos off, if_pos off]
      exact ih
    · rw [if_neg off, if_neg off, getV6Address_eq (texts .dynamic),
        getV6Address_eq (texts .static)]
      dsimp only
      rw [← apply_ite some, ← preferred]
      generalize preferred _ _ = address
      unfold verdict
      dsimp only
      by_cases missing : address = ""
      · rw [if_pos missing, if_pos missing]
        exact ih
      · rw [if_neg missing, if_neg missing]
        cases parseCIDR address with
        | error err => exact ih
        | ok parsed => rfl

/-- A channel comes to one of its verdicts. -/
theorem channelVerdict_mem (ch : Nat) : channelVerdict d unmarshal it ch ∈ verdicts d unmarshal ch := by
  unfold channelVerdict verdicts
  by_cases off : getAddrMode d ch = ""
  · rw [if_pos off, if_pos off]
    exact List.mem_singleton_self _
  · rw [if_neg off, if_neg off]
    have chosen (addressType : AddressType) :
        firstQualifying addressType (it.order ch addressType (table d unmarshal ch addressType)) ∈
          choices addressType (table d unmarshal ch addressType) :=
      mem_choices_iff.mpr ⟨_, it.perm ch addressType _, rfl⟩
    refine List.mem_map_of_mem (List.mem_flatMap.mpr ⟨_, chosen .dynamic, ?_⟩)
    unfold preferred
    split
    · exact chosen .static
    · exact List.mem_singleton_self _

/-- **Every combination of verdicts** is that of some order of the tables. -/
theorem exists_iteration (v : Nat → Option String) (within : ∀ ch, v ch ∈ verdicts d unmarshal ch) :
    ∃ it : Iteration, ∀ ch, channelVerdict d unmarshal it ch = v ch := by
  -- For each channel an order of both tables that comes to its verdict.
  have each (ch : Nat) : ∃ given : AddressType → List Entry,
      (∀ addressType, (given addressType).Perm (table d unmarshal ch addressType)) ∧
        (getAddrMode d ch ≠ "" → verdict (preferred (firstQualifying .dynamic (given .dynamic))
          (firstQualifying .static (given .static))) = v ch) := by
    have member := within ch
    unfold verdicts at member
    by_cases off : getAddrMode d ch = ""
    · exact ⟨table d unmarshal ch, fun _ => .refl _, fun on => absurd off on⟩
    rw [if_neg off] at member
    obtain ⟨address, possible, is⟩ := List.mem_map.mp member
    obtain ⟨dynamic, chosen, last⟩ := List.mem_flatMap.mp possible
    obtain ⟨l, perm, first⟩ := mem_choices_iff.mp chosen
    by_cases missing : dynamic = ""
    · rw [if_pos missing] at last
      obtain ⟨l', perm', first'⟩ := mem_choices_iff.mp last
      refine ⟨AddressType.pick l l', fun addressType => ?_, fun _ => ?_⟩
      · cases addressType with
        | dynamic => exact perm
        | static => exact perm'
      · show verdict (preferred (firstQualifying .dynamic l) (firstQualifying .static l')) = v ch
        rw [first, first', preferred, if_pos missing, is]
    · rw [if_neg missing] at last
      refine ⟨AddressType.pick l (table d unmarshal ch .static), fun addressType => ?_, fun _ => ?_⟩
      · cases addressType with
        | dynamic => exact perm
        | static => exact .refl _
      · show verdict (preferred (firstQualifying .dynamic l) _) = v ch
        rw [first, preferred, if_neg missing, ← List.mem_singleton.mp last, is]
  choose given perm comes using each
  refine ⟨⟨fun ch addressType m =>
    if m = table d unmarshal ch addressType then given ch addressType else m,
    fun ch addressType m => ?_⟩, fun ch => ?_⟩
  · split
    · rename_i eq
      exact eq ▸ perm ch addressType
    · exact .refl m
  · unfold channelVerdict
    simp only [if_true]
    by_cases off : getAddrMode d ch = ""
    · rw [if_pos off]
      have member := within ch
      unfold verdicts at member
      rw [if_pos off] at member
      exact (List.mem_singleton.mp member).symm
    · rw [if_neg off]
      exact comes ch off

/-- All usable addresses of the channels that can be reached are one and the same; if all channels may
be passed over there is none, and the default stands. -/
structure Unambiguous (d : Util.Dependencies) (unmarshal : String → Option (List Entry))
    (address : String) : Prop where
  usable : ∀ before ch after, channels = before ++ ch :: after →
    (∀ earlier ∈ before, none ∈ verdicts d unmarshal earlier) →
      ∀ result, some result ∈ verdicts d unmarshal ch → result = address
  exhausted : (∀ ch ∈ channels, none ∈ verdicts d unmarshal ch) → address = "::/0"

/-- **When the address does not depend on the order of the maps.** -/
theorem sameAddress_iff (dryRunEnabled : Bool)
    (texts : ∀ ch ∈ channels, ∀ addressType, TextAddresses (table d unmarshal ch addressType)) :
    (∀ it it', getBmcV6Address d unmarshal it dryRunEnabled =
      getBmcV6Address d unmarshal it' dryRunEnabled) ↔
      dryRunEnabled = true ∨ ∃ address, Unambiguous d unmarshal address := by
  cases dryRunEnabled with
  | true =>
    refine iff_of_true (fun it it' => ?_) (.inl rfl)
    rw [getBmcV6Address, getBmcV6Address, if_pos rfl, if_pos rfl]
  | false =>
    rw [or_iff_right Bool.false_ne_true]
    have result (it : Iteration) : getBmcV6Address d unmarshal it false =
        some ((channels.findSome? (channelVerdict d unmarshal it)).getD "::/0") := by
      rw [getBmcV6Address, if_neg Bool.false_ne_true, channelLoop_eq channels texts]
    let any : Iteration := ⟨fun _ _ m => m, fun _ _ m => .refl m⟩
    have nonempty (ch : Nat) : {v | v ∈ verdicts d unmarshal ch}.Nonempty :=
      ⟨channelVerdict d unmarshal any ch, channelVerdict_mem ch⟩
    have distinct : channels.Nodup := by decide
    -- The orders of the maps are the choices of the channels.
    have orders : (∀ it it', getBmcV6Address d unmarshal it false =
      getBmcV6Address d unmarshal it' false) ↔
        ∀ f g : Nat → Option String, (∀ ch, f ch ∈ {v | v ∈ verdicts d unmarshal ch}) →
          (∀ ch, g ch ∈ {v | v ∈ verdicts d unmarshal ch}) →
          (channels.findSome? f).getD "::/0" = (channels.findSome? g).getD "::/0" := by
      constructor
      · intro same f g insideF insideG
        obtain ⟨it, isF⟩ := exists_iteration f insideF
        obtain ⟨it', isG⟩ := exists_iteration g insideG
        have results := same it it'
        rw [result, result, funext isF, funext isG] at results
        exact Option.some.inj results
      · intro same it it'
        rw [result, result, same _ _ channelVerdict_mem channelVerdict_mem]
    rw [orders, findSome?_agree_iff distinct nonempty "::/0"]
    constructor
    · rintro ⟨address, usable, exhausted⟩
      exact ⟨address, usable, exhausted⟩
    · rintro ⟨address, unambiguous⟩
      exact ⟨address, unambiguous.usable, unambiguous.exhausted⟩

end Channels

/-! ### A channel with one address, and with two -/

/-- The table of an active address from a router advertisement. -/
def slaac (address : String) : Entry :=
  .fields [(.text "Source/Type", .text "SLAAC"), (.text "Address", .text address),
    (.text "Status", .text "active")]

/-- What ipmitool prints for these addresses. -/
def slaacOutput (addresses : List String) : String :=
  String.join (addresses.zipIdx.map fun (address, i) =>
    "IPv6 Dynamic Address " ++ toString i ++ ":\n    Source/Type:    SLAAC\n    Address:        " ++
      address ++
      "\n    Status:         active\n")

/-- A host whose channel 1 has these addresses, and no other channel an address. -/
def slaacHost (addresses : List String) : Util.Dependencies :=
  { printing "" with
    execute command :=
      if command = ["ipmitool", "lan6", "print", "1", "enables"] then
        ("IPv6/IPv4 Addressing Enables: both", "", 0)
      else if command = ["ipmitool", "lan6", "print", "1", "dynamic_addr"] then
        (slaacOutput addresses, "", 0)
      else ("", "", 1) }

/-- A decoder of this output. -/
def slaacDecoder (addresses : List String) (output : String) : Option (List Entry) :=
  if output = slaacOutput addresses then some (addresses.map slaac) else none

theorem textAddresses_slaac (addresses : List String) (ch : Nat) (addressType : AddressType) :
    TextAddresses (table (slaacHost addresses) (slaacDecoder addresses) ch addressType) := by
  have entries : ∀ entry ∈ table (slaacHost addresses) (slaacDecoder addresses) ch addressType,
      ∃ address, entry = slaac address := by
    intro entry member
    unfold table at member
    split at member
    split at member
    · cases member
    · unfold slaacDecoder at member
      split at member
      · obtain ⟨address, -, rfl⟩ := List.mem_map.mp member
        exact ⟨address, rfl⟩
      · cases member
  intro addressMap member value found
  obtain ⟨address, is⟩ := entries _ member
  cases is
  exact ⟨address, (Option.some.inj found).symm⟩

theorem sameAddress_single :
    (∀ ch ∈ channels, ∀ addressType, TextAddresses (table (slaacHost ["2001:db8::1/64"])
      (slaacDecoder ["2001:db8::1/64"]) ch addressType)) ∧
    ∀ it it', getBmcV6Address (slaacHost ["2001:db8::1/64"])
      (slaacDecoder ["2001:db8::1/64"]) it false =
      getBmcV6Address (slaacHost ["2001:db8::1/64"]) (slaacDecoder ["2001:db8::1/64"]) it' false := by
  refine ⟨fun ch _ => textAddresses_slaac _ ch, ?_⟩
  have first : verdicts (slaacHost ["2001:db8::1/64"]) (slaacDecoder ["2001:db8::1/64"]) 1 =
      [some "2001:db8::1"] := by decide +kernel
  refine (sameAddress_iff false fun ch _ => textAddresses_slaac _ ch).mpr
    (.inr ⟨"2001:db8::1", ?_, fun passed => ?_⟩)
  · intro before ch after split passed result usable
    cases before with
    | nil =>
      obtain rfl : 1 = ch := (List.cons.inj split).1
      rw [first] at usable
      exact Option.some.inj (List.mem_singleton.mp usable)
    | cons earlier before =>
      obtain rfl : 1 = earlier := (List.cons.inj split).1
      have none_ := passed 1 List.mem_cons_self
      rw [first] at none_
      cases List.mem_singleton.mp none_
  · have none_ := passed 1 (by decide)
    rw [first] at none_
    cases List.mem_singleton.mp none_

/-- With two active addresses the one that is reported changes with the order of the map. -/
theorem not_sameAddress_two :
    (∀ ch ∈ channels, ∀ addressType, TextAddresses (table (slaacHost ["2001:db8::1/64", "2001:db8::2/64"])
      (slaacDecoder ["2001:db8::1/64", "2001:db8::2/64"]) ch addressType)) ∧
    ¬ ∀ it it', getBmcV6Address (slaacHost ["2001:db8::1/64", "2001:db8::2/64"])
        (slaacDecoder ["2001:db8::1/64", "2001:db8::2/64"]) it false =
      getBmcV6Address (slaacHost ["2001:db8::1/64", "2001:db8::2/64"])
        (slaacDecoder ["2001:db8::1/64", "2001:db8::2/64"]) it' false := by
  refine ⟨fun ch _ => textAddresses_slaac _ ch, fun same => ?_⟩
  have results := same ⟨fun _ _ m => m, fun _ _ m => .refl m⟩
    ⟨fun _ _ m => m.reverse, fun _ _ m => List.reverse_perm m⟩
  have forward : getBmcV6Address (slaacHost ["2001:db8::1/64", "2001:db8::2/64"])
      (slaacDecoder ["2001:db8::1/64", "2001:db8::2/64"]) ⟨fun _ _ m => m, fun _ _ m => .refl m⟩ false =
        some "2001:db8::1" := by decide +kernel
  have backward : getBmcV6Address (slaacHost ["2001:db8::1/64", "2001:db8::2/64"])
      (slaacDecoder ["2001:db8::1/64", "2001:db8::2/64"])
      ⟨fun _ _ m => m.reverse, fun _ _ m => List.reverse_perm m⟩ false = some "2001:db8::2" := by
    decide +kernel
  rw [forward, backward] at results
  revert results
  decide

end AssistedAgent.Inventory
