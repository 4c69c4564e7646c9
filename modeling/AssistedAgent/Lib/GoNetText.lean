/-
**The texts of addresses.**

* **`isAddrChar_of_parseIP`, `isAddrChar_of_parseCIDR`** — a text that is accepted as an address or as a
  network is written with hex digits, colons, dots and, for a network, a slash.
-/

import AssistedAgent.Lib.GoNet
import AssistedAgent.Lib.GoStrings
import Mathlib.Data.List.TakeWhile

namespace GoNet

open Bytes

/-! ### The characters of an address -/

def isAddrChar (c : Char) : Bool := (hexDigit c).isSome || c == ':' || c == '.'

theorem isAddrChar_of_hexDigit {c : Char} {d : Nat} (digit : hexDigit c = some d) :
    isAddrChar c = true := by
  rw [isAddrChar, digit]
  rfl

theorem isAddrChar_of_isDigit {c : Char} (digit : c.isDigit = true) : isAddrChar c = true := by
  have bounds : '0' ≤ c ∧ c ≤ '9' := by
    rw [Char.isDigit, Bool.and_eq_true, decide_eq_true_eq, decide_eq_true_eq] at digit
    exact digit
  have found : hexDigit c = some (c.toNat - '0'.toNat) := if_pos bounds
  exact isAddrChar_of_hexDigit found

theorem isDigit_of_parseOctet {field : List Char} {b : UInt8} (parsed : parseOctet field = some b) :
    ∀ c ∈ field, c.isDigit = true := by
  unfold parseOctet at parsed
  split at parsed
  · cases parsed
  · rename_i digits
    have all := not_not.mp (not_or.mp digits).2
    exact List.all_eq_true.mp all

theorem isAddrChar_of_parseIPv4Fields {s : List Char} {bytes : List UInt8}
    (parsed : parseIPv4Fields s = some bytes) : ∀ c ∈ s, isAddrChar c = true := by
  unfold parseIPv4Fields at parsed
  split at parsed
  swap
  · cases parsed
  rename_i a b c d fields
  simp only [Option.bind_eq_bind, Option.bind_eq_some_iff] at parsed
  obtain ⟨_, first, _, second, _, third, _, fourth, -⟩ := parsed
  have joined : ['.'].intercalate [a, b, c, d] = s := fields ▸ List.intercalate_splitOn '.'
  rw [← joined]
  refine GoStrings.forall_mem_intercalate (List.forall_mem_singleton.mpr rfl) fun field member => ?_
  have digits : ∀ x ∈ field, x.isDigit = true := by
    simp only [List.mem_cons, List.not_mem_nil, or_false] at member
    rcases member with rfl | rfl | rfl | rfl
    · exact isDigit_of_parseOctet first
    · exact isDigit_of_parseOctet second
    · exact isDigit_of_parseOctet third
    · exact isDigit_of_parseOctet fourth
  exact fun x member => isAddrChar_of_isDigit (digits x member)

/-- The digits at the head of a text, before the rest. -/
theorem scanHex_split (s : List Char) :
    ∃ digits, s = digits ++ (scanHex s).2.2 ∧ ∀ c ∈ digits, isAddrChar c = true := by
  induction s with
  | nil => exact ⟨[], rfl, nofun⟩
  | cons c s ih =>
    rw [scanHex]
    cases digit : hexDigit c with
    | none => exact ⟨[], rfl, nofun⟩
    | some d =>
      obtain ⟨digits, is, all⟩ := ih
      refine ⟨c :: digits, congrArg (c :: ·) is, fun x member => ?_⟩
      rcases List.mem_cons.mp member with rfl | later
      · exact isAddrChar_of_hexDigit digit
      · exact all x later

/-- Groups are read over characters of addresses. -/
theorem parseIPv6Groups_chars {rounds : Nat} {ip : List UInt8} {ellipsis : Option Nat} {s : List Char}
    {ip' : List UInt8} {ellipsis' : Option Nat} {rest : List Char}
    (parsed : parseIPv6Groups rounds ip ellipsis s = some (ip', ellipsis', rest)) :
    ∀ c ∈ s, isAddrChar c = true ∨ c ∈ rest := by
  induction rounds generalizing ip ellipsis s with
  | zero =>
    cases parsed
    exact fun c member => Or.inr member
  | succ rounds ih =>
    obtain ⟨digits, is, all⟩ := scanHex_split s
    -- After its digits a group goes on with more groups, or is the last one.
    have before : ∀ after, (scanHex s).2.2 = after →
        (∀ c ∈ after, isAddrChar c = true ∨ c ∈ rest) → ∀ c ∈ s, isAddrChar c = true ∨ c ∈ rest := by
      intro after same later c member
      rw [is, same] at member
      rcases List.mem_append.mp member with digit | member
      · exact Or.inl (all c digit)
      · exact later c member
    have colon : isAddrChar ':' = true := by decide
    rw [parseIPv6Groups] at parsed
    split at parsed
    · cases parsed
      exact fun c member => Or.inr member
    dsimp only at parsed
    split at parsed
    · cases parsed
    split at parsed
    · split at parsed
      · cases parsed
      · obtain ⟨fields, found, same⟩ := Option.map_eq_some_iff.mp parsed
        exact fun c member => Or.inl (isAddrChar_of_parseIPv4Fields found c member)
    · rename_i last
      exact before [] last nofun
    · rename_i after gap
      split at parsed
      · cases parsed
      split at parsed
      · rename_i ended
        refine before _ gap fun c member => Or.inl ?_
        rw [ended] at member
        simp only [List.mem_cons, List.not_mem_nil, or_false, or_self] at member
        exact member ▸ colon
      · refine before _ gap fun c member => ?_
        rcases List.mem_cons.mp member with rfl | member
        · exact Or.inl colon
        rcases List.mem_cons.mp member with rfl | member
        · exact Or.inl colon
        exact ih parsed c member
    · rename_i next
      refine before _ next fun c member => ?_
      rcases List.mem_cons.mp member with rfl | member
      · exact Or.inl colon
      exact ih parsed c member
    · cases parsed

/-- The text of an IPv6 address before its zone, and the zone. -/
def addressOf (s : List Char) : List Char := s.takeWhile (· ≠ '%')

def zoneOf (s : List Char) : List Char := (s.dropWhile (· ≠ '%')).drop 1

/-- A leading ellipsis, and the text after it. -/
def groupsStart (s : List Char) : Option Nat × List Char :=
  if s.take 2 = [':', ':'] then (some 0, s.drop 2) else (none, s)

/-- An IPv6 text without a zone. -/
def parseGroups (s : List Char) : Option (List UInt8) :=
  if (groupsStart s).1 = some 0 ∧ (groupsStart s).2 = [] then some (List.replicate 16 0)
  else
    match parseIPv6Groups 8 [] (groupsStart s).1 (groupsStart s).2 with
    | some (ip, some e, []) =>
      if ip.length < 16 then some (ip.take e ++ List.replicate (16 - ip.length) 0 ++ ip.drop e)
      else none
    | some (ip, none, []) => if ip.length = 16 then some ip else none
    | _ => none

theorem parseIPv6_eq (s : List Char) :
    parseIPv6 s = if '%' ∈ s ∧ zoneOf s = [] then none
      else (parseGroups (addressOf s)).map fun ip => (ip, String.ofList (zoneOf s)) := by
  unfold parseIPv6 parseGroups groupsStart addressOf zoneOf
  dsimp only
  generalize s.takeWhile (· ≠ '%') = address
  generalize (s.dropWhile (· ≠ '%')).drop 1 = zone
  generalize (if address.take 2 = [':', ':'] then (some 0, address.drop 2) else (none, address)) = start
  split
  · rfl
  split
  · rfl
  cases parseIPv6Groups 8 [] start.1 start.2 with
  | none => rfl
  | some read =>
    obtain ⟨ip, ellipsis, rest⟩ := read
    cases rest with
    | cons c rest => cases ellipsis <;> rfl
    | nil =>
      cases ellipsis with
      | none =>
        dsimp only
        split <;> rfl
      | some e =>
        dsimp only
        split <;> rfl

theorem addressOf_of_not_mem {s : List Char} (without : '%' ∉ s) : addressOf s = s := by
  rw [addressOf, List.takeWhile_eq_self_iff]
  exact fun c member => decide_eq_true fun is => without (is ▸ member)

/-- An IPv6 text that is accepted without a zone is one. -/
theorem parseGroups_of_parseIPv6 {s : List Char} {bytes : List UInt8}
    (parsed : parseIPv6 s = some (bytes, "")) : parseGroups s = some bytes := by
  rw [parseIPv6_eq] at parsed
  split at parsed
  · cases parsed
  rename_i zoned
  obtain ⟨ip, read, same⟩ := Option.map_eq_some_iff.mp parsed
  rw [Prod.mk.injEq] at same
  have zoneless : zoneOf s = [] := by
    have chars := congrArg String.toList same.2
    rwa [String.toList_ofList] at chars
  rw [addressOf_of_not_mem fun member => zoned ⟨member, zoneless⟩, same.1] at read
  exact read

theorem read_of_parseGroups {s : List Char} {bytes : List UInt8}
    (parsed : parseGroups s = some bytes) : (groupsStart s).2 = [] ∨ ∃ ip ellipsis,
      parseIPv6Groups 8 [] (groupsStart s).1 (groupsStart s).2 = some (ip, ellipsis, []) := by
  unfold parseGroups at parsed
  split at parsed
  · rename_i empty
    exact Or.inl empty.2
  split at parsed
  · rename_i read
    exact Or.inr ⟨_, _, read⟩
  · rename_i read
    exact Or.inr ⟨_, _, read⟩
  · cases parsed

theorem isAddrChar_of_parseIPv6 {s : List Char} {bytes : List UInt8}
    (parsed : parseIPv6 s = some (bytes, "")) : ∀ c ∈ s, isAddrChar c = true := by
  have start : ∀ c ∈ s, c = ':' ∨ c ∈ (groupsStart s).2 := by
    intro c member
    unfold groupsStart
    split
    · rename_i colons
      rw [← List.take_append_drop 2 s, colons] at member
      rcases List.mem_append.mp member with first | later
      · exact Or.inl (by simpa using first)
      · exact Or.inr later
    · exact Or.inr member
  intro c member
  rcases start c member with rfl | member
  · decide
  rcases read_of_parseGroups (parseGroups_of_parseIPv6 parsed) with empty | ⟨ip, ellipsis, read⟩
  · rw [empty] at member
    cases member
  · exact (parseIPv6Groups_chars read c member).resolve_right nofun

theorem isAddrChar_of_parseAddr {s : List Char} {addr : Addr} (parsed : parseAddr s = some addr)
    (zoneless : addr.zone = "") : ∀ c ∈ s, isAddrChar c = true := by
  unfold parseAddr at parsed
  split at parsed
  · obtain ⟨fields, found, -⟩ := Option.map_eq_some_iff.mp parsed
    exact isAddrChar_of_parseIPv4Fields found
  · obtain ⟨⟨bytes, zone⟩, found, rfl⟩ := Option.map_eq_some_iff.mp parsed
    obtain rfl : zone = "" := zoneless
    exact isAddrChar_of_parseIPv6 found
  · cases parsed

/-- **The characters of an address.** -/
theorem isAddrChar_of_parseIP {s : String} (parsed : parseIP s ≠ []) :
    ∀ c ∈ s.toList, isAddrChar c = true := by
  unfold parseIP at parsed
  split at parsed
  · rename_i addr found
    split at parsed
    · exact isAddrChar_of_parseAddr found ‹_›
    · exact absurd rfl parsed
  · exact absurd rfl parsed

/-- **The characters of a network.** -/
theorem isAddrChar_of_parseCIDR {s : String} {result : IP × IPNet}
    (parsed : parseCIDR s = .ok result) : ∀ c ∈ s.toList, isAddrChar c = true ∨ c = '/' := by
  obtain ⟨addr, n, isAddr, isNumber, zoneless, -⟩ := exists_of_parseCIDR parsed
  intro c member
  rw [← List.takeWhile_append_dropWhile (p := fun c => decide (c ≠ '/')) (l := s.toList)] at member
  rcases List.mem_append.mp member with first | second
  · exact Or.inl (isAddrChar_of_parseAddr isAddr zoneless c first)
  · -- The slash, and the digits after it.
    cases tail : s.toList.dropWhile (fun c => decide (c ≠ '/')) with
    | nil =>
      rw [tail] at second
      cases second
    | cons slash digits =>
      have isSlash : slash = '/' := by
        have stopped := List.head?_dropWhile_not (fun c => decide (c ≠ '/')) s.toList
        rw [tail] at stopped
        simpa using stopped
      rw [tail] at second isNumber
      rcases List.mem_cons.mp second with rfl | member
      · exact Or.inr isSlash
      · rw [dtoi] at isNumber
        split at isNumber
        · cases isNumber
        · rename_i accepted
          have all := not_not.mp (not_or.mp accepted).2
          exact Or.inl (isAddrChar_of_isDigit (List.all_eq_true.mp all c member))

/-- No character of an address is white space. -/
theorem isSpace_of_isAddrChar {c : Char} (isChar : isAddrChar c = true) :
    GoStrings.isSpace c = false := by
  have bounds : 33 ≤ c.toNat ∧ c.toNat ≤ 126 := by
    rw [isAddrChar, Bool.or_eq_true, Bool.or_eq_true, beq_iff_eq, beq_iff_eq] at isChar
    rcases isChar with (digit | rfl) | rfl
    · unfold hexDigit at digit
      split at digit
      · rename_i bounds
        have low : 48 ≤ c.toNat := bounds.1
        have high : c.toNat ≤ 57 := bounds.2
        omega
      split at digit
      · rename_i bounds
        have low : 97 ≤ c.toNat := bounds.1
        have high : c.toNat ≤ 102 := bounds.2
        omega
      split at digit
      · rename_i bounds
        have low : 65 ≤ c.toNat := bounds.1
        have high : c.toNat ≤ 70 := bounds.2
        omega
      · cases digit
    · decide
    · decide
  exact GoStrings.isSpace_of_printable bounds.1 bounds.2

end GoNet
