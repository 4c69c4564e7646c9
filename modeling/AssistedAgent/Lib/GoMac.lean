/-
**Hardware addresses.**

`parseMAC` is `net.ParseMAC`: 6, 8 or 20 bytes, as pairs of hex digits between colons or hyphens, or as
groups of four between dots. `hardwareString` is `HardwareAddr.String`.
-/

import AssistedAgent.Lib.GoNet

namespace GoMac

open GoNet

abbrev HardwareAddr := List UInt8

/-- The next two hex digits of a text; if it goes on, then with `e`. -/
def xtoi2 (s : List Char) (e : Char) : Option UInt8 :=
  if 2 < s.length ∧ s[2]? ≠ some e then none
  else
    match s with
    | high :: low :: _ =>
      match hexDigit high, hexDigit low with
      | some high, some low => some (UInt8.ofNat (16 * high + low))
      | _, _ => none
    | _ => none

/-- The bytes of a text of `n` pairs of digits, one separator between them. -/
def pairs (s : List Char) (n : Nat) (e : Char) : Option HardwareAddr :=
  (List.range n).mapM fun i => xtoi2 (s.drop (3 * i)) e

/-- The bytes of a text of groups of four digits, one dot between them. -/
def quads (s : List Char) (n : Nat) : Option HardwareAddr :=
  ((List.range (n / 2)).mapM fun i => do
    let first ← xtoi2 ((s.drop (5 * i)).take 2) '.'
    let second ← xtoi2 (s.drop (5 * i + 2)) '.'
    some [first, second]).map List.flatten

def parseMAC (s : String) : Except String HardwareAddr :=
  let text := s.toList
  let known (n : Nat) : Bool := n = 6 ∨ n = 8 ∨ n = 20
  let parsed : Option HardwareAddr :=
    if text.length < 14 then none
    else if text[2]? = some ':' ∨ text[2]? = some '-' then
      let n := (text.length + 1) / 3
      if (text.length + 1) % 3 ≠ 0 ∨ ¬ known n then none else pairs text n (text.getD 2 ':')
    else if text[4]? = some '.' then
      let n := 2 * (text.length + 1) / 5
      if (text.length + 1) % 5 ≠ 0 ∨ ¬ known n then none else quads text n
    else none
  match parsed with
  | some hw => .ok hw
  | none =>
    .error (if s = "" then "invalid MAC address" else "address " ++ s ++ ": invalid MAC address")

/-- `HardwareAddr.String`. -/
def hardwareString (hw : HardwareAddr) : String :=
  String.ofList ([':'].intercalate (hw.map fun b => hexString [b]))

example : parseMAC "80:32:53:4f:cf:d6" = .ok [0x80, 0x32, 0x53, 0x4f, 0xcf, 0xd6] := by decide

example : parseMAC "8032.534F.cfd6" = .ok [0x80, 0x32, 0x53, 0x4f, 0xcf, 0xd6] := by decide

end GoMac
