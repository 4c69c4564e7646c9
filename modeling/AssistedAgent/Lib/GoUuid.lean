/-
**The texts of a UUID.**

`isUUID` is `strfmt.IsUUID`: the texts that `uuid.Parse` reads without an error. These are the 36
bytes of the standard form, that form after `urn:uuid:` or between two further bytes, and the 32
digits alone. As in Go, a text is read by its bytes in UTF-8.

* **`isUUID_congr`** — the case of its letters does not matter.
-/

import AssistedAgent.Lib.GoStrings

namespace GoUuid

open GoStrings

/-- The bytes of a text. -/
def utf8 (s : String) : List UInt8 := s.toList.flatMap String.utf8EncodeChar

/-- A digit for `xtob`. -/
def isHex (b : UInt8) : Bool :=
  (0x30 ≤ b && b ≤ 0x39) || (0x61 ≤ b && b ≤ 0x66) || (0x41 ≤ b && b ≤ 0x46)

/-- Two digits from a position on. -/
def hexPair (s : List UInt8) (x : Nat) : Bool := s[x]?.any isHex && s[x + 1]?.any isHex

/-- `xxxxxxxx-xxxx-xxxx-xxxx-xxxxxxxxxxxx`, and anything after it. -/
def standardForm (s : List UInt8) : Bool :=
  [8, 13, 18, 23].all (fun i => s[i]?.any (· == 0x2d)) &&
    [0, 2, 4, 6, 9, 11, 14, 16, 19, 21, 24, 26, 28, 30, 32, 34].all (hexPair s)

def lowerByte (b : UInt8) : UInt8 := if 0x41 ≤ b && b ≤ 0x5a then b + 0x20 else b

/-- Whether `uuid.Parse` has no error. -/
def parses (s : List UInt8) : Bool :=
  if s.length = 36 then standardForm s
  else if s.length = 36 + 9 then
    -- `strings.EqualFold`: no letter of the scheme folds to one outside ASCII
    (s.take 9).map lowerByte == utf8 "urn:uuid:" && standardForm (s.drop 9)
  else if s.length = 36 + 2 then standardForm (s.drop 1)
  else if s.length = 32 then (List.range 16).all fun i => hexPair s (i * 2)
  else false

def isUUID (s : String) : Bool := parses (utf8 s)

/-! ### Case -/

theorem lowerByte_invariant {β : Type} (f : UInt8 → β)
    (all : ∀ n : Fin 256, f (lowerByte (UInt8.ofNat n.val)) = f (UInt8.ofNat n.val)) (b : UInt8) :
    f (lowerByte b) = f b := by
  have here := all ⟨b.toNat, b.toNat_lt⟩
  rwa [UInt8.ofNat_toNat] at here

theorem isHex_lowerByte (b : UInt8) : isHex (lowerByte b) = isHex b :=
  lowerByte_invariant isHex (by decide +kernel) b

theorem dash_lowerByte (b : UInt8) : (lowerByte b == 0x2d) = (b == 0x2d) :=
  lowerByte_invariant (· == 0x2d) (by decide +kernel) b

theorem lowerByte_lowerByte (b : UInt8) : lowerByte (lowerByte b) = lowerByte b :=
  lowerByte_invariant lowerByte (by decide +kernel) b

theorem hexPair_map_lowerByte (s : List UInt8) (x : Nat) :
    hexPair (s.map lowerByte) x = hexPair s x := by
  simp only [hexPair, List.getElem?_map, Option.any_map, isHex_lowerByte]

theorem standardForm_map_lowerByte (s : List UInt8) :
    standardForm (s.map lowerByte) = standardForm s := by
  have pairs : hexPair (s.map lowerByte) = hexPair s := funext (hexPair_map_lowerByte s)
  simp only [standardForm, pairs, List.getElem?_map, Option.any_map, dash_lowerByte]

theorem parses_map_lowerByte (s : List UInt8) : parses (s.map lowerByte) = parses s := by
  simp only [parses, List.length_map, standardForm_map_lowerByte, hexPair_map_lowerByte,
    ← List.map_take, ← List.map_drop, List.map_map, Function.comp_def, lowerByte_lowerByte]

theorem lowerBytes_toLower (c : Char) :
    (String.utf8EncodeChar c.toLower).map lowerByte = (String.utf8EncodeChar c).map lowerByte :=
  toLower_invariant (fun c => (String.utf8EncodeChar c).map lowerByte) (by decide +kernel) c

/-- The bytes of a text in lower case can be told from its characters in lower case. -/
theorem lowerBytes_utf8 (s : String) : (utf8 s).map lowerByte =
    (s.toList.map Char.toLower).flatMap fun c => (String.utf8EncodeChar c).map lowerByte := by
  simp only [utf8, List.map_flatMap, List.flatMap_map, lowerBytes_toLower]

/-- **A UUID stays one whatever the case of its letters.** -/
theorem isUUID_congr {s t : String} (same : SameButCase s t) : isUUID s = isUUID t := by
  rw [isUUID, isUUID, ← parses_map_lowerByte (utf8 s), lowerBytes_utf8, same, ← lowerBytes_utf8,
    parses_map_lowerByte]

end GoUuid
