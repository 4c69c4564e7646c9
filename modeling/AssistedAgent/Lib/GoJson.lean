/-
**The JSON text of strings and of structures of strings.**

`quote` is what `json.Marshal` writes for a string: the quotes, the backslash, the control characters,
the three characters of HTML and the two line separators of Unicode are escaped. `object` is a
structure: its fields in order, empty ones left out where they are marked `omitempty`.
-/

import Mathlib.Data.List.Basic

namespace GoJson

/-- The escape of a code point below `2 ^ 16`. -/
def unicodeEscape (n : Nat) : List Char :=
  ['\\', 'u', (n / 4096).digitChar, (n / 256 % 16).digitChar, (n / 16 % 16).digitChar,
    (n % 16).digitChar]

/-- A character in a string: control characters are escaped, and those that HTML gives a meaning. -/
def quoteChar (x : Char) : List Char :=
  if x = '\\' ∨ x = '"' then ['\\', x]
  else if x = '\x08' then ['\\', 'b']
  else if x = '\x0c' then ['\\', 'f']
  else if x = '\n' then ['\\', 'n']
  else if x = '\r' then ['\\', 'r']
  else if x = '\t' then ['\\', 't']
  else if x.toNat < 0x20 ∨ x = '<' ∨ x = '>' ∨ x = '&' ∨ x.toNat = 0x2028 ∨ x.toNat = 0x2029 then
    unicodeEscape x.toNat
  else [x]

/-- A string in quotes. -/
def quote (text : String) : String := String.ofList ('"' :: text.toList.flatMap quoteChar ++ ['"'])

/-- A field of a structure. -/
structure Field where
  name : String
  value : String
  omitempty : Bool

/-- The fields in their order, without blanks. -/
def object (fields : List Field) : String :=
  let written := fields.filter fun f => ! (f.omitempty && f.value == "")
  "\x7b" ++ ",".intercalate (written.map fun f => quote f.name ++ ":" ++ quote f.value) ++ "\x7d"

example : quote "a\n<\"b\"> \x01" = "\"a\\n\\u003c\\\"b\\\"\\u003e \\u0001\"" := by decide

end GoJson
