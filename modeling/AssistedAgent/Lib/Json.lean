/-
**JSON texts as `encoding/json` reads them.**

`parse` is the scanner and the decoder in one: white space, literals, numbers as they are written,
strings with their escapes undone, arrays and objects to a depth of ten thousand. An escaped surrogate
without its partner is the replacement character. Members of an object are kept in order, and
`fieldAt` decodes those that a field of a structure takes, which are matched without regard to case.

* **`scanString_quote`** — what `json.Marshal` writes for a text is read as the text.
* **`parse_strings`, `parse_object`** — lists of texts and structures of texts are read back.
* **`parse_written`** — so are objects of any members that are read from their texts, such as numbers.
-/

import AssistedAgent.Lib.GoJson
import Mathlib.Data.List.Forall2

namespace GoJson

inductive Json
  | null
  | bool (b : Bool)
  | number (text : List Char)
  | string (s : String)
  | array (items : List Json)
  | object (members : List (String × Json))

def isSpace (c : Char) : Bool := [' ', '\t', '\r', '\n'].contains c

def skipSpace (text : List Char) : List Char := text.dropWhile isSpace

/-! ### Strings -/

def hexValue (c : Char) : Option Nat :=
  if c.isDigit then some (c.toNat - '0'.toNat)
  else if 'a' ≤ c ∧ c ≤ 'f' then some (c.toNat - 'a'.toNat + 10)
  else if 'A' ≤ c ∧ c ≤ 'F' then some (c.toNat - 'A'.toNat + 10)
  else none

/-- Four hex digits. -/
def hex4 : List Char → Option (Nat × List Char)
  | a :: b :: c :: d :: rest => do
    let a ← hexValue a
    let b ← hexValue b
    let c ← hexValue c
    let d ← hexValue d
    some (a * 4096 + b * 256 + c * 16 + d, rest)
  | _ => none

def replacement : Char := '\uFFFD'

/-- The character of an escaped code unit and of the text after it. -/
def codePoint (n : Nat) (rest : List Char) : Char × List Char :=
  if n < 0xD800 ∨ 0xE000 ≤ n then (Char.ofNat n, rest)
  else
    match rest with
    | '\\' :: 'u' :: more =>
      match hex4 more with
      | some (low, after) =>
        if n < 0xDC00 ∧ 0xDC00 ≤ low ∧ low < 0xE000 then
          (Char.ofNat ((n - 0xD800) * 0x400 + (low - 0xDC00) + 0x10000), after)
        else (replacement, rest)
      | none => (replacement, rest)
    | _ => (replacement, rest)

def simpleEscape (c : Char) : Option Char :=
  match c with
  | '"' => some '"'
  | '\\' => some '\\'
  | '/' => some '/'
  | 'b' => some '\x08'
  | 'f' => some '\x0c'
  | 'n' => some '\n'
  | 'r' => some '\r'
  | 't' => some '\t'
  | _ => none

/-- One character of a string. -/
def scanChar : List Char → Option (Char × List Char)
  | [] => none
  | '\\' :: 'u' :: text => (hex4 text).map fun read => codePoint read.1 read.2
  | '\\' :: c :: text => (simpleEscape c).map fun x => (x, text)
  | c :: text => if c.toNat < 0x20 ∨ c = '"' ∨ c = '\\' then none else some (c, text)

/-- The characters up to the closing quote, and what follows it. -/
def scanString : Nat → List Char → Option (List Char × List Char)
  | _, '"' :: rest => some ([], rest)
  | 0, _ => none
  | fuel + 1, text => do
    let (c, rest) ← scanChar text
    let (s, rest) ← scanString fuel rest
    some (c :: s, rest)

/-! ### Values -/

/-- Digits, at least one. -/
def scanDigits (text : List Char) : Option (List Char × List Char) :=
  if text.takeWhile Char.isDigit = [] then none
  else some (text.takeWhile Char.isDigit, text.dropWhile Char.isDigit)

def scanFraction : List Char → Option (List Char × List Char)
  | '.' :: text => (scanDigits text).map fun read => ('.' :: read.1, read.2)
  | text => some ([], text)

def scanExponent : List Char → Option (List Char × List Char)
  | [] => some ([], [])
  | e :: text =>
    if e = 'e' ∨ e = 'E' then
      match text with
      | '+' :: digits => (scanDigits digits).map fun read => (e :: '+' :: read.1, read.2)
      | '-' :: digits => (scanDigits digits).map fun read => (e :: '-' :: read.1, read.2)
      | digits => (scanDigits digits).map fun read => (e :: read.1, read.2)
    else some ([], e :: text)

/-- A number without its sign: no leading zero, and digits after a dot or an exponent. -/
def scanUnsigned (text : List Char) : Option (List Char × List Char) := do
  let (whole, rest) ← match text with
    | '0' :: rest => some (['0'], rest)
    | _ => scanDigits text
  let (fraction, rest) ← scanFraction rest
  let (exponent, rest) ← scanExponent rest
  some (whole ++ fraction ++ exponent, rest)

def scanNumber : List Char → Option (List Char × List Char)
  | '-' :: text => (scanUnsigned text).map fun read => ('-' :: read.1, read.2)
  | text => scanUnsigned text

mutual

/-- A value, within arrays and objects that may be nested `depth` deep. -/
def value : Nat → Nat → List Char → Option (Json × List Char)
  | 0, _, _ => none
  | fuel + 1, depth, text =>
    match skipSpace text with
    | '"' :: rest => (scanString rest.length rest).map fun read => (.string (String.ofList read.1), read.2)
    | '[' :: rest =>
      if depth = 0 then none
      else
        match skipSpace rest with
        | ']' :: rest => some (.array [], rest)
        | _ => (items fuel (depth - 1) rest).map fun read => (.array read.1, read.2)
    | '\x7b' :: rest =>
      if depth = 0 then none
      else
        match skipSpace rest with
        | '\x7d' :: rest => some (.object [], rest)
        | _ => (members fuel (depth - 1) rest).map fun read => (.object read.1, read.2)
    | 'n' :: 'u' :: 'l' :: 'l' :: rest => some (.null, rest)
    | 't' :: 'r' :: 'u' :: 'e' :: rest => some (.bool true, rest)
    | 'f' :: 'a' :: 'l' :: 's' :: 'e' :: rest => some (.bool false, rest)
    | rest => (scanNumber rest).map fun read => (.number read.1, read.2)

/-- The items of an array, up to its end. -/
def items : Nat → Nat → List Char → Option (List Json × List Char)
  | 0, _, _ => none
  | fuel + 1, depth, text =>
    match value fuel depth text with
    | none => none
    | some (item, rest) =>
      match skipSpace rest with
      | ',' :: rest => (items fuel depth rest).map fun read => (item :: read.1, read.2)
      | ']' :: rest => some ([item], rest)
      | _ => none

/-- The members of an object, up to its end. -/
def members : Nat → Nat → List Char → Option (List (String × Json) × List Char)
  | 0, _, _ => none
  | fuel + 1, depth, text =>
    match skipSpace text with
    | '"' :: rest =>
      match scanString rest.length rest with
      | none => none
      | some (key, rest) =>
        match skipSpace rest with
        | ':' :: rest =>
          match value fuel depth rest with
          | none => none
          | some (item, rest) =>
            match skipSpace rest with
            | ',' :: rest => (members fuel depth rest).map fun read =>
                ((String.ofList key, item) :: read.1, read.2)
            | '\x7d' :: rest => some ([(String.ofList key, item)], rest)
            | _ => none
        | _ => none
    | _ => none

end

def maxNestingDepth : Nat := 10000

/-- A text that is one value and white space. -/
def parse (text : String) : Option Json :=
  match value (2 * text.toList.length + 2) maxNestingDepth text.toList with
  | some (json, rest) => if skipSpace rest = [] then some json else none
  | none => none

/-! ### Fields of a structure -/

/-- The smallest character that is the same without regard to case, for the letters of ASCII. -/
def foldChar (c : Char) : Char :=
  if c.isUpper then c.toLower
  else if c = '\u017F' then 's'
  else if c = '\u212A' then 'k'
  else c

def foldName (name : String) : List Char := name.toList.map foldChar

/-- A field, decoded from the members that have its name, each in the place of the one before. -/
def fieldAt {α : Type} (name : String) (decode : Json → α → Option α) (init : α) :
    List (String × Json) → Option α
  | [] => some init
  | (key, item) :: rest =>
    if foldName key = foldName name then (decode item init).bind (fieldAt name decode · rest)
    else fieldAt name decode init rest

/-- A pointer to a string. -/
def decodeStringPointer : Json → Option String → Option (Option String)
  | .null, _ => some none
  | .string s, _ => some (some s)
  | _, _ => none

/-- A string, which null leaves as it is. -/
def decodeString : Json → String → Option String
  | .null, s => some s
  | .string s, _ => some s
  | _, _ => none

/-- A list of strings; null is the nil list, and the empty string within it. -/
def decodeStrings : Json → Option (List String)
  | .null => some []
  | .array items => items.mapM (decodeString · "")
  | _ => none

/-- The text of a list of strings. -/
def strings (texts : List String) : String := "[" ++ ",".intercalate (texts.map quote) ++ "]"

/-! ### Reading back what was written -/

theorem hexValue_digitChar : ∀ n < 16, hexValue n.digitChar = some n := by decide

theorem hex4_digits {n : Nat} (small : n < 0x10000) (rest : List Char) :
    hex4 ((n / 4096).digitChar :: (n / 256 % 16).digitChar :: (n / 16 % 16).digitChar ::
      (n % 16).digitChar :: rest) = some (n, rest) := by
  have value_eq : n / 4096 * 4096 + n / 256 % 16 * 256 + n / 16 % 16 * 16 + n % 16 = n := by omega
  rw [hex4, hexValue_digitChar _ (by omega), hexValue_digitChar _ (by omega),
    hexValue_digitChar _ (by omega), hexValue_digitChar _ (by omega)]
  simp only [Option.bind_eq_bind, Option.bind_some, value_eq]

/-- A character that is escaped by its number is below the surrogates, or one of two above them. -/
theorem scanChar_unicodeEscape {x : Char} (small : x.toNat < 0xD800) (rest : List Char) :
    scanChar (unicodeEscape x.toNat ++ rest) = some (x, rest) := by
  show (hex4 ((x.toNat / 4096).digitChar :: (x.toNat / 256 % 16).digitChar ::
    (x.toNat / 16 % 16).digitChar :: (x.toNat % 16).digitChar :: rest)).map _ = _
  rw [hex4_digits (by omega), Option.map_some]
  unfold codePoint
  rw [if_pos (Or.inl small), Char.ofNat_toNat]

/-- **A quoted character is read back.** -/
theorem scanChar_quoteChar (x : Char) (rest : List Char) :
    scanChar (quoteChar x ++ rest) = some (x, rest) := by
  unfold quoteChar
  split
  · rename_i special
    rcases special with rfl | rfl <;> rfl
  split
  · rename_i same
    subst same
    rfl
  split
  · rename_i same
    subst same
    rfl
  split
  · rename_i same
    subst same
    rfl
  split
  · rename_i same
    subst same
    rfl
  split
  · rename_i same
    subst same
    rfl
  split
  · rename_i escaped
    apply scanChar_unicodeEscape
    rcases escaped with control | rfl | rfl | rfl | line | paragraph
    · omega
    · decide
    · decide
    · decide
    · omega
    · omega
  · rename_i special _ _ _ _ _ escaped
    rw [not_or] at special escaped
    show scanChar (x :: rest) = _
    unfold scanChar
    split
    · simp_all
    · simp_all
    · simp_all
    · rename_i c text _ _ same
      cases same
      rw [if_neg]
      rintro (control | isQuote | isBackslash)
      · exact escaped.1 control
      · exact special.2 isQuote
      · exact special.1 isBackslash

theorem quoteChar_head (x : Char) (rest : List Char) :
    ∃ c text, quoteChar x ++ rest = c :: text ∧ c ≠ '"' := by
  unfold quoteChar unicodeEscape
  repeat' split
  all_goals first
    | exact ⟨_, _, rfl, by decide⟩
    | skip
  rename_i special _ _ _ _ _ _
  exact ⟨x, rest, rfl, fun same => special (Or.inr same)⟩

theorem scanString_cons {c : Char} {text : List Char} (other : c ≠ '"') (fuel : Nat) :
    scanString (fuel + 1) (c :: text) = (scanChar (c :: text)).bind fun read =>
      (scanString fuel read.2).bind fun more => some (read.1 :: more.1, more.2) := by
  rw [scanString]
  · rfl
  · rintro rest same
    cases same
    exact other rfl

/-- **A quoted text is read back**, up to its closing quote. -/
theorem scanString_quote (text : List Char) {fuel : Nat} (enough : text.length ≤ fuel)
    (rest : List Char) :
    scanString fuel (text.flatMap quoteChar ++ '"' :: rest) = some (text, rest) := by
  induction text generalizing fuel with
  | nil =>
    cases fuel <;> rfl
  | cons x text ih =>
    obtain ⟨fuel, rfl⟩ := Nat.exists_eq_succ_of_ne_zero (n := fuel) (by
      rw [List.length_cons] at enough
      omega)
    rw [List.flatMap_cons, List.append_assoc]
    obtain ⟨c, tail, cons_eq, other⟩ := quoteChar_head x (text.flatMap quoteChar ++ '"' :: rest)
    have read := scanChar_quoteChar x (text.flatMap quoteChar ++ '"' :: rest)
    rw [cons_eq] at read ⊢
    rw [scanString_cons other, read, Option.bind_some, ih (by simpa using enough)]
    rfl

theorem length_le_flatMap_quoteChar (text : List Char) :
    text.length ≤ (text.flatMap quoteChar).length := by
  induction text with
  | nil => exact Nat.le_refl _
  | cons x text ih =>
    have one : 1 ≤ (quoteChar x).length := by
      obtain ⟨c, tail, cons_eq, -⟩ := quoteChar_head x []
      rw [List.append_nil] at cons_eq
      rw [cons_eq, List.length_cons]
      omega
    rw [List.flatMap_cons, List.length_append, List.length_cons]
    omega

theorem toList_quote (text : String) :
    (quote text).toList = '"' :: (text.toList.flatMap quoteChar ++ ['"']) := by
  rw [quote, String.toList_ofList, List.cons_append]

theorem skipSpace_of_not_space {c : Char} (other : isSpace c = false) (text : List Char) :
    skipSpace (c :: text) = c :: text := List.dropWhile_cons_of_neg (by simp [other])

/-- The text of a string at the head of a text. -/
theorem scanString_toList_quote (text : String) (rest : List Char) :
    scanString (text.toList.flatMap quoteChar ++ '"' :: rest).length
      (text.toList.flatMap quoteChar ++ '"' :: rest) = some (text.toList, rest) := by
  refine scanString_quote _ ?_ rest
  rw [List.length_append]
  exact Nat.le_trans (length_le_flatMap_quoteChar _) (Nat.le_add_right _ _)

theorem value_of_quote (fuel depth : Nat) (rest : List Char) :
    value (fuel + 1) depth ('"' :: rest) =
      (scanString rest.length rest).map fun read => (.string (String.ofList read.1), read.2) := by
  rw [value, skipSpace_of_not_space rfl]
  rfl

theorem value_of_bracket {depth : Nat} (deep : depth ≠ 0) {rest : List Char}
    (filled : ∀ more, skipSpace rest ≠ ']' :: more) (fuel : Nat) :
    value (fuel + 1) depth ('[' :: rest) =
      (items fuel (depth - 1) rest).map fun read => (.array read.1, read.2) := by
  rw [value, skipSpace_of_not_space rfl]
  show (if depth = 0 then none else _) = _
  rw [if_neg deep]
  split
  · rename_i more same
    exact absurd same (filled more)
  · rfl

theorem value_of_brace {depth : Nat} (deep : depth ≠ 0) {rest : List Char}
    (filled : ∀ more, skipSpace rest ≠ '\x7d' :: more) (fuel : Nat) :
    value (fuel + 1) depth ('\x7b' :: rest) =
      (members fuel (depth - 1) rest).map fun read => (.object read.1, read.2) := by
  rw [value, skipSpace_of_not_space rfl]
  show (if depth = 0 then none else _) = _
  rw [if_neg deep]
  split
  · rename_i more same
    exact absurd same (filled more)
  · rfl

theorem items_of_comma {fuel depth : Nat} {text rest : List Char} {item : Json}
    (read : value fuel depth text = some (item, ',' :: rest)) :
    items (fuel + 1) depth text =
      (items fuel depth rest).map fun read => (item :: read.1, read.2) := by
  rw [items, read]
  show (match skipSpace (',' :: rest) with | _ => _) = _
  rw [skipSpace_of_not_space rfl]
  rfl

theorem items_of_end {fuel depth : Nat} {text rest : List Char} {item : Json}
    (read : value fuel depth text = some (item, ']' :: rest)) :
    items (fuel + 1) depth text = some ([item], rest) := by
  rw [items, read]
  show (match skipSpace (']' :: rest) with | _ => _) = _
  rw [skipSpace_of_not_space rfl]
  rfl

theorem value_quote (text : String) (fuel depth : Nat) (rest : List Char) :
    value (fuel + 1) depth ((quote text).toList ++ rest) = some (.string text, rest) := by
  rw [toList_quote, List.cons_append, List.append_assoc, List.singleton_append, value_of_quote,
    scanString_toList_quote, Option.map_some, String.ofList_toList]

/-- **The items of a list of texts.** -/
theorem items_quotes {texts : List String} (filled : texts ≠ []) {fuel : Nat}
    (enough : texts.length ≤ fuel) (depth : Nat) (rest : List Char) :
    items (fuel + 1) depth ([','].intercalate (texts.map fun text => (quote text).toList) ++
      ']' :: rest) = some (texts.map .string, rest) := by
  induction texts generalizing fuel with
  | nil => exact absurd rfl filled
  | cons text texts ih =>
    obtain ⟨fuel, rfl⟩ := Nat.exists_eq_succ_of_ne_zero (n := fuel) (by
      rw [List.length_cons] at enough
      omega)
    cases texts with
    | nil =>
      rw [List.map_singleton, List.intercalate_singleton, items_of_end (value_quote _ _ _ _)]
      rfl
    | cons next texts =>
      have fewer : (next :: texts).length ≤ fuel := by simpa using enough
      have others := ih (List.cons_ne_nil _ _) fewer
      rw [List.map_cons] at others
      rw [List.map_cons, List.map_cons, List.intercalate_cons_cons, List.append_assoc,
        List.append_assoc, List.singleton_append, items_of_comma (value_quote _ _ _ _), others]
      rfl

theorem mapM_decodeString (texts : List String) :
    (texts.map Json.string).mapM (decodeString · "") = some texts := by
  induction texts with
  | nil => rfl
  | cons text texts ih =>
    rw [List.map_cons, List.mapM_cons, ih]
    rfl

/-- Parts between separators are no more than the characters. -/
theorem length_le_intercalate {parts : List (List Char)} (filled : ∀ part ∈ parts, part ≠ []) :
    parts.length ≤ ([','].intercalate parts).length := by
  induction parts with
  | nil => exact Nat.le_refl _
  | cons part parts ih =>
    have one := List.length_pos_of_ne_nil (filled part List.mem_cons_self)
    have others := ih fun later member => filled later (List.mem_cons_of_mem part member)
    cases parts with
    | nil =>
      rw [List.intercalate_singleton]
      exact one
    | cons next parts =>
      rw [List.intercalate_cons_cons, List.length_append, List.length_append, List.length_cons]
      omega

/-- Parts that begin with a quote, one after the other, begin with one. -/
theorem intercalate_head {parts : List (List Char)} (filled : parts ≠ [])
    (quoted : ∀ part ∈ parts, ∃ tail, part = '"' :: tail) (rest : List Char) :
    ∃ tail, [','].intercalate parts ++ rest = '"' :: tail := by
  obtain ⟨part, parts, rfl⟩ := List.exists_cons_of_ne_nil filled
  obtain ⟨tail, rfl⟩ := quoted part List.mem_cons_self
  cases parts with
  | nil =>
    rw [List.intercalate_singleton]
    exact ⟨_, rfl⟩
  | cons next parts =>
    rw [List.intercalate_cons_cons]
    exact ⟨_, rfl⟩

theorem quote_head (texts : List String) :
    ∀ part ∈ texts.map fun text => (quote text).toList, ∃ tail, part = '"' :: tail := by
  intro part member
  obtain ⟨text, -, rfl⟩ := List.mem_map.mp member
  exact ⟨_, toList_quote text⟩

theorem ne_nil_of_head {parts : List (List Char)} (quoted : ∀ part ∈ parts, ∃ tail, part = '"' :: tail) :
    ∀ part ∈ parts, part ≠ [] := by
  intro part member
  obtain ⟨tail, rfl⟩ := quoted part member
  exact List.cons_ne_nil _ _

theorem toList_strings (texts : List String) :
    (strings texts).toList =
      '[' :: ([','].intercalate (texts.map fun text => (quote text).toList) ++ [']']) := by
  rw [strings, String.toList_append, String.toList_append, String.toList_intercalate, List.map_map]
  rfl

/-- **A list of texts is read back.** -/
theorem parse_strings {texts : List String} (filled : texts ≠ []) :
    (parse (strings texts)).bind decodeStrings = some texts := by
  have notEnd : ∀ rest, skipSpace ([','].intercalate (texts.map fun text => (quote text).toList) ++
      [']']) ≠ ']' :: rest := by
    intro rest
    obtain ⟨tail, cons_eq⟩ := intercalate_head (mt List.map_eq_nil_iff.mp filled) (quote_head texts) [']']
    rw [cons_eq, skipSpace_of_not_space rfl]
    exact fun same => absurd (List.head_eq_of_cons_eq same) (by decide)
  have read : parse (strings texts) = some (.array (texts.map .string)) := by
    have lengths := length_le_intercalate (ne_nil_of_head (quote_head texts))
    rw [List.length_map] at lengths
    unfold parse
    rw [toList_strings, value_of_bracket (by decide) notEnd, List.length_cons, List.length_append,
      items_quotes filled (by omega)]
    rfl
  rw [read, Option.bind_some]
  exact mapM_decodeString texts

/-! ### Objects -/

/-- A member as it is written: its name, the text of its value, and the value that is meant. -/
structure Written where
  name : String
  text : List Char
  item : Json

/-- The text of a member. -/
def Written.member (m : Written) : List Char := (quote m.name).toList ++ ':' :: m.text

/-- What comes after a member. -/
inductive Follows : List Char → Prop
  | another (rest : List Char) : Follows (',' :: rest)
  | ended (rest : List Char) : Follows ('\x7d' :: rest)

/-- The value is read from its text. -/
def Written.Reads (m : Written) : Prop :=
  ∀ fuel depth rest, Follows rest → value (fuel + 1) depth (m.text ++ rest) = some (m.item, rest)

theorem members_of_quote {fuel depth : Nat} {name : String} {rest rest' : List Char} {item : Json}
    (read : value fuel depth rest = some (item, rest')) :
    members (fuel + 1) depth ((quote name).toList ++ ':' :: rest) =
      match skipSpace rest' with
      | ',' :: rest => (members fuel depth rest).map fun read => ((name, item) :: read.1, read.2)
      | '\x7d' :: rest => some ([(name, item)], rest)
      | _ => none := by
  rw [toList_quote, List.cons_append, List.append_assoc, List.singleton_append, members,
    skipSpace_of_not_space rfl]
  change (match scanString _ _ with | none => none | some (key, rest) => _) = _
  rw [scanString_toList_quote]
  dsimp only
  rw [skipSpace_of_not_space rfl]
  change (match value fuel depth rest with | none => none | some (item, rest) => _) = _
  rw [read, String.ofList_toList]

theorem members_of_comma {m : Written} (reads : m.Reads) (fuel depth : Nat) (rest : List Char) :
    members (fuel + 2) depth (m.member ++ ',' :: rest) =
      (members (fuel + 1) depth rest).map fun read => ((m.name, m.item) :: read.1, read.2) := by
  rw [Written.member, List.append_assoc, List.cons_append,
    members_of_quote (reads fuel depth (',' :: rest) (.another rest)), skipSpace_of_not_space rfl]
  rfl

theorem members_of_end {m : Written} (reads : m.Reads) (fuel depth : Nat) (rest : List Char) :
    members (fuel + 2) depth (m.member ++ '\x7d' :: rest) = some ([(m.name, m.item)], rest) := by
  rw [Written.member, List.append_assoc, List.cons_append,
    members_of_quote (reads fuel depth ('\x7d' :: rest) (.ended rest)), skipSpace_of_not_space rfl]
  rfl

/-- **The members of an object.** -/
theorem members_written {written : List Written} (filled : written ≠ [])
    (reads : ∀ m ∈ written, m.Reads) {fuel : Nat} (enough : written.length ≤ fuel) (depth : Nat)
    (rest : List Char) :
    members (fuel + 1) depth ([','].intercalate (written.map Written.member) ++ '\x7d' :: rest) =
      some (written.map fun m => (m.name, m.item), rest) := by
  induction written generalizing fuel with
  | nil => exact absurd rfl filled
  | cons m written ih =>
    obtain ⟨here, later⟩ := List.forall_mem_cons.mp reads
    obtain ⟨fuel, rfl⟩ := Nat.exists_eq_succ_of_ne_zero (n := fuel) (by
      rw [List.length_cons] at enough
      omega)
    cases written with
    | nil =>
      rw [List.map_singleton, List.intercalate_singleton, members_of_end here]
      rfl
    | cons next written =>
      have fewer : (next :: written).length ≤ fuel := by simpa using enough
      have others := ih (List.cons_ne_nil _ _) later fewer
      rw [List.map_cons] at others
      rw [List.map_cons, List.map_cons, List.intercalate_cons_cons, List.append_assoc,
        List.append_assoc, List.singleton_append, members_of_comma here, others]
      rfl

theorem member_head (written : List Written) :
    ∀ part ∈ written.map Written.member, ∃ tail, part = '"' :: tail := by
  intro part member
  obtain ⟨m, -, rfl⟩ := List.mem_map.mp member
  rw [Written.member, toList_quote]
  exact ⟨_, rfl⟩

/-- **An object is read back from the text of its members.** -/
theorem parse_written {text : String} {written : List Written} (reads : ∀ m ∈ written, m.Reads)
    (is : text.toList = '\x7b' :: ([','].intercalate (written.map Written.member) ++ ['\x7d'])) :
    parse text = some (.object (written.map fun m => (m.name, m.item))) := by
  unfold parse
  rw [is]
  by_cases empty : written = []
  · rw [empty]
    rfl
  · have lengths := length_le_intercalate (ne_nil_of_head (member_head written))
    rw [List.length_map] at lengths
    have notEnd : ∀ rest, skipSpace ([','].intercalate (written.map Written.member) ++ ['\x7d']) ≠
        '\x7d' :: rest := by
      intro rest
      obtain ⟨tail, cons_eq⟩ := intercalate_head (mt List.map_eq_nil_iff.mp empty) (member_head _)
        ['\x7d']
      rw [cons_eq, skipSpace_of_not_space rfl]
      exact fun same => absurd (List.head_eq_of_cons_eq same) (by decide)
    rw [value_of_brace (by decide) notEnd, List.length_cons, List.length_append,
      members_written empty reads (by omega)]
    rfl

/-! ### Members of text and of numbers -/

/-- A member that is a string. -/
def Written.ofString (name text : String) : Written := ⟨name, (quote text).toList, .string text⟩

theorem reads_ofString (name text : String) : (Written.ofString name text).Reads := by
  intro fuel depth rest _
  unfold Written.ofString
  dsimp only
  exact value_quote text fuel depth rest

/-- A member that is a number. -/
def Written.ofNat (name : String) (n : Nat) : Written :=
  ⟨name, Nat.toDigits 10 n, .number (Nat.toDigits 10 n)⟩

theorem toDigits_head {n : Nat} (positive : 0 < n) :
    ∃ c digits, Nat.toDigits 10 n = c :: digits ∧ c ≠ '0' := by
  induction n using Nat.strongRecOn with
  | ind n ih =>
    by_cases small : n < 10
    · refine ⟨n.digitChar, [], Nat.toDigits_of_lt_base small, ?_⟩
      have table : ∀ m < 10, 0 < m → m.digitChar ≠ '0' := by decide
      exact table n small positive
    · have large : 10 ≤ n := Nat.le_of_not_lt small
      obtain ⟨c, digits, is, first⟩ := ih (n / 10) (by omega) (by omega)
      refine ⟨c, digits ++ [(n % 10).digitChar], ?_, first⟩
      rw [Nat.toDigits_of_base_le (by decide) large, is, List.cons_append]

theorem scanDigits_append {digits rest : List Char} (filled : digits ≠ [])
    (every : ∀ c ∈ digits, c.isDigit = true) (ends : ∀ c ∈ rest.head?, c.isDigit = false) :
    scanDigits (digits ++ rest) = some (digits, rest) := by
  have nothing : rest.takeWhile Char.isDigit = [] ∧ rest.dropWhile Char.isDigit = rest := by
    cases rest with
    | nil => exact ⟨rfl, rfl⟩
    | cons c rest =>
      have other := ends c rfl
      exact ⟨List.takeWhile_cons_of_neg (by simp [other]), List.dropWhile_cons_of_neg (by simp [other])⟩
  rw [scanDigits, List.takeWhile_append_of_pos every, List.dropWhile_append_of_pos every, nothing.1,
    nothing.2, List.append_nil, if_neg filled]

/-- The digits of a number, where a member ends. -/
theorem scanNumber_toDigits {n : Nat} (positive : 0 < n) {rest : List Char} (follows : Follows rest) :
    scanNumber (Nat.toDigits 10 n ++ rest) = some (Nat.toDigits 10 n, rest) := by
  have every : ∀ c ∈ Nat.toDigits 10 n, c.isDigit = true := fun c member =>
    Nat.isDigit_of_mem_toDigits (by decide) (by decide) member
  have ends : ∀ c ∈ rest.head?, c.isDigit = false := by
    cases follows with
    | another => rintro c ⟨⟩; decide
    | ended => rintro c ⟨⟩; decide
  have whole := scanDigits_append Nat.toDigits_ne_nil every ends
  have after : scanFraction rest = some ([], rest) ∧ scanExponent rest = some ([], rest) := by
    cases follows with
    | another => exact ⟨rfl, rfl⟩
    | ended => exact ⟨rfl, rfl⟩
  obtain ⟨c, digits, is, first⟩ := toDigits_head positive
  rw [is] at every whole ⊢
  rw [List.cons_append] at whole ⊢
  have unsigned : scanUnsigned (c :: (digits ++ rest)) = some (c :: digits, rest) := by
    rw [scanUnsigned, whole]
    · simp [after]
    · intro rest' head
      exact first (List.head_eq_of_cons_eq head)
  rw [scanNumber]
  · exact unsigned
  · intro rest' head
    have digit := every c List.mem_cons_self
    rw [List.head_eq_of_cons_eq head] at digit
    exact absurd digit (by decide)

theorem value_of_digit {c : Char} (digit : c.isDigit = true) (fuel depth : Nat) (rest : List Char) :
    value (fuel + 1) depth (c :: rest) =
      (scanNumber (c :: rest)).map fun read => (.number read.1, read.2) := by
  have space : isSpace c = false := by
    rw [isSpace, List.contains_eq_mem, decide_eq_false_iff_not]
    intro member
    simp only [List.mem_cons, List.not_mem_nil, or_false] at member
    rcases member with rfl | rfl | rfl | rfl <;> exact absurd digit (by decide)
  rw [value, skipSpace_of_not_space space]
  have other {x : Char} {more : List Char} (head : c :: rest = x :: more) (no : x.isDigit = false) :
      False := by
    rw [List.head_eq_of_cons_eq head, no] at digit
    cases digit
  split
  · rename_i head
    exact (other head (by decide)).elim
  · rename_i head
    exact (other head (by decide)).elim
  · rename_i head
    exact (other head (by decide)).elim
  · rename_i head
    exact (other head (by decide)).elim
  · rename_i head
    exact (other head (by decide)).elim
  · rename_i head
    exact (other head (by decide)).elim
  · rfl

theorem reads_ofNat (name : String) {n : Nat} (positive : 0 < n) : (Written.ofNat name n).Reads := by
  intro fuel depth rest follows
  have scanned := scanNumber_toDigits positive follows
  obtain ⟨c, digits, is, -⟩ := toDigits_head positive
  have digit : c.isDigit = true := by
    have member : c ∈ Nat.toDigits 10 n := is ▸ List.mem_cons_self
    exact Nat.isDigit_of_mem_toDigits (by decide) (by decide) member
  unfold Written.ofNat
  dsimp only
  rw [is, List.cons_append] at scanned ⊢
  rw [value_of_digit digit, scanned]
  rfl

/-! ### Structures of texts -/

/-- The fields that are written. -/
def writtenFields (fields : List Field) : List (String × String) :=
  (fields.filter fun f => ! (f.omitempty && f.value == "")).map fun f => (f.name, f.value)

theorem toList_object (fields : List Field) :
    (object fields).toList = '\x7b' :: ([','].intercalate
      (((writtenFields fields).map fun f => Written.ofString f.1 f.2).map Written.member) ++ ['\x7d']) := by
  have marks : "\x7b".toList = ['\x7b'] ∧ "\x7d".toList = ['\x7d'] ∧ ",".toList = [','] ∧
      ":".toList = [':'] :=
    ⟨rfl, rfl, rfl, rfl⟩
  have texts : ((fields.filter fun f => ! (f.omitempty && f.value == "")).map fun f =>
      quote f.name ++ ":" ++ quote f.value).map String.toList =
        ((writtenFields fields).map fun f => Written.ofString f.1 f.2).map Written.member := by
    rw [writtenFields, List.map_map, List.map_map, List.map_map]
    refine List.map_congr_left fun f _ => ?_
    change (quote f.name ++ ":" ++ quote f.value).toList = (Written.ofString f.name f.value).member
    rw [String.toList_append, String.toList_append, List.append_assoc, marks.2.2.2, List.singleton_append,
      Written.member, Written.ofString]
  rw [object, String.toList_append, String.toList_append, String.toList_intercalate, texts, marks.1,
    marks.2.1, marks.2.2.1, List.append_assoc, List.singleton_append]

/-- **A structure of texts is read back, without the fields that are left out.** -/
theorem parse_object (fields : List Field) :
    parse (object fields) =
      some (.object ((writtenFields fields).map fun member => (member.1, .string member.2))) := by
  rw [parse_written _ (toList_object fields), List.map_map]
  · rfl
  · intro m member
    obtain ⟨f, -, rfl⟩ := List.mem_map.mp member
    exact reads_ofString f.1 f.2

end GoJson
