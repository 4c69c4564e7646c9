/-
**The texts that `strconv.ParseFloat` accepts.**

`readFloat` reads a sign, digits of base 10 or, after `0x`, of base 16, with at most one dot, and an
exponent, which a hexadecimal number has to have. Underscores are skipped and their places are checked
at the end (`underscoreOK`). A text is accepted when all of it is read and the value rounds to a finite
number of 64 bits, or when it names an infinity or is not a number.

* **`isFloatChar_of_accepts`** — an accepted text is not empty and has letters, digits, signs, dots and
  underscores only.
-/

import Mathlib.Data.List.Basic
import Mathlib.Algebra.Ring.Nat

namespace GoFloat

def lower (c : Char) : Char := if c.isUpper then c.toLower else c

/-- The value of a digit. -/
def digitValue (base : Nat) (c : Char) : Option Nat :=
  if c.isDigit then some (c.toNat - '0'.toNat)
  else if base = 16 ∧ 'a' ≤ lower c ∧ lower c ≤ 'f' then some ((lower c).toNat - 'a'.toNat + 10)
  else none

/-- The digits so far: their value, how many stand after the dot, and what has been seen. -/
structure Mantissa where
  value : Nat
  fraction : Nat
  sawDot : Bool
  sawDigits : Bool
  underscores : Bool
deriving DecidableEq, Repr

def Mantissa.start : Mantissa := ⟨0, 0, false, false, false⟩

/-- The loop over the digits, up to the first character that is not one of them. -/
def scanMantissa (base : Nat) (m : Mantissa) : List Char → Mantissa × List Char
  | [] => (m, [])
  | c :: text =>
    if c = '_' then scanMantissa base { m with underscores := true } text
    else if c = '.' then
      if m.sawDot then (m, c :: text) else scanMantissa base { m with sawDot := true } text
    else
      match digitValue base c with
      | some d =>
        scanMantissa base
          { m with
            value := m.value * base + d
            fraction := if m.sawDot then m.fraction + 1 else m.fraction
            sawDigits := true }
          text
      | none => (m, c :: text)

/-- The digits of an exponent, whose value stops growing at ten thousand, and whether an underscore was
among them. -/
def scanExponent (e : Nat) (underscores : Bool) : List Char → Nat × Bool × List Char
  | [] => (e, underscores, [])
  | c :: text =>
    if c = '_' then scanExponent e true text
    else if c.isDigit then
      scanExponent (if e < 10000 then e * 10 + (c.toNat - '0'.toNat) else e) underscores text
    else (e, underscores, c :: text)

/-- `strconv.underscoreOK`: whether each underscore stands between digits, a base prefix counting as
one. `last` is what stood before: `^` for the start, `0` for a digit, `_`, and `!` for anything else. -/
def underscoresFrom (hex : Bool) (last : Char) : List Char → Bool
  | [] => last != '_'
  | c :: text =>
    if c.isDigit || (hex && 'a' ≤ lower c && lower c ≤ 'f') then underscoresFrom hex '0' text
    else if c = '_' then last == '0' && underscoresFrom hex '_' text
    else last != '_' && underscoresFrom hex '!' text

/-- The text after its sign. -/
def unsigned : List Char → List Char
  | [] => []
  | c :: text => if c = '+' ∨ c = '-' then text else c :: text

def underscoreOK (text : List Char) : Bool :=
  match unsigned text with
  | '0' :: x :: rest =>
    if lower x = 'b' ∨ lower x = 'o' ∨ lower x = 'x' then underscoresFrom (lower x == 'x') '0' rest
    else underscoresFrom false '^' ('0' :: x :: rest)
  | rest => underscoresFrom false '^' rest

/-- The base, and the text after its prefix. -/
def basePrefix : List Char → Nat × List Char
  | '0' :: x :: c :: rest => if lower x = 'x' then (16, c :: rest) else (10, '0' :: x :: c :: rest)
  | text => (10, text)

/-- A number that has been read: its digits, and the exponent with its sign. -/
structure Reading where
  base : Nat
  mantissa : Mantissa
  exponent : Int
deriving DecidableEq, Repr

def expChar (base : Nat) : Char := if base = 16 then 'p' else 'e'

/-- The sign of an exponent, and its digits. -/
def exponentSign : List Char → Bool × List Char
  | '+' :: rest => (false, rest)
  | '-' :: rest => (true, rest)
  | rest => (false, rest)

/-- The exponent after the digits; `none` where it is missing or has no digits. -/
def readExponent (base : Nat) (m : Mantissa) : List Char → Option (Reading × Bool × List Char)
  | [] => if base = 16 then none else some (⟨base, m, 0⟩, m.underscores, [])
  | c :: text =>
    if lower c = expChar base then
      let (negative, digits) := exponentSign text
      if (digits.head?.map Char.isDigit).getD false then
        let (e, underscores, rest) := scanExponent 0 m.underscores digits
        some (⟨base, m, if negative then - (e : Int) else e⟩, underscores, rest)
      else none
    else if base = 16 then none
    else some (⟨base, m, 0⟩, m.underscores, c :: text)

/-- `strconv.readFloat`, of a text that is read to its end. -/
def readFloat (text : List Char) : Option Reading :=
  let (base, digits) := basePrefix (unsigned text)
  let (m, rest) := scanMantissa base .start digits
  if ! m.sawDigits then none
  else
    match readExponent base m rest with
    | some (reading, underscores, []) =>
      if underscores && ! underscoreOK text then none else some reading
    | _ => none

/-- The least value that does not round to a finite number: half a unit beyond the largest one. -/
def overflow : Nat := 2 ^ 1024 - 2 ^ 970

/-- The value is below `overflow`. -/
def Reading.isFinite (r : Reading) : Bool :=
  let unit : Nat := if r.base = 16 then 2 else 10
  let digits : Int := if r.base = 16 then 4 * r.mantissa.fraction else r.mantissa.fraction
  let scale : Int := r.exponent - digits
  decide (r.mantissa.value * unit ^ scale.toNat < overflow * unit ^ (- scale).toNat)

/-- `strconv.special`, of a text that is read to its end. -/
def isSpecialValue (text : List Char) : Bool :=
  (unsigned text).map lower == "inf".toList || (unsigned text).map lower == "infinity".toList ||
    text.map lower == "nan".toList

/-- `strconv.ParseFloat` returns no error. -/
def accepts (s : String) : Bool :=
  isSpecialValue s.toList ||
    match readFloat s.toList with
    | some reading => reading.isFinite
    | none => false

example : accepts "30" = true ∧ accepts "-0x1.8p3" = true ∧ accepts "+Infinity" = true ∧
    accepts "1_0.5e2" = true := by decide +kernel

example : accepts "" = false ∧ accepts "0x1" = false ∧ accepts "1__0" = false ∧
    accepts "1e400" = false ∧ accepts "5 " = false := by decide +kernel

/-! ### The characters of an accepted text -/

def isFloatChar (c : Char) : Bool := c.isAlphanum || ['.', '_', '+', '-'].contains c

theorem isFloatChar_of_lower {c : Char} (low : isFloatChar (lower c) = true) : isFloatChar c = true := by
  unfold lower at low
  split at low
  · rename_i upper
    have alpha : c.isAlpha = true := Bool.or_eq_true_iff.mpr (.inl upper)
    simp [isFloatChar, Char.isAlphanum, alpha]
  · exact low

theorem isFloatChar_of_range {c : Char} (above : 'a' ≤ c) (below : c ≤ 'f') :
    isFloatChar c = true := by
  have isLower : c.isLower = true :=
    Bool.and_eq_true_iff.mpr ⟨decide_eq_true above, decide_eq_true (Char.le_trans below (by decide))⟩
  have alpha : c.isAlpha = true := Bool.or_eq_true_iff.mpr (.inr isLower)
  simp [isFloatChar, Char.isAlphanum, alpha]

theorem isFloatChar_of_isDigit {c : Char} (digit : c.isDigit = true) : isFloatChar c = true := by
  simp [isFloatChar, Char.isAlphanum, digit]

theorem isFloatChar_of_digitValue {base d : Nat} {c : Char} (digit : digitValue base c = some d) :
    isFloatChar c = true := by
  unfold digitValue at digit
  split at digit
  · exact isFloatChar_of_isDigit ‹_›
  · split at digit
    · rename_i hex
      exact isFloatChar_of_lower (isFloatChar_of_range hex.2.1 hex.2.2)
    · cases digit

/-- What a scanner has read has characters of a number only. -/
def Reads (text rest : List Char) : Prop := ∀ c ∈ text, c ∈ rest ∨ isFloatChar c = true

theorem Reads.cons {c : Char} {text rest : List Char} (first : isFloatChar c = true)
    (others : Reads text rest) : Reads (c :: text) rest := by
  intro x member
  rcases List.mem_cons.mp member with rfl | member
  · exact Or.inr first
  · exact others x member

theorem Reads.refl (text : List Char) : Reads text text := fun _ member => Or.inl member

theorem Reads.trans {text middle rest : List Char} (first : Reads text middle)
    (second : Reads middle rest) : Reads text rest := by
  intro c member
  rcases first c member with member | isChar
  · exact second c member
  · exact Or.inr isChar

theorem scanMantissa_reads (base : Nat) (m : Mantissa) (text : List Char) :
    Reads text (scanMantissa base m text).2 := by
  induction text generalizing m with
  | nil => exact .refl _
  | cons c text ih =>
    rw [scanMantissa]
    by_cases underscore : c = '_'
    · rw [if_pos underscore]
      exact .cons (by rw [underscore]; rfl) (ih _)
    rw [if_neg underscore]
    by_cases dot : c = '.'
    · rw [if_pos dot]
      split
      · exact .refl _
      · exact .cons (by rw [dot]; rfl) (ih _)
    rw [if_neg dot]
    split
    · rename_i d digit
      exact .cons (isFloatChar_of_digitValue digit) (ih _)
    · exact .refl _

theorem scanExponent_reads (e : Nat) (underscores : Bool) (text : List Char) :
    Reads text (scanExponent e underscores text).2.2 := by
  induction text generalizing e underscores with
  | nil => exact .refl _
  | cons c text ih =>
    rw [scanExponent]
    by_cases underscore : c = '_'
    · rw [if_pos underscore]
      exact .cons (by rw [underscore]; rfl) (ih _ _)
    rw [if_neg underscore]
    by_cases digit : c.isDigit = true
    · rw [if_pos digit]
      exact .cons (isFloatChar_of_isDigit digit) (ih _ _)
    · rw [if_neg digit]
      exact .refl _

theorem unsigned_reads (text : List Char) : Reads text (unsigned text) := by
  cases text with
  | nil => exact .refl _
  | cons c text =>
    rw [unsigned]
    split
    · rename_i sign
      exact .cons (by rcases sign with rfl | rfl <;> rfl) (.refl _)
    · exact .refl _

theorem basePrefix_reads (text : List Char) : Reads text (basePrefix text).2 := by
  unfold basePrefix
  split
  · rename_i x c rest
    split
    · rename_i isX
      exact .cons rfl (.cons (isFloatChar_of_lower (by rw [isX]; rfl)) (.refl _))
    · exact .refl _
  · exact .refl _

theorem exponentSign_reads (text : List Char) : Reads text (exponentSign text).2 := by
  unfold exponentSign
  split
  · exact .cons rfl (.refl _)
  · exact .cons rfl (.refl _)
  · exact .refl _

theorem readExponent_reads {base : Nat} {m : Mantissa} {text rest : List Char} {reading : Reading}
    {underscores : Bool} (read : readExponent base m text = some (reading, underscores, rest)) :
    Reads text rest := by
  cases text with
  | nil => exact fun c member => absurd member List.not_mem_nil
  | cons c text =>
    rw [readExponent] at read
    by_cases isExponent : lower c = expChar base
    · rw [if_pos isExponent] at read
      have mark : isFloatChar c = true := by
        apply isFloatChar_of_lower
        rw [isExponent, expChar]
        split <;> rfl
      dsimp only at read
      split at read
      · cases read
        exact .cons mark ((exponentSign_reads text).trans (scanExponent_reads _ _ _))
      · cases read
    · rw [if_neg isExponent] at read
      split at read
      · cases read
      · cases read
        exact .refl _

/-- **An accepted text is not empty, and has the characters of a number only.** -/
theorem isFloatChar_of_accepts {s : String} (accepted : accepts s = true) :
    s.toList ≠ [] ∧ ∀ c ∈ s.toList, isFloatChar c = true := by
  refine ⟨?_, ?_⟩
  · intro empty
    rw [accepts, empty] at accepted
    exact absurd accepted (by decide)
  · unfold accepts at accepted
    generalize s.toList = text at accepted ⊢
    rcases Bool.or_eq_true_iff.mp accepted with special | read
    · have named : ∀ (l : List Char) (name : String), l.map lower = name.toList →
          (∀ c ∈ name.toList, isFloatChar c = true) → ∀ c ∈ l, isFloatChar c = true := by
        intro l name same letters c member
        exact isFloatChar_of_lower (letters _ (same ▸ List.mem_map_of_mem member))
      simp only [isSpecialValue, Bool.or_eq_true, beq_iff_eq] at special
      intro c member
      rcases special with (inf | infinity) | nan
      · rcases unsigned_reads text c member with member | isChar
        · exact named _ _ inf (List.all_eq_true.mp (by decide)) c member
        · exact isChar
      · rcases unsigned_reads text c member with member | isChar
        · exact named _ _ infinity (List.all_eq_true.mp (by decide)) c member
        · exact isChar
      · exact named _ _ nan (List.all_eq_true.mp (by decide)) c member
    · intro c member
      split at read
      · rename_i reading found
        unfold readFloat at found
        dsimp only at found
        split at found
        · cases found
        split at found
        · rename_i reading' underscores exponent
          have all := (unsigned_reads text).trans ((basePrefix_reads _).trans
            ((scanMantissa_reads _ .start _).trans (readExponent_reads exponent)))
          exact (all c member).resolve_left List.not_mem_nil
        · cases found
      · cases read

end GoFloat
