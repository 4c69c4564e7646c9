/-
**`strconv.ParseInt` in base 10 with 64 bits.**

The value is returned beside the error: zero for a text that is no number, and the largest or the
smallest number for one that is out of range.

* **`parseInt64_digits`** — a text of digits is the number that they stand for, or out of range.
* `parseInt64_toDigits` — so the text of a number is read back.
-/

import Mathlib.Algebra.Ring.Int.Defs
import Mathlib.Algebra.Ring.Nat

namespace GoStrconv

inductive NumError
  | malformed
  | range
deriving DecidableEq, Repr

/-- `strconv.ParseUint` after the digits that `n` stands for. A number that has become too large is out
of range whatever follows. -/
def parseUint64 (n : Nat) : List Char → Nat × Option NumError
  | [] => (n, none)
  | c :: rest =>
    if c.isDigit then
      if 2 ^ 64 ≤ n * 10 + (c.toNat - '0'.toNat) then (2 ^ 64 - 1, some .range)
      else parseUint64 (n * 10 + (c.toNat - '0'.toNat)) rest
    else (0, some .malformed)

/-- The sign of a number, and its digits. -/
def splitSign : List Char → Bool × List Char
  | '-' :: digits => (true, digits)
  | '+' :: digits => (false, digits)
  | digits => (false, digits)

def parseInt64 (text : List Char) : Int × Option NumError :=
  match splitSign text with
  | (negative, digits) =>
    if digits = [] then (0, some .malformed)
    else
      match parseUint64 0 digits with
      | (_, some .malformed) => (0, some .malformed)
      | (un, _) =>
        if negative then
          if 2 ^ 63 < un then (-2 ^ 63, some .range) else (-un, none)
        else if 2 ^ 63 ≤ un then (2 ^ 63 - 1, some .range)
        else (un, none)

example : parseInt64 "-9223372036854775809".toList = (-2 ^ 63, some .range) := by decide +kernel

theorem parseInt64_lt {text : List Char} {n : Int} {err : Option NumError}
    (parsed : parseInt64 text = (n, err)) : n < 2 ^ 63 := by
  obtain rfl : (parseInt64 text).1 = n := congrArg Prod.fst parsed
  unfold parseInt64
  dsimp only
  split
  · decide
  · split
    · decide
    · split
      · split
        · decide
        · show -(_ : Int) < _
          omega
      · split
        · decide
        · show ((_ : Nat) : Int) < _
          omega

/-! ### Texts of digits -/

theorem le_ofDigitChars (text : List Char) (n : Nat) : n ≤ Nat.ofDigitChars 10 text n := by
  induction text generalizing n with
  | nil => exact Nat.le_refl n
  | cons c text ih =>
    rw [Nat.ofDigitChars_cons]
    refine Nat.le_trans ?_ (ih _)
    omega

theorem parseUint64_digits {text : List Char} (digits : ∀ c ∈ text, c.isDigit = true) {n : Nat}
    (small : n < 2 ^ 64) :
    parseUint64 n text =
      if Nat.ofDigitChars 10 text n < 2 ^ 64 then (Nat.ofDigitChars 10 text n, none)
      else (2 ^ 64 - 1, some .range) := by
  induction text generalizing n with
  | nil => exact (if_pos small).symm
  | cons c text ih =>
    obtain ⟨here, later⟩ := List.forall_mem_cons.mp digits
    rw [parseUint64, if_pos here, Nat.ofDigitChars_cons, Nat.mul_comm n 10]
    by_cases next : 2 ^ 64 ≤ 10 * n + (c.toNat - '0'.toNat)
    · -- The number only grows.
      have grown := le_ofDigitChars text (10 * n + (c.toNat - '0'.toNat))
      rw [if_pos next, if_neg (by omega)]
    · rw [if_neg next, ih later (by omega)]

theorem splitSign_digits {text : List Char} (digits : ∀ c ∈ text, c.isDigit = true) :
    splitSign text = (false, text) := by
  unfold splitSign
  split
  · exact absurd (digits '-' List.mem_cons_self) (by decide)
  · exact absurd (digits '+' List.mem_cons_self) (by decide)
  · rfl

/-- **A text of digits.** -/
theorem parseInt64_digits {text : List Char} (filled : text ≠ [])
    (digits : ∀ c ∈ text, c.isDigit = true) :
    parseInt64 text =
      if Nat.ofDigitChars 10 text 0 < 2 ^ 63 then ((Nat.ofDigitChars 10 text 0 : Int), none)
      else (2 ^ 63 - 1, some .range) := by
  rw [parseInt64, splitSign_digits digits]
  dsimp only
  rw [if_neg filled, parseUint64_digits digits (by decide)]
  by_cases fits : Nat.ofDigitChars 10 text 0 < 2 ^ 64
  · rw [if_pos fits]
    by_cases signed : Nat.ofDigitChars 10 text 0 < 2 ^ 63
    · rw [if_pos signed]
      exact if_neg (Nat.not_le.mpr signed)
    · rw [if_neg signed]
      exact if_pos (Nat.le_of_not_lt signed)
  · rw [if_neg fits, if_neg (by omega)]
    rfl

/-- The text of a number is read back. -/
theorem parseInt64_toDigits {n : Nat} (small : n < 2 ^ 63) :
    parseInt64 (Nat.toDigits 10 n) = ((n : Int), none) := by
  rw [parseInt64_digits Nat.toDigits_ne_nil fun c member =>
    Nat.isDigit_of_mem_toDigits (by decide) (by decide) member, Nat.ofDigitChars_ten_toDigits,
    if_pos small]

end GoStrconv
