/-
**Byte sequences: texts, big-endian numbers and prefix masks.**

* `beNat bs` — the number a byte sequence spells, most significant byte first; `toBytes l v` — the
  `l` low-order bytes of `v`. They are inverse to each other (`toBytes_beNat`, `beNat_toBytes`).
* `prefixMask l n` — the `l` bytes whose first `n` bits are set. **`beNat_and_prefixMask`**: masking
  clears the low `8 l - n` bits of the number. `and_prefixMask_eq_iff`: two sequences agree under
  the mask exactly if their numbers agree above these bits.
-/

import Mathlib.Data.Nat.Basic
import Mathlib.Tactic.Ring
import Mathlib.Tactic.IntervalCases
import Mathlib.Data.List.Induction

namespace Bytes

/-- The bytes of a text. -/
def utf8 (text : String) : List UInt8 := text.toByteArray.data.toList

/-! ### Big-endian numbers -/

/-- The number a byte sequence spells, most significant byte first. -/
def beNat : List UInt8 → Nat
  | [] => 0
  | b :: bs => b.toNat * 256 ^ bs.length + beNat bs

@[simp] theorem beNat_nil : beNat [] = 0 := rfl

@[simp] theorem beNat_cons (b : UInt8) (bs : List UInt8) :
    beNat (b :: bs) = b.toNat * 256 ^ bs.length + beNat bs := rfl

theorem beNat_lt (bs : List UInt8) : beNat bs < 256 ^ bs.length := by
  induction bs with
  | nil => simp
  | cons b bs ih =>
    have byte : b.toNat + 1 ≤ 256 := b.toNat_lt
    calc beNat (b :: bs) < b.toNat * 256 ^ bs.length + 256 ^ bs.length := by
          rw [beNat_cons]; omega
      _ = (b.toNat + 1) * 256 ^ bs.length := by ring
      _ ≤ 256 * 256 ^ bs.length := Nat.mul_le_mul_right _ byte
      _ = 256 ^ (b :: bs).length := by rw [List.length_cons, pow_succ]; ring

/-- The remainder of a number whose low part is below the block, by a multiple of the block. -/
theorem mul_add_mod_mul (high count : Nat) {low block : Nat} (small : low < block) :
    (high * block + low) % (count * block) = high % count * block + low := by
  have quotient : (high * block + low) / block = high := by
    rw [Nat.mul_comm, Nat.mul_add_div (by omega), Nat.div_eq_of_lt small, Nat.add_zero]
  have remainder : (high * block + low) % block = low := by
    rw [Nat.mul_comm, Nat.mul_add_mod, Nat.mod_eq_of_lt small]
  rw [Nat.mul_comm count, Nat.mod_mul, quotient, remainder, Nat.add_comm, Nat.mul_comm]

theorem beNat_append (xs ys : List UInt8) :
    beNat (xs ++ ys) = beNat xs * 256 ^ ys.length + beNat ys := by
  induction xs with
  | nil => simp
  | cons b bs ih =>
    rw [List.cons_append, beNat_cons, beNat_cons, ih, List.length_append, pow_add]
    ring

/-- The `l` low-order bytes of a number. -/
def toBytes : Nat → Nat → List UInt8
  | 0, _ => []
  | l + 1, v => UInt8.ofNat (v / 256 ^ l) :: toBytes l (v % 256 ^ l)

@[simp] theorem length_toBytes (l v : Nat) : (toBytes l v).length = l := by
  induction l generalizing v with
  | zero => rfl
  | succ l ih => rw [toBytes, List.length_cons, ih]

theorem beNat_toBytes (l v : Nat) : beNat (toBytes l v) = v % 256 ^ l := by
  induction l generalizing v with
  | zero => rw [toBytes, beNat_nil, pow_zero, Nat.mod_one]
  | succ l ih =>
    rw [toBytes, beNat_cons, length_toBytes, ih, Nat.mod_mod, UInt8.toNat_ofNat',
      show (2 : Nat) ^ 8 = 256 from rfl, pow_succ, Nat.mod_mul, Nat.add_comm, Nat.mul_comm]

theorem toBytes_beNat (bs : List UInt8) : toBytes bs.length (beNat bs) = bs := by
  induction bs with
  | nil => rfl
  | cons b bs ih =>
    have low := beNat_lt bs
    have pos : 0 < 256 ^ bs.length := Nat.pow_pos (by decide)
    have high : (b.toNat * 256 ^ bs.length + beNat bs) / 256 ^ bs.length = b.toNat := by
      rw [Nat.mul_comm, Nat.mul_add_div pos, Nat.div_eq_of_lt low, Nat.add_zero]
    have rest : (b.toNat * 256 ^ bs.length + beNat bs) % 256 ^ bs.length = beNat bs := by
      rw [Nat.mul_comm, Nat.mul_add_mod, Nat.mod_eq_of_lt low]
    rw [List.length_cons, toBytes, beNat_cons, high, rest, ih, UInt8.ofNat_toNat]

theorem beNat_injective {xs ys : List UInt8} (len : xs.length = ys.length)
    (same : beNat xs = beNat ys) : xs = ys := by
  rw [← toBytes_beNat xs, ← toBytes_beNat ys, len, same]

/-- A sequence of `l` bytes with the number of `v`, up to what `l` bytes can hold. -/
theorem eq_toBytes_of_beNat {bs : List UInt8} {l v : Nat} (len : bs.length = l)
    (same : beNat bs = v % 256 ^ l) : bs = toBytes l v := by
  refine beNat_injective (len.trans (length_toBytes l v).symm) ?_
  rw [same, beNat_toBytes]

/-! ### Prefix masks -/

/-- The bytes of a mask of `l` bytes whose first `n` bits are set. -/
def prefixMask : Nat → Nat → List UInt8
  | 0, _ => []
  | l + 1, n =>
    if 8 ≤ n then 0xff :: prefixMask l (n - 8)
    else (~~~(0xff >>> UInt8.ofNat n)) :: prefixMask l 0

@[simp] theorem length_prefixMask (l n : Nat) : (prefixMask l n).length = l := by
  induction l generalizing n with
  | zero => rfl
  | succ l ih =>
    unfold prefixMask
    split <;> rw [List.length_cons, ih]

/-- Bytewise conjunction. -/
def andBytes (xs ys : List UInt8) : List UInt8 := List.zipWith (· &&& ·) xs ys

theorem toNat_and_partial (b : UInt8) {n : Nat} (small : n < 8) :
    (b &&& ~~~(0xff >>> UInt8.ofNat n)).toNat = b.toNat / 2 ^ (8 - n) * 2 ^ (8 - n) := by
  have all : ∀ v : Fin 256, ∀ k : Fin 8,
      ((UInt8.ofNat v.val) &&& ~~~(0xff >>> UInt8.ofNat k.val)).toNat =
        v.val / 2 ^ (8 - k.val) * 2 ^ (8 - k.val) := by
    decide +kernel
  have here := all ⟨b.toNat, b.toNat_lt⟩ ⟨n, small⟩
  simpa using here

theorem and_full (b : UInt8) : b &&& 0xff = b := by
  apply UInt8.toNat_inj.mp
  rw [UInt8.toNat_and]
  exact Nat.and_two_pow_sub_one_of_lt_two_pow b.toNat_lt

@[simp] theorem length_andBytes_prefixMask (xs : List UInt8) (n : Nat) :
    (andBytes xs (prefixMask xs.length n)).length = xs.length := by
  simp [andBytes]

/-- Clearing low bits leaves a higher byte alone. -/
theorem clear_below (high v k j : Nat) :
    (high * 2 ^ (k + j) + v) / 2 ^ k * 2 ^ k = high * 2 ^ (k + j) + v / 2 ^ k * 2 ^ k := by
  rw [pow_add, show high * (2 ^ k * 2 ^ j) = 2 ^ k * (high * 2 ^ j) by ring,
    Nat.mul_add_div (Nat.pow_pos (by decide))]
  ring

/-- Clearing all bits of what is below a byte, and some of the byte. -/
theorem clear_above (high m : Nat) {v k : Nat} (low : v < 2 ^ k) :
    (high * 2 ^ k + v) / 2 ^ (m + k) * 2 ^ (m + k) = high / 2 ^ m * 2 ^ m * 2 ^ k := by
  have quotient : (high * 2 ^ k + v) / (2 ^ m * 2 ^ k) = high / 2 ^ m := by
    rw [Nat.mul_comm (2 ^ m), ← Nat.div_div_eq_div_mul, Nat.mul_comm high,
      Nat.mul_add_div (Nat.pow_pos (by decide)), Nat.div_eq_of_lt low, Nat.add_zero]
  rw [pow_add, quotient]
  ring

/-- **Masking clears the bits below the prefix.** -/
theorem beNat_and_prefixMask (xs : List UInt8) {n : Nat} (fits : n ≤ 8 * xs.length) :
    beNat (andBytes xs (prefixMask xs.length n)) =
      beNat xs / 2 ^ (8 * xs.length - n) * 2 ^ (8 * xs.length - n) := by
  induction xs generalizing n with
  | nil =>
    have zero : n = 0 := by simpa using fits
    subst zero
    rfl
  | cons b bs ih =>
    have base : (256 : Nat) ^ bs.length = 2 ^ (8 * bs.length) := by
      rw [show (256 : Nat) = 2 ^ 8 by rfl, ← pow_mul]
    have low : beNat bs < 2 ^ (8 * bs.length) := base ▸ beNat_lt bs
    simp only [List.length_cons] at fits ⊢
    rw [prefixMask]
    split
    · -- the mask covers the first byte, and the rest of it the rest
      have step : andBytes (b :: bs) (0xff :: prefixMask bs.length (n - 8)) =
          b :: andBytes bs (prefixMask bs.length (n - 8)) := by
        rw [andBytes, List.zipWith_cons_cons, and_full]
        rfl
      have exponent : 8 * (bs.length + 1) - n = 8 * bs.length - (n - 8) := by omega
      have split_ : 8 * bs.length = 8 * bs.length - (n - 8) + (n - 8) := by omega
      rw [step, beNat_cons, beNat_cons, length_andBytes_prefixMask, ih (by omega), exponent, base]
      conv_rhs => rw [split_, Nat.add_sub_cancel, clear_below]
      rw [← split_]
    · -- the mask ends in the first byte, and clears the rest
      have rest : beNat (andBytes bs (prefixMask bs.length 0)) = 0 := by
        rw [ih (by omega), Nat.sub_zero, Nat.div_eq_of_lt low, Nat.zero_mul]
      have step : andBytes (b :: bs) (~~~(0xff >>> UInt8.ofNat n) :: prefixMask bs.length 0) =
          (b &&& ~~~(0xff >>> UInt8.ofNat n)) :: andBytes bs (prefixMask bs.length 0) := rfl
      have exponent : 8 * (bs.length + 1) - n = (8 - n) + 8 * bs.length := by omega
      rw [step, beNat_cons, beNat_cons, length_andBytes_prefixMask, rest,
        toNat_and_partial b (by omega), exponent, base, clear_above _ _ low, Nat.add_zero]

/-- **Agreeing under a prefix mask is agreeing above the cleared bits.** -/
theorem and_prefixMask_eq_iff {xs ys : List UInt8} (len : xs.length = ys.length) {n : Nat}
    (fits : n ≤ 8 * ys.length) :
    andBytes xs (prefixMask ys.length n) = andBytes ys (prefixMask ys.length n) ↔
      beNat xs / 2 ^ (8 * ys.length - n) = beNat ys / 2 ^ (8 * ys.length - n) := by
  have pos : 0 < 2 ^ (8 * ys.length - n) := Nat.pow_pos (by decide)
  have left := beNat_and_prefixMask xs (n := n) (by rw [len]; exact fits)
  have right := beNat_and_prefixMask ys fits
  rw [len] at left
  constructor
  · intro same
    rw [same, right] at left
    exact (Nat.eq_of_mul_eq_mul_right pos left).symm
  · intro same
    refine beNat_injective ?_ ?_
    · simp [andBytes, len]
    · rw [left, right, same]

end Bytes
