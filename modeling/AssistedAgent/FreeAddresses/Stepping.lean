/-
**Stepping through addresses: `inc` and `incSubnet` are exact modular additions.**

Both functions walk the byte slice from a low-order byte towards the front and carry by hand. For a
slice of any length, read as a big-endian number:

* **`beNat_inc`** — `inc` adds one, modulo what the slice can hold;
* **`beNat_incSubnet`** — `incSubnet` with mask `mask` adds `2 ^ (8 L - mask)`, whatever the bytes
  below the mask are, with the carry running to the front.

**`stepping_exact`** says both at once, and that a multiple of the size of a subnet stays one. For the
four bytes of an IPv4 address, `inc_toBytes` and `incSubnet_toBytes` say the same about the number
itself.
-/

import AssistedAgent.Lib.GoNet

namespace AssistedAgent.FreeAddresses

open Bytes GoNet

/-! ### The functions -/

/-- The loop of `inc`, on the bytes from the last one to the first. -/
def incFrom : List UInt8 → List UInt8
  | [] => []
  | b :: rest => if b + 1 > 0 then (b + 1) :: rest else (b + 1) :: incFrom rest

def inc (ip : IP) : IP := (incFrom ip.reverse).reverse

/-- `incSubnet`; `none` where `ip[start]` is out of range. -/
def incSubnet (ip : IP) (mask : Nat) : Option IP :=
  if mask = 0 then some ip
  else
    let start := (mask - 1) / 8
    let add : UInt8 := 1 <<< UInt8.ofNat (7 - (mask - 1) % 8)
    match ip.drop start with
    | [] => none
    | prev :: rest =>
      -- the carry loop over `ip[start-1] .. ip[0]` is the loop of `inc`
      let before := if prev + add < prev then inc (ip.take start) else ip.take start
      some (before ++ (prev + add) :: rest)

/-! ### `inc` -/

theorem length_incFrom (bs : List UInt8) : (incFrom bs).length = bs.length := by
  induction bs with
  | nil => rfl
  | cons b rest ih =>
    unfold incFrom
    split
    · rfl
    · rw [List.length_cons, ih, List.length_cons]

@[simp] theorem length_inc (ip : IP) : (inc ip).length = ip.length := by
  rw [inc, List.length_reverse, length_incFrom, List.length_reverse]

/-- A byte wraps to zero exactly at 255. -/
theorem byte_succ (b : UInt8) :
    (b + 1 > 0 → (b + 1).toNat = b.toNat + 1) ∧ (¬ b + 1 > 0 → (b + 1).toNat = 0 ∧ b.toNat = 255) := by
  have bound := b.toNat_lt
  have sum : (b + 1).toNat = (b.toNat + 1) % 256 := UInt8.toNat_add b 1
  have pos : b + 1 > 0 ↔ 0 < (b + 1).toNat := UInt8.lt_iff_toNat_lt
  constructor
  · intro grows
    rw [pos, sum] at grows
    rw [sum]
    omega
  · intro wraps
    rw [pos, sum] at wraps
    rw [sum]
    omega

/-- **`inc` adds one**, modulo what the slice can hold. -/
theorem beNat_inc (ip : IP) : beNat (inc ip) = (beNat ip + 1) % 256 ^ ip.length := by
  -- the loop reads the bytes backwards, so the induction is on the reversed slice
  induction ip using List.reverseRecOn with
  | nil => rfl
  | append_singleton front b ih =>
    have split : inc (front ++ [b]) =
        if b + 1 > 0 then front ++ [b + 1] else inc front ++ [b + 1] := by
      unfold inc
      rw [List.reverse_append, List.reverse_singleton, List.singleton_append, incFrom]
      split <;> simp
    have low := beNat_lt front
    have pos : 0 < 256 ^ front.length := Nat.pow_pos (by decide)
    rw [split, beNat_append, List.length_append, pow_add]
    simp only [List.length_singleton, pow_one, beNat_cons, beNat_nil, List.length_nil, pow_zero,
      Nat.mul_one, Nat.add_zero]
    split
    · rename_i grows
      have byte := (byte_succ b).1 grows
      have bound := (b + 1).toNat_lt
      rw [beNat_append]
      simp only [List.length_singleton, pow_one, beNat_cons, beNat_nil, List.length_nil, pow_zero,
        Nat.mul_one, Nat.add_zero]
      rw [Nat.mod_eq_of_lt (by omega)]
      omega
    · rename_i wraps
      have byte := (byte_succ b).2 wraps
      rw [beNat_append]
      simp only [List.length_singleton, pow_one, beNat_cons, beNat_nil, List.length_nil, pow_zero,
        Nat.mul_one, Nat.add_zero]
      rw [ih, byte.1, byte.2, show beNat front * 256 + 255 + 1 = (beNat front + 1) * 256 by ring,
        Nat.mul_mod_mul_right, Nat.add_zero]

/-! ### `incSubnet` -/

/-- The byte `incSubnet` adds, as a number. -/
theorem toNat_add_byte {k : Nat} (small : k < 8) :
    (1 <<< UInt8.ofNat (7 - k) : UInt8).toNat = 2 ^ (7 - k) := by
  have all : ∀ k : Fin 8, (1 <<< UInt8.ofNat (7 - k.val) : UInt8).toNat = 2 ^ (7 - k.val) := by
    decide
  exact all ⟨k, small⟩

/-- Adding to a byte overflows exactly if the sum is below the byte. -/
theorem byte_add (b add : UInt8) :
    (¬ b + add < b → (b + add).toNat = b.toNat + add.toNat) ∧
      (b + add < b → (b + add).toNat + 256 = b.toNat + add.toNat) := by
  have hb := b.toNat_lt
  have hadd := add.toNat_lt
  have sum : (b + add).toNat = (b.toNat + add.toNat) % 256 := UInt8.toNat_add b add
  rw [UInt8.lt_iff_toNat_lt, sum]
  constructor <;> intro h <;> omega

/-- `incSubnet` around the byte it adds to. -/
theorem incSubnet_append (front : List UInt8) (prev : UInt8) (rest : List UInt8) {k : Nat}
    (small : k < 8) :
    incSubnet (front ++ prev :: rest) (8 * front.length + k + 1) =
      let add : UInt8 := 1 <<< UInt8.ofNat (7 - k)
      some ((if prev + add < prev then inc front else front) ++ (prev + add) :: rest) := by
  have start : (8 * front.length + k + 1 - 1) / 8 = front.length := by omega
  have bit : (8 * front.length + k + 1 - 1) % 8 = k := by omega
  unfold incSubnet
  rw [if_neg (by omega)]
  simp only [start, bit, List.drop_left, List.take_left]

/-- A slice split around the byte at an index. -/
theorem exists_split {ip : IP} {start : Nat} (inside : start < ip.length) :
    ∃ front prev rest, ip = front ++ prev :: rest ∧ front.length = start :=
  ⟨ip.take start, ip[start], ip.drop (start + 1),
    by rw [← List.drop_eq_getElem_cons inside, List.take_append_drop],
    List.length_take_of_le inside.le⟩

/-- **`incSubnet` adds `2 ^ (8 L - mask)`**, modulo what the slice can hold. -/
theorem beNat_incSubnet (ip : IP) {mask : Nat} (pos : 1 ≤ mask) (fits : mask ≤ 8 * ip.length) :
    ∃ next, incSubnet ip mask = some next ∧ next.length = ip.length ∧
      beNat next = (beNat ip + 2 ^ (8 * ip.length - mask)) % 256 ^ ip.length := by
  obtain ⟨front, prev, rest, rfl, start⟩ := exists_split (show (mask - 1) / 8 < ip.length by omega)
  obtain ⟨k, small, rfl⟩ : ∃ k, k < 8 ∧ mask = 8 * front.length + k + 1 :=
    ⟨(mask - 1) % 8, by omega, by omega⟩
  have bytes := byte_add prev (1 <<< UInt8.ofNat (7 - k))
  rw [toNat_add_byte small] at bytes
  rw [incSubnet_append front prev rest small]
  simp only
  generalize prev + 1 <<< UInt8.ofNat (7 - k) = sum at bytes ⊢
  have low := beNat_lt rest
  have high := beNat_lt front
  have byte := sum.toNat_lt
  -- the added power and the modulus, in units of the byte at `start`
  have power : 2 ^ (8 * (front ++ prev :: rest).length - (8 * front.length + k + 1)) =
      2 ^ (7 - k) * 256 ^ rest.length := by
    rw [show (256 : Nat) = 2 ^ 8 by rfl, ← pow_mul, ← pow_add, List.length_append, List.length_cons]
    congr 1
    omega
  have modulus : 256 ^ (front ++ prev :: rest).length =
      256 ^ front.length * 256 * 256 ^ rest.length := by
    rw [List.length_append, List.length_cons]
    ring
  have value : ∀ (front' : List UInt8) (b : UInt8),
      beNat (front' ++ b :: rest) =
        (beNat front' * 256 + b.toNat) * 256 ^ rest.length + beNat rest := by
    intro front' b
    rw [beNat_append, beNat_cons, List.length_cons, pow_succ]
    ring
  refine ⟨_, rfl, ?_, ?_⟩
  · split <;> simp
  have total : beNat (front ++ prev :: rest) + 2 ^ (7 - k) * 256 ^ rest.length =
      (beNat front * 256 + (prev.toNat + 2 ^ (7 - k))) * 256 ^ rest.length + beNat rest := by
    rw [value]
    ring
  rw [power, modulus, total, value]
  by_cases overflow : sum < prev
  · rw [if_pos overflow, beNat_inc, ← bytes.2 overflow]
    have part : sum.toNat * 256 ^ rest.length + beNat rest < 256 * 256 ^ rest.length := by
      calc sum.toNat * 256 ^ rest.length + beNat rest
          < sum.toNat * 256 ^ rest.length + 256 ^ rest.length := by omega
        _ = (sum.toNat + 1) * 256 ^ rest.length := by ring
        _ ≤ 256 * 256 ^ rest.length := Nat.mul_le_mul_right _ (by omega)
    have carry := mul_add_mod_mul (beNat front + 1) (256 ^ front.length) part
    rw [show (beNat front * 256 + (sum.toNat + 256)) * 256 ^ rest.length + beNat rest =
      (beNat front + 1) * (256 * 256 ^ rest.length) +
        (sum.toNat * 256 ^ rest.length + beNat rest) by ring,
      Nat.mul_assoc (256 ^ front.length), carry]
    ring
  · rw [if_neg overflow, ← bytes.1 overflow, Nat.mod_eq_of_lt]
    calc (beNat front * 256 + sum.toNat) * 256 ^ rest.length + beNat rest
        < (beNat front * 256 + sum.toNat) * 256 ^ rest.length + 256 ^ rest.length := by omega
      _ = (beNat front * 256 + sum.toNat + 1) * 256 ^ rest.length := by ring
      _ ≤ 256 ^ front.length * 256 * 256 ^ rest.length := Nat.mul_le_mul_right _ (by omega)

/-! ### Exact stepping -/

/-- A power of two below the modulus divides what is left of a number that it divides. -/
theorem dvd_step {l mask v : Nat} (multiple : 2 ^ (8 * l - mask) ∣ v) :
    2 ^ (8 * l - mask) ∣ (v + 2 ^ (8 * l - mask)) % 256 ^ l := by
  have modulus : 2 ^ (8 * l - mask) ∣ 256 ^ l := by
    rw [show (256 : Nat) = 2 ^ 8 by rfl, ← pow_mul]
    exact pow_dvd_pow 2 (Nat.sub_le _ _)
  exact (Nat.dvd_mod_iff modulus).mpr (Nat.dvd_add multiple (Nat.dvd_refl _))

/-- **Stepping is exact modular addition**, for a slice of any length and every mask that it has. A
multiple of the size of a subnet stays one. -/
theorem stepping_exact (ip : IP) :
    ((inc ip).length = ip.length ∧ beNat (inc ip) = (beNat ip + 1) % 256 ^ ip.length) ∧
      ∀ mask, 1 ≤ mask → mask ≤ 8 * ip.length →
        ∃ next, incSubnet ip mask = some next ∧ next.length = ip.length ∧
          beNat next = (beNat ip + 2 ^ (8 * ip.length - mask)) % 256 ^ ip.length ∧
          (2 ^ (8 * ip.length - mask) ∣ beNat ip → 2 ^ (8 * ip.length - mask) ∣ beNat next) := by
  refine ⟨⟨length_inc ip, beNat_inc ip⟩, ?_⟩
  intro mask pos fits
  obtain ⟨next, stepped, len, value⟩ := beNat_incSubnet ip pos fits
  refine ⟨next, stepped, len, value, ?_⟩
  intro multiple
  rw [value]
  exact dvd_step multiple

/-- The carry of the second byte runs through the first one, and out of the slice. -/
theorem stepping_exact_wraps :
    incSubnet [255, 240, 7] 12 = some [0, 0, 7] ∧
      ∃ next, incSubnet [255, 240, 7] 12 = some next ∧ next.length = 3 ∧
        beNat next = (beNat [255, 240, 7] + 2 ^ 12) % 256 ^ 3 := by
  obtain ⟨next, stepped, len, value, -⟩ := (stepping_exact [255, 240, 7]).2 12 (by decide) (by decide)
  exact ⟨rfl, next, stepped, len, value⟩

/-! ### IPv4 addresses as numbers -/

theorem inc_toBytes (l v : Nat) : inc (toBytes l v) = toBytes l (v + 1) := by
  refine eq_toBytes_of_beNat (by simp) ?_
  rw [beNat_inc, beNat_toBytes, length_toBytes, Nat.mod_add_mod]

theorem incSubnet_toBytes (v : Nat) {mask : Nat} (pos : 1 ≤ mask) (le : mask ≤ 32) :
    incSubnet (toBytes 4 v) mask = some (toBytes 4 (v + 2 ^ (32 - mask))) := by
  obtain ⟨next, stepped, len, value⟩ := beNat_incSubnet (toBytes 4 v) pos (by simpa using le)
  rw [stepped]
  refine congrArg some (eq_toBytes_of_beNat (by simpa using len) ?_)
  rw [value, beNat_toBytes, length_toBytes, Nat.mod_add_mod]

end AssistedAgent.FreeAddresses
