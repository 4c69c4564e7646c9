/-
**IPv6 texts parse back.**

An IPv6 address is printed as its groups in hexadecimal, with the first of the longest runs of zero
groups left out (`string6`), and parsed group by group around the ellipsis.

* `scanHex_toDigits`, `parseIPv6Groups_end`, `parseIPv6Groups_gap` — how one group, groups up to the end
  and groups up to the ellipsis are read.
* `zeroRun_spec` — the groups that are left out are zero.
* **`parseAddr_string6`** — the text of an IPv6 address parses back to it.
* **`parseCIDR_ipString`** — so does that of an address of either family with a prefix length, up to the
  form of an IPv4 address, which `contains` does not depend on (`contains_normalIP`).
-/

import AssistedAgent.Lib.GoNetText

namespace GoNet

open Bytes

/-! ### Groups -/

/-- The text of groups with colons between them. -/
def hexGroups (gs : List Nat) : List Char := [':'].intercalate (gs.map (Nat.toDigits 16))

/-- The bytes of groups. -/
def groupBytes (gs : List Nat) : List UInt8 := gs.flatMap (toBytes 2)

theorem length_groupBytes (gs : List Nat) : (groupBytes gs).length = 2 * gs.length := by
  induction gs with
  | nil => rfl
  | cons g gs ih =>
    rw [groupBytes, List.flatMap_cons, List.length_append, length_toBytes, List.length_cons]
    change 2 + (groupBytes gs).length = _
    omega

theorem groupBytes_append (gs hs : List Nat) : groupBytes (gs ++ hs) = groupBytes gs ++ groupBytes hs :=
  List.flatMap_append

theorem groupBytes_zeros (n : Nat) : groupBytes (List.replicate n 0) = List.replicate (2 * n) 0 := by
  induction n with
  | zero => rfl
  | succ n ih =>
    rw [List.replicate_succ, groupBytes, List.flatMap_cons]
    change [0, 0] ++ groupBytes (List.replicate n 0) = _
    rw [ih, Nat.mul_succ]
    rfl

/-- The groups of an address give its bytes back. -/
theorem groups_spec {n : Nat} {bytes : List UInt8} (len : bytes.length = 2 * n) :
    (groups bytes).length = n ∧ (∀ g ∈ groups bytes, g < 16 ^ 4) ∧ groupBytes (groups bytes) = bytes := by
  induction n generalizing bytes with
  | zero =>
    rw [List.eq_nil_of_length_eq_zero len]
    exact ⟨rfl, nofun, rfl⟩
  | succ n ih =>
    match bytes, len with
    | a :: b :: rest, len =>
      have shorter : rest.length = 2 * n := by
        rw [List.length_cons, List.length_cons] at len
        omega
      obtain ⟨count, small, back⟩ := ih shorter
      have pair : toBytes 2 (a.toNat * 256 + b.toNat) = [a, b] := by
        have bytes := toBytes_beNat [a, b]
        simpa [beNat] using bytes
      refine ⟨?_, ?_, ?_⟩
      · rw [groups, List.length_cons, count]
      · intro g member
        rw [groups] at member
        rcases List.mem_cons.mp member with rfl | later
        · have high := a.toNat_lt
          have low := b.toNat_lt
          omega
        · exact small g later
      · rw [groups, groupBytes, List.flatMap_cons, pair]
        exact congrArg ([a, b] ++ ·) back

/-! ### One group -/

theorem hexDigit_digitChar : ∀ d < 16, hexDigit d.digitChar = some d := by decide

theorem scanHex_cons {c : Char} {d n v : Nat} {s rest : List Char} (digit : hexDigit c = some d)
    (later : scanHex s = (n, v, rest)) : scanHex (c :: s) = (n + 1, d * 16 ^ n + v, rest) := by
  rw [scanHex, digit, later]

/-- **A number in hexadecimal before a text.** -/
theorem scanHex_toDigits (g : Nat) {n v : Nat} {s rest : List Char} (later : scanHex s = (n, v, rest)) :
    scanHex (Nat.toDigits 16 g ++ s) = ((Nat.toDigits 16 g).length + n, g * 16 ^ n + v, rest) := by
  induction g using Nat.strong_induction_on generalizing n v s with
  | _ g ih =>
    by_cases small : g < 16
    · rw [Nat.toDigits_of_lt_base small, Nat.add_comm]
      exact scanHex_cons (hexDigit_digitChar g small) later
    · have last := scanHex_cons (hexDigit_digitChar (g % 16) (Nat.mod_lt _ (by decide))) later
      have smaller : g / 16 < g := Nat.div_lt_self (by omega) (by decide)
      rw [Nat.toDigits_of_base_le (by decide) (Nat.le_of_not_lt small), List.append_assoc,
        List.singleton_append, ih _ smaller last, List.length_append, List.length_singleton]
      have value : g / 16 * 16 ^ (n + 1) + (g % 16 * 16 ^ n + v) = g * 16 ^ n + v := by
        calc g / 16 * 16 ^ (n + 1) + (g % 16 * 16 ^ n + v)
            = (16 * (g / 16) + g % 16) * 16 ^ n + v := by ring
          _ = g * 16 ^ n + v := by rw [Nat.div_add_mod]
      rw [value, Nat.add_right_comm, Nat.add_assoc]

theorem hexDigit_of_mem_toDigits {g : Nat} : ∀ c ∈ Nat.toDigits 16 g, (hexDigit c).isSome = true := by
  induction g using Nat.strong_induction_on with
  | _ g ih =>
    intro c member
    by_cases small : g < 16
    · rw [Nat.toDigits_of_lt_base small, List.mem_singleton] at member
      rw [member, hexDigit_digitChar g small]
      rfl
    · rw [Nat.toDigits_of_base_le (by decide) (Nat.le_of_not_lt small)] at member
      rcases List.mem_append.mp member with first | last
      · exact ih _ (Nat.div_lt_self (by omega) (by decide)) c first
      · rw [List.mem_singleton.mp last, hexDigit_digitChar _ (Nat.mod_lt _ (by decide))]
        rfl

/-- A text of groups begins with a digit. -/
theorem hexGroups_head {gs : List Nat} (filled : gs ≠ []) (rest : List Char) :
    ∃ c tail, hexGroups gs ++ rest = c :: tail ∧ (hexDigit c).isSome = true := by
  obtain ⟨g, gs, rfl⟩ := List.exists_cons_of_ne_nil filled
  obtain ⟨c, digits, is⟩ := List.exists_cons_of_ne_nil (Nat.toDigits_ne_nil (b := 16) (n := g))
  have digit : (hexDigit c).isSome = true :=
    hexDigit_of_mem_toDigits (g := g) c (is ▸ List.mem_cons_self)
  cases gs with
  | nil =>
    refine ⟨c, digits ++ rest, ?_, digit⟩
    rw [hexGroups, List.map_cons, List.map_nil, List.intercalate_singleton, is, List.cons_append]
  | cons g' gs =>
    refine ⟨c, digits ++ [':'] ++ hexGroups (g' :: gs) ++ rest, ?_, digit⟩
    rw [hexGroups, List.map_cons, List.map_cons, List.intercalate_cons_cons, is]
    rfl

theorem hexGroups_cons_cons (g g' : Nat) (gs : List Nat) :
    hexGroups (g :: g' :: gs) = Nat.toDigits 16 g ++ ':' :: hexGroups (g' :: gs) := by
  rw [hexGroups, List.map_cons, List.map_cons, List.intercalate_cons_cons, List.append_assoc]
  rfl

/-- A group before something other than a digit, and that it has one to four digits. -/
theorem scanHex_group {g : Nat} (small : g < 16 ^ 4) (rest : List Char)
    (stops : scanHex rest = (0, 0, rest)) :
    scanHex (Nat.toDigits 16 g ++ rest) = ((Nat.toDigits 16 g).length, g, rest) ∧
      ¬ ((Nat.toDigits 16 g).length = 0 ∨ 4 < (Nat.toDigits 16 g).length) := by
  refine ⟨?_, ?_⟩
  · rw [scanHex_toDigits g stops, Nat.pow_zero, Nat.mul_one, Nat.add_zero, Nat.add_zero]
  · have least : 0 < (Nat.toDigits 16 g).length := Nat.length_toDigits_pos
    have most := (Nat.length_toDigits_le_iff (b := 16) (n := g) (k := 4) (by decide) (by decide)).mpr small
    omega

/-! ### The rounds -/

section Rounds

variable {g rounds : Nat} {ip : List UInt8} {ellipsis : Option Nat}

/-- The last group. -/
theorem parseIPv6Groups_last (small : g < 16 ^ 4) (short : ip.length < 16) :
    parseIPv6Groups (rounds + 1) ip ellipsis (Nat.toDigits 16 g) =
      some (ip ++ toBytes 2 g, ellipsis, []) := by
  obtain ⟨scanned, counted⟩ := scanHex_group small [] rfl
  rw [List.append_nil] at scanned
  rw [parseIPv6Groups, if_neg (Nat.not_le.mpr short), scanned]
  exact if_neg counted

/-- A group before the ellipsis. -/
theorem parseIPv6Groups_ellipsis (small : g < 16 ^ 4) (short : ip.length < 16) (after : List Char) :
    parseIPv6Groups (rounds + 1) ip none (Nat.toDigits 16 g ++ ':' :: ':' :: after) =
      if after = [] then some (ip ++ toBytes 2 g, some (ip ++ toBytes 2 g).length, [])
      else parseIPv6Groups rounds (ip ++ toBytes 2 g) (some (ip ++ toBytes 2 g).length) after := by
  obtain ⟨scanned, counted⟩ := scanHex_group small (':' :: ':' :: after) rfl
  rw [parseIPv6Groups, if_neg (Nat.not_le.mpr short), scanned]
  exact if_neg counted

/-- A group before another one. -/
theorem parseIPv6Groups_next (small : g < 16 ^ 4) (short : ip.length < 16) {c : Char} {after : List Char}
    (digit : (hexDigit c).isSome = true) :
    parseIPv6Groups (rounds + 1) ip ellipsis (Nat.toDigits 16 g ++ ':' :: c :: after) =
      parseIPv6Groups rounds (ip ++ toBytes 2 g) ellipsis (c :: after) := by
  obtain ⟨scanned, counted⟩ := scanHex_group small (':' :: c :: after) rfl
  have other : c ≠ ':' := by
    rintro rfl
    cases digit
  rw [parseIPv6Groups, if_neg (Nat.not_le.mpr short), scanned]
  dsimp only
  rw [if_neg counted]
  split
  · rename_i is
    cases is
  · rename_i is
    cases is
  · rename_i is
    exact absurd (List.cons.inj (List.cons.inj is).2).1 other
  · rename_i is
    obtain ⟨rfl, rfl⟩ := List.cons.inj (List.cons.inj is).2
    rfl
  · rename_i not
    exact absurd rfl (not c after)

/-- **Groups up to the end of the text.** -/
theorem parseIPv6Groups_end {gs : List Nat} (filled : gs ≠ []) (small : ∀ g ∈ gs, g < 16 ^ 4)
    (fits : ip.length + 2 * gs.length ≤ 16) (enough : gs.length ≤ rounds) :
    parseIPv6Groups rounds ip ellipsis (hexGroups gs) = some (ip ++ groupBytes gs, ellipsis, []) := by
  induction gs generalizing rounds ip with
  | nil => exact absurd rfl filled
  | cons g gs ih =>
    rw [List.length_cons] at fits enough
    obtain ⟨rounds, rfl⟩ := Nat.exists_eq_succ_of_ne_zero (show rounds ≠ 0 by omega)
    have first := small g List.mem_cons_self
    cases gs with
    | nil =>
      rw [hexGroups, List.map_cons, List.map_nil, List.intercalate_singleton,
        parseIPv6Groups_last first (by omega), groupBytes, List.flatMap_cons, List.flatMap_nil,
        List.append_nil]
    | cons g' gs =>
      obtain ⟨c, tail, is, digit⟩ := hexGroups_head (List.cons_ne_nil g' gs) []
      rw [List.append_nil] at is
      have length : (ip ++ toBytes 2 g).length = ip.length + 2 := by
        rw [List.length_append, length_toBytes]
      rw [hexGroups_cons_cons, is, parseIPv6Groups_next first (by omega) digit, ← is,
        ih (List.cons_ne_nil g' gs) (fun h member => small h (List.mem_cons_of_mem g member))
          (by rw [length]; omega) (by omega), List.append_assoc]
      rfl

/-- **Groups up to the ellipsis.** -/
theorem parseIPv6Groups_gap {gs : List Nat} (filled : gs ≠ []) (small : ∀ g ∈ gs, g < 16 ^ 4)
    (fits : ip.length + 2 * gs.length ≤ 16) (after : List Char) :
    parseIPv6Groups (gs.length + rounds) ip none (hexGroups gs ++ ':' :: ':' :: after) =
      if after = [] then some (ip ++ groupBytes gs, some (ip ++ groupBytes gs).length, [])
      else parseIPv6Groups rounds (ip ++ groupBytes gs) (some (ip ++ groupBytes gs).length) after := by
  induction gs generalizing ip with
  | nil => exact absurd rfl filled
  | cons g gs ih =>
    rw [List.length_cons] at fits ⊢
    have first := small g List.mem_cons_self
    rw [Nat.add_right_comm]
    cases gs with
    | nil =>
      rw [hexGroups, List.map_cons, List.map_nil, List.intercalate_singleton,
        parseIPv6Groups_ellipsis first (by omega), groupBytes, List.flatMap_cons, List.flatMap_nil,
        List.append_nil, List.length_nil, Nat.zero_add]
    | cons g' gs =>
      obtain ⟨c, tail, is, digit⟩ := hexGroups_head (List.cons_ne_nil g' gs) (':' :: ':' :: after)
      have length : (ip ++ toBytes 2 g).length = ip.length + 2 := by
        rw [List.length_append, length_toBytes]
      rw [hexGroups_cons_cons, List.append_assoc, List.cons_append, is,
        parseIPv6Groups_next first (by omega) digit, ← is,
        ih (List.cons_ne_nil g' gs) (fun h member => small h (List.mem_cons_of_mem g member))
          (by rw [length]; omega), List.append_assoc]
      rfl

end Rounds

/-! ### The run of zeros -/

/-- **What is left out is zero.** -/
theorem zeroRun_spec (gs : List Nat) :
    (zeroRun gs).2 = 0 ∨
      (gs.drop (zeroRun gs).1).take (zeroRun gs).2 = List.replicate (zeroRun gs).2 0 := by
  refine List.foldlRecOn (List.range 8) _
    (motive := fun best : Nat × Nat =>
      best.2 = 0 ∨ (gs.drop best.1).take best.2 = List.replicate best.2 0)
    (Or.inl rfl) fun best spec i _ => ?_
  dsimp only
  split
  · refine Or.inr ?_
    have zeros : (gs.drop i).takeWhile (· = 0) =
        List.replicate ((gs.drop i).takeWhile (· = 0)).length 0 := by
      refine List.eq_replicate_of_mem fun g member => ?_
      have zero := List.mem_takeWhile_imp (p := fun a => decide (a = 0)) member
      exact of_decide_eq_true zero
    rw [← zeros]
    exact (List.prefix_iff_eq_take.mp (List.takeWhile_prefix _)).symm
  · exact spec

/-- The groups around the run. -/
theorem groups_around {gs : List Nat} (left : (zeroRun gs).2 ≠ 0) :
    gs = gs.take (zeroRun gs).1 ++ List.replicate (zeroRun gs).2 0 ++
      gs.drop ((zeroRun gs).1 + (zeroRun gs).2) := by
  rw [← (zeroRun_spec gs).resolve_left left, List.append_assoc, ← List.drop_drop,
    List.take_append_drop, List.take_append_drop]

/-! ### Addresses -/

theorem string6_eq (bytes : List UInt8) :
    string6 bytes =
      if (zeroRun (groups bytes)).2 = 0 then hexGroups (groups bytes)
      else hexGroups ((groups bytes).take (zeroRun (groups bytes)).1) ++
        ':' :: ':' :: hexGroups ((groups bytes).drop
          ((zeroRun (groups bytes)).1 + (zeroRun (groups bytes)).2)) := by
  change (if (zeroRun (groups bytes)).2 = 0 then _ else hexGroups _ ++ [':', ':'] ++ hexGroups _) = _
  rw [List.append_assoc]
  rfl

theorem groupsStart_of_digit {c : Char} {tail : List Char} (digit : (hexDigit c).isSome = true) :
    groupsStart (c :: tail) = (none, c :: tail) := by
  refine if_neg fun colons => ?_
  obtain rfl : c = ':' := (List.cons.inj colons).1
  cases digit

theorem parseGroups_plain {gs : List Nat} (count : gs.length = 8) (small : ∀ g ∈ gs, g < 16 ^ 4) :
    parseGroups (hexGroups gs) = some (groupBytes gs) := by
  have filled : gs ≠ [] := by
    rintro rfl
    cases count
  obtain ⟨c, tail, is, digit⟩ := hexGroups_head filled []
  rw [List.append_nil] at is
  have start : groupsStart (hexGroups gs) = (none, hexGroups gs) := is ▸ groupsStart_of_digit digit
  have read : parseIPv6Groups 8 [] none (hexGroups gs) = some (groupBytes gs, none, []) :=
    parseIPv6Groups_end filled small (by rw [count]; decide) (Nat.le_of_eq count)
  have sixteen : (groupBytes gs).length = 16 := by rw [length_groupBytes, count]
  rw [parseGroups, start, if_neg (fun both => Option.some_ne_none 0 both.1.symm), read]
  exact if_pos sixteen

/-- The bytes around the ellipsis, with zeros in its place. -/
theorem fill_ellipsis {as bs : List Nat} {n : Nat} (count : as.length + n + bs.length = 8) :
    (groupBytes as ++ groupBytes bs).take (groupBytes as).length ++
        List.replicate (16 - (groupBytes as ++ groupBytes bs).length) 0 ++
        (groupBytes as ++ groupBytes bs).drop (groupBytes as).length =
      groupBytes (as ++ List.replicate n 0 ++ bs) := by
  have zeros : 16 - (groupBytes as ++ groupBytes bs).length = 2 * n := by
    rw [List.length_append, length_groupBytes, length_groupBytes]
    omega
  rw [zeros, List.take_left' rfl, List.drop_left' rfl, groupBytes_append, groupBytes_append,
    groupBytes_zeros]

theorem parseGroups_ellipsis {as bs : List Nat} {n : Nat} (count : as.length + n + bs.length = 8)
    (left : n ≠ 0) (small : ∀ g ∈ as, g < 16 ^ 4) (small' : ∀ g ∈ bs, g < 16 ^ 4) :
    parseGroups (hexGroups as ++ ':' :: ':' :: hexGroups bs) =
      some (groupBytes (as ++ List.replicate n 0 ++ bs)) := by
  have short : (groupBytes as ++ groupBytes bs).length < 16 := by
    rw [List.length_append, length_groupBytes, length_groupBytes]
    omega
  have textless : hexGroups bs = [] ↔ bs = [] := by
    refine ⟨fun empty => ?_, fun empty => empty ▸ rfl⟩
    by_contra filled
    obtain ⟨c, tail, is, -⟩ := hexGroups_head filled []
    rw [empty] at is
    cases is
  by_cases first : as = []
  · subst first
    have start : groupsStart (hexGroups [] ++ ':' :: ':' :: hexGroups bs) = (some 0, hexGroups bs) := rfl
    rw [parseGroups, start]
    by_cases last : bs = []
    · subst last
      rw [if_pos ⟨rfl, rfl⟩, ← fill_ellipsis count]
      rfl
    · have read : parseIPv6Groups 8 [] (some 0) (hexGroups bs) = some (groupBytes bs, some 0, []) :=
        parseIPv6Groups_end last small' (by rw [List.length_nil] at count ⊢; omega) (by omega)
      rw [if_neg (fun both => last (textless.mp both.2)), read, ← fill_ellipsis count]
      exact if_pos short
  · obtain ⟨c, tail, is, digit⟩ := hexGroups_head first (':' :: ':' :: hexGroups bs)
    have start : groupsStart (hexGroups as ++ ':' :: ':' :: hexGroups bs) =
        (none, hexGroups as ++ ':' :: ':' :: hexGroups bs) := is ▸ groupsStart_of_digit digit
    have read : parseIPv6Groups 8 [] none (hexGroups as ++ ':' :: ':' :: hexGroups bs) =
        some (groupBytes as ++ groupBytes bs, some (groupBytes as).length, []) := by
      have rounds : 8 = as.length + (n + bs.length) := by omega
      rw [rounds, parseIPv6Groups_gap first small (by rw [List.length_nil]; omega), List.nil_append]
      split
      · rename_i empty
        have none : groupBytes [] = [] := rfl
        rw [textless.mp empty, none, List.append_nil]
      · rename_i filled
        refine parseIPv6Groups_end (mt textless.mpr filled) small' ?_ (by omega)
        rw [length_groupBytes]
        omega
    rw [parseGroups, start, if_neg (fun both => Option.some_ne_none 0 both.1.symm), read,
      ← fill_ellipsis count]
    exact if_pos short

theorem parseGroups_string6 {bytes : List UInt8} (sixteen : bytes.length = 16) :
    parseGroups (string6 bytes) = some bytes := by
  obtain ⟨count, small, back⟩ := groups_spec (n := 8) sixteen
  rw [string6_eq]
  split
  · rw [parseGroups_plain count small, back]
  · rename_i left
    have around := groups_around left
    have lengths := congrArg List.length around
    rw [count, List.length_append, List.length_append, List.length_replicate] at lengths
    rw [parseGroups_ellipsis lengths.symm left (fun g member => small g (List.mem_of_mem_take member))
      (fun g member => small g (List.mem_of_mem_drop member)), ← around, back]

/-! ### Texts -/

theorem hexGroups_chars (gs : List Nat) :
    ∀ c ∈ hexGroups gs, (hexDigit c).isSome = true ∨ c = ':' := by
  refine GoStrings.forall_mem_intercalate (List.forall_mem_singleton.mpr (.inr rfl)) fun digits member => ?_
  obtain ⟨g, -, rfl⟩ := List.mem_map.mp member
  exact fun c digit => Or.inl (hexDigit_of_mem_toDigits c digit)

/-- An IPv6 text is written with hex digits and colons. -/
theorem string6_chars (bytes : List UInt8) :
    ∀ c ∈ string6 bytes, (hexDigit c).isSome = true ∨ c = ':' := by
  intro c member
  rw [string6_eq] at member
  split at member
  · exact hexGroups_chars _ c member
  · rcases List.mem_append.mp member with first | later
    · exact hexGroups_chars _ c first
    rcases List.mem_cons.mp later with rfl | later
    · exact Or.inr rfl
    rcases List.mem_cons.mp later with rfl | later
    · exact Or.inr rfl
    exact hexGroups_chars _ c later

theorem not_mem_string6 {c : Char} (bytes : List UInt8) (digit : hexDigit c = none) (other : c ≠ ':') :
    c ∉ string6 bytes := by
  intro member
  rcases string6_chars bytes c member with isDigit | colon
  · rw [digit] at isDigit
    cases isDigit
  · exact other colon

theorem colon_mem_string6 {bytes : List UInt8} (sixteen : bytes.length = 16) : ':' ∈ string6 bytes := by
  obtain ⟨count, -, -⟩ := groups_spec (n := 8) sixteen
  rw [string6_eq]
  split
  · match groups bytes, count with
    | g :: g' :: gs, _ =>
      rw [hexGroups_cons_cons]
      exact List.mem_append_right _ List.mem_cons_self
  · exact List.mem_append_right _ List.mem_cons_self

/-- **An IPv6 text parses back.** -/
theorem parseAddr_string6 {bytes : List UInt8} (sixteen : bytes.length = 16) :
    parseAddr (string6 bytes) = some (.v6 bytes "") := by
  have family : (string6 bytes).find? (fun c => c = '.' ∨ c = ':' ∨ c = '%') = some ':' := by
    cases found : (string6 bytes).find? (fun c => c = '.' ∨ c = ':' ∨ c = '%') with
    | none =>
      have none := List.find?_eq_none.mp found ':' (colon_mem_string6 sixteen)
      simp at none
    | some c =>
      have member := List.mem_of_find?_eq_some found
      have isOne := List.find?_some found
      rw [decide_eq_true_eq] at isOne
      rcases isOne with rfl | rfl | rfl
      · exact absurd member (not_mem_string6 bytes rfl (by decide))
      · rfl
      · exact absurd member (not_mem_string6 bytes rfl (by decide))
  have zoneless : '%' ∉ string6 bytes := not_mem_string6 bytes rfl (by decide)
  have zone : zoneOf (string6 bytes) = [] := by
    have all : ∀ c ∈ string6 bytes, decide (c ≠ '%') = true := fun c member =>
      decide_eq_true fun is => zoneless (is ▸ member)
    rw [zoneOf, List.dropWhile_eq_nil_iff.mpr all, List.drop_nil]
  have parsed : parseIPv6 (string6 bytes) = some (bytes, "") := by
    rw [parseIPv6_eq, if_neg (fun both => zoneless both.1), addressOf_of_not_mem zoneless,
      parseGroups_string6 sixteen, zone]
    rfl
  unfold parseAddr
  rw [family]
  exact congrArg (Option.map _) parsed

/-- The form of an address that `contains` reads. -/
def normalIP (ip : IP) : IP := if to4 ip ≠ [] then to4 ip else ip

theorem contains_normalIP {n : IPNet} {a b : IP} (same : normalIP a = normalIP b) :
    contains n a = contains n b := by
  unfold normalIP at same
  unfold contains
  simp only [same]

theorem length_to4 {ip : IP} (v4 : to4 ip ≠ []) : (to4 ip).length = 4 := by
  unfold to4 at v4 ⊢
  split at v4
  · rename_i four
    rwa [if_pos four]
  split at v4
  · rename_i other mapped
    rw [if_neg other, if_pos mapped, List.length_drop, mapped.1]
  · exact absurd rfl v4

theorem ipString_of_to4 {ip : IP} (v4 : to4 ip ≠ []) :
    ipString ip = String.ofList (dotted (to4 ip)) := by
  have lengths : ip.length = 4 ∨ ip.length = 16 := by
    unfold to4 at v4
    split at v4
    · exact Or.inl ‹_›
    split at v4
    · rename_i mapped
      exact Or.inr mapped.1
    · exact absurd rfl v4
  have filled : ip ≠ [] := by
    rintro rfl
    exact v4 rfl
  rw [ipString, if_neg filled, if_neg (by omega), if_pos v4]

theorem ipString_v6 {ip : IP} (sixteen : ip.length = 16) (notV4 : to4 ip = []) :
    ipString ip = String.ofList (string6 ip) := by
  have filled : ip ≠ [] := by
    rintro rfl
    cases sixteen
  rw [ipString, if_neg filled, if_neg (by omega), if_neg (not_not.mpr notV4)]

/-- The text of an address with a prefix length. -/
theorem parseCIDR_of_parseAddr {s : List Char} {addr : Addr} {n : Nat} (parsed : parseAddr s = some addr)
    (slashless : '/' ∉ s) (zoneless : addr.zone = "") (le : n ≤ addr.bitLen) :
    parseCIDR (String.ofList s ++ "/" ++ Nat.repr n) =
      .ok (addr.as16, ⟨maskIP addr.as16 (cidrMask n addr.bitLen), cidrMask n addr.bitLen⟩) := by
  have text : (String.ofList s ++ "/" ++ Nat.repr n).toList = s ++ '/' :: Nat.toDigits 10 n := by
    simp [Nat.toList_repr]
  have before : ∀ c ∈ s, decide (c ≠ '/') = true := fun c member =>
    decide_eq_true fun is => slashless (is ▸ member)
  have address : (s ++ '/' :: Nat.toDigits 10 n).takeWhile (· ≠ '/') = s := by
    rw [List.takeWhile_append_of_pos before]
    simp
  have number : ((s ++ '/' :: Nat.toDigits 10 n).dropWhile (· ≠ '/')).drop 1 = Nat.toDigits 10 n := by
    rw [List.dropWhile_append_of_pos before]
    simp
  have small : n < 0xFFFFFF := by
    cases addr with
    | v4 bytes => exact Nat.lt_of_le_of_lt le (show 32 < 0xFFFFFF by decide)
    | v6 bytes zone => exact Nat.lt_of_le_of_lt le (show 128 < 0xFFFFFF by decide)
  unfold parseCIDR
  rw [text, if_neg (not_not.mpr (List.mem_append_right s List.mem_cons_self)), address, number, parsed,
    dtoi_toDigits small]
  exact if_pos ⟨zoneless, le⟩

/-- **An address of either family parses back from its text with a prefix length.** -/
theorem parseCIDR_ipString {ip : IP} {n : Nat}
    (family : (to4 ip ≠ [] ∧ n ≤ 32) ∨ (ip.length = 16 ∧ to4 ip = [] ∧ n ≤ 128)) :
    ∃ ip' net, parseCIDR (ipString ip ++ "/" ++ Nat.repr n) = .ok (ip', net) ∧
      normalIP ip' = normalIP ip := by
  rcases family with ⟨v4, le⟩ | ⟨sixteen, notV4, le⟩
  · have four := length_to4 v4
    have parsed := parseCIDR_of_parseAddr (parseAddr_dotted four) (slash_not_mem_dotted (to4 ip)) rfl le
    refine ⟨_, _, ipString_of_to4 v4 ▸ parsed, ?_⟩
    rw [normalIP, normalIP, if_pos v4]
    change (if to4 (v4InV6Prefix ++ to4 ip) ≠ [] then _ else _) = _
    rw [Addr.as16, to4_as16 four, if_pos v4]
  · have parsed := parseCIDR_of_parseAddr (parseAddr_string6 sixteen)
      (not_mem_string6 ip rfl (by decide)) rfl le
    exact ⟨ip, _, ipString_v6 sixteen notV4 ▸ parsed, rfl⟩

/-! ### Networks of IPv6 addresses -/

theorem length_of_parseGroups {s : List Char} {bytes : List UInt8}
    (parsed : parseGroups s = some bytes) : bytes.length = 16 := by
  unfold parseGroups at parsed
  split at parsed
  · cases parsed
    rfl
  split at parsed
  · split at parsed
    · rename_i ip e _ short
      cases parsed
      rw [List.length_append, List.length_append, List.length_replicate, List.length_take,
        List.length_drop]
      omega
    · cases parsed
  · split at parsed
    · cases parsed
      assumption
    · cases parsed
  · cases parsed

/-- The address of an accepted text, in either form. -/
theorem parseAddr_cases {s : List Char} {addr : Addr} (parsed : parseAddr s = some addr)
    (zoneless : addr.zone = "") :
    to4 addr.as16 ≠ [] ∨ (addr.as16.length = 16 ∧ ':' ∈ s) := by
  cases addr with
  | v4 bytes =>
    have four := length_of_parseAddr_v4 parsed
    have mapped : to4 (Addr.v4 bytes).as16 = bytes := to4_as16 four
    exact .inl (by rw [mapped]; exact ne_nil_of_length four)
  | v6 bytes zone =>
    refine .inr ?_
    unfold parseAddr at parsed
    split at parsed
    · obtain ⟨fields, -, other⟩ := Option.map_eq_some_iff.mp parsed
      cases other
    · rename_i colon
      obtain ⟨⟨ip, scope⟩, found, same⟩ := Option.map_eq_some_iff.mp parsed
      cases same
      obtain rfl : scope = "" := zoneless
      exact ⟨length_of_parseGroups (parseGroups_of_parseIPv6 found), List.mem_of_find?_eq_some colon⟩
    · cases parsed

/-- The address that a text with a prefix denotes. -/
def denoted (s : String) : IP := parseIP (String.ofList (s.toList.takeWhile (· ≠ '/')))

theorem denoted_of_parseCIDR {s : String} {ip : IP} {net : IPNet}
    (parsed : parseCIDR s = .ok (ip, net)) : denoted s = ip := by
  obtain ⟨addr, n, isAddr, -, zoneless, -, rfl, -⟩ := exists_of_parseCIDR parsed
  rw [denoted, parseIP, String.toList_ofList, isAddr]
  exact if_pos zoneless

/-- A network of an address that is not IPv4 is written with a colon. -/
theorem v6_of_parseCIDR {s : String} {ip : IP} {net : IPNet} (parsed : parseCIDR s = .ok (ip, net))
    (notV4 : to4 ip = []) : ip.length = 16 ∧ ':' ∈ s.toList := by
  obtain ⟨addr, n, isAddr, -, zoneless, -, rfl, -⟩ := exists_of_parseCIDR parsed
  obtain ⟨sixteen, colon⟩ := (parseAddr_cases isAddr zoneless).resolve_left (not_not.mpr notV4)
  exact ⟨sixteen, (List.takeWhile_sublist _).subset colon⟩

theorem networkNumberAndMask_v6 {ip : IP} {mask : IPMask} (sixteen : ip.length = 16)
    (notV4 : to4 ip = []) (wide : mask.length = 16) : networkNumberAndMask ⟨ip, mask⟩ = (ip, mask) := by
  unfold networkNumberAndMask
  rw [if_neg (not_not.mpr notV4)]
  simp [sixteen, wide]

/-- A network that contains an IPv6 address has a wide mask. -/
theorem length_mask_of_contains {n : IPNet} {ip : IP} (sixteen : ip.length = 16) (notV4 : to4 ip = [])
    (inside : contains n ip = true) : n.mask.length = 16 := by
  unfold contains at inside
  rw [if_neg (not_not.mpr notV4), decide_eq_true_eq, sixteen] at inside
  have length := inside.1
  unfold networkNumberAndMask at length
  generalize (if to4 n.ip ≠ [] then to4 n.ip else n.ip) = number at length
  by_contra narrow
  dsimp only at length
  rw [if_neg narrow] at length
  split at length
  · cases length
  split at length
  · split at length
    · rename_i four
      cases length.trans four
    · cases length
  · cases length

/-- The text after the slash of a network. -/
def maskText (mask : IPMask) : List Char :=
  match simpleMaskLength mask with
  | none => hexString mask
  | some l => Nat.toDigits 10 l

theorem toList_netString_v6 {ip : IP} {mask : IPMask} (sixteen : ip.length = 16) (notV4 : to4 ip = [])
    (wide : mask.length = 16) :
    (netString ⟨ip, mask⟩).toList = string6 ip ++ '/' :: maskText mask := by
  have filled : ¬ (ip = [] ∨ mask = []) := by
    rintro (rfl | rfl)
    · cases sixteen
    · cases wide
  have slash : "/".toList = ['/'] := rfl
  rw [netString, networkNumberAndMask_v6 sixteen notV4 wide]
  dsimp only
  rw [if_neg filled, maskText]
  cases simpleMaskLength mask with
  | none => simp [ipString_v6 sixteen notV4]
  | some l => simp [ipString_v6 sixteen notV4, Nat.toList_repr]

/-- **The text of a network of an IPv6 address denotes the address**, whatever its mask is. -/
theorem denoted_netString_v6 {ip : IP} {mask : IPMask} (sixteen : ip.length = 16) (notV4 : to4 ip = [])
    (wide : mask.length = 16) : denoted (netString ⟨ip, mask⟩) = ip := by
  have slashless : ∀ c ∈ string6 ip, decide (c ≠ '/') = true := fun c member =>
    decide_eq_true fun is => not_mem_string6 ip rfl (by decide) (is ▸ member)
  rw [denoted, toList_netString_v6 sixteen notV4 wide, List.takeWhile_append_of_pos slashless]
  simp [parseIP, parseAddr_string6 sixteen, Addr.zone, Addr.as16]

/-- The text of a network with a prefix length parses back. -/
theorem parseCIDR_netString_v6 {ip : IP} {n : Nat} (sixteen : ip.length = 16) (notV4 : to4 ip = [])
    (le : n ≤ 128) :
    parseCIDR (netString ⟨ip, prefixMask 16 n⟩) =
      .ok (ip, ⟨maskIP ip (prefixMask 16 n), prefixMask 16 n⟩) := by
  have wide : (prefixMask 16 n).length = 16 := length_prefixMask 16 n
  have text : netString ⟨ip, prefixMask 16 n⟩ = String.ofList (string6 ip) ++ "/" ++ Nat.repr n := by
    apply String.toList_injective
    rw [toList_netString_v6 sixteen notV4 wide, maskText, simpleMaskLength_prefixMask (by omega)]
    simp [Nat.toList_repr]
  have mask : cidrMask n 128 = prefixMask 16 n := if_pos ⟨.inr rfl, le⟩
  rw [text, parseCIDR_of_parseAddr (parseAddr_string6 sixteen) (not_mem_string6 ip rfl (by decide)) rfl le]
  change Except.ok (ip, (⟨maskIP ip (cidrMask n 128), cidrMask n 128⟩ : IPNet)) = _
  rw [mask]

end GoNet
