/-
**Go's `net` and `net/netip`: addresses, CIDR notation and the membership test.**

An address is a byte slice as in Go: 4 bytes, 16 bytes, or empty for `nil`. The parsers follow
`netip.ParseAddr` (no leading zeros in IPv4 fields, one `::`, an embedded IPv4 tail), the printers
follow `IP.String` and `IPNet.String`.

* `parseAddr`, `parseIP`, `parseCIDR`, `ipString`, `netString`, `contains`, `maskSize`,
  `isGlobalUnicast` — the functions.
* **`parseCIDR_cidrText`** — the canonical text of an IPv4 network parses back to it.
* **`parseCIDR_canonical`** — a text that is the canonical form of the IPv4 network it denotes is
  the text of an address all of whose bits below the prefix are zero.
* **`contains_iff`** — an IPv4 network contains exactly the addresses that agree with it above the
  bits its mask leaves free.
-/

import AssistedAgent.Lib.Bytes

namespace GoNet

open Bytes

/-! ### Addresses -/

/-- `net.IP`: a byte slice; the empty one is `nil`. -/
abbrev IP := List UInt8

/-- `net.IPMask`. -/
abbrev IPMask := List UInt8

/-- `net.IPNet`. -/
structure IPNet where
  ip : IP
  mask : IPMask
deriving DecidableEq, Repr

def v4InV6Prefix : List UInt8 := [0, 0, 0, 0, 0, 0, 0, 0, 0, 0, 0xff, 0xff]

/-- `IP.To4`: the four bytes of an IPv4 address, also of one in its 16-byte form. -/
def to4 (ip : IP) : IP :=
  if ip.length = 4 then ip
  else if ip.length = 16 ∧ ip.take 12 = v4InV6Prefix then ip.drop 12
  else []

/-- `netip.Addr`: an address of one of the two families, with the zone of a scoped one. -/
inductive Addr
  | v4 (bytes : List UInt8)
  | v6 (bytes : List UInt8) (zone : String)
deriving DecidableEq, Repr

/-- `Addr.As16`. -/
def Addr.as16 : Addr → IP
  | .v4 bytes => v4InV6Prefix ++ bytes
  | .v6 bytes _ => bytes

/-- `Addr.Zone`. -/
def Addr.zone : Addr → String
  | .v4 _ => ""
  | .v6 _ zone => zone

/-- `Addr.BitLen`. -/
def Addr.bitLen : Addr → Nat
  | .v4 _ => 32
  | .v6 _ _ => 128

/-! ### Kinds of addresses -/

/-- `IP.Equal`: an IPv4 address is the same in both its forms. -/
def ipEqual (ip x : IP) : Bool :=
  if ip.length = x.length then ip == x
  else if ip.length = 4 ∧ x.length = 16 then x.take 12 == v4InV6Prefix && ip == x.drop 12
  else if ip.length = 16 ∧ x.length = 4 then ip.take 12 == v4InV6Prefix && ip.drop 12 == x
  else false

def ipv4bcast : IP := v4InV6Prefix ++ [255, 255, 255, 255]

def ipv4zero : IP := v4InV6Prefix ++ [0, 0, 0, 0]

def ipv6unspecified : IP := List.replicate 16 0

def ipv6loopback : IP := List.replicate 15 0 ++ [1]

def isUnspecified (ip : IP) : Bool := ipEqual ip ipv4zero || ipEqual ip ipv6unspecified

def isLoopback (ip : IP) : Bool :=
  if to4 ip ≠ [] then (to4 ip).getD 0 0 == 127 else ipEqual ip ipv6loopback

def isMulticast (ip : IP) : Bool :=
  if to4 ip ≠ [] then (to4 ip).getD 0 0 &&& 0xf0 == 0xe0
  else ip.length == 16 && ip.getD 0 0 == 0xff

def isLinkLocalUnicast (ip : IP) : Bool :=
  if to4 ip ≠ [] then (to4 ip).getD 0 0 == 169 && (to4 ip).getD 1 0 == 254
  else ip.length == 16 && ip.getD 0 0 == 0xfe && ip.getD 1 0 &&& 0xc0 == 0x80

def isGlobalUnicast (ip : IP) : Bool :=
  (ip.length == 4 || ip.length == 16) && !ipEqual ip ipv4bcast && !isUnspecified ip &&
    !isLoopback ip && !isMulticast ip && !isLinkLocalUnicast ip

/-! ### Parsing addresses -/

/-- One field of a dotted address: digits without a leading zero, at most 255. -/
def parseOctet (field : List Char) : Option UInt8 :=
  if field = [] ∨ ¬ field.all Char.isDigit then none
  else if 1 < field.length ∧ field.head? = some '0' then none
  else if 255 < Nat.ofDigitChars 10 field 0 then none
  else some (UInt8.ofNat (Nat.ofDigitChars 10 field 0))

/-- `netip.parseIPv4Fields`: exactly four fields between dots. -/
def parseIPv4Fields (s : List Char) : Option (List UInt8) :=
  match s.splitOn '.' with
  | [a, b, c, d] => do return [← parseOctet a, ← parseOctet b, ← parseOctet c, ← parseOctet d]
  | _ => none

def hexDigit (c : Char) : Option Nat :=
  if '0' ≤ c ∧ c ≤ '9' then some (c.toNat - '0'.toNat)
  else if 'a' ≤ c ∧ c ≤ 'f' then some (c.toNat - 'a'.toNat + 10)
  else if 'A' ≤ c ∧ c ≤ 'F' then some (c.toNat - 'A'.toNat + 10)
  else none

/-- The hex digits at the head of a text: how many, their value, and the rest. -/
def scanHex : List Char → Nat × Nat × List Char
  | [] => (0, 0, [])
  | c :: cs =>
    match hexDigit c with
    | none => (0, 0, c :: cs)
    | some d =>
      let (n, v, rest) := scanHex cs
      (n + 1, d * 16 ^ n + v, rest)

/-- The groups of an IPv6 text after a leading `::`: the bytes read so far, the position of the
ellipsis, and the text left. Each round reads one group, so eight rounds are enough. -/
def parseIPv6Groups : Nat → List UInt8 → Option Nat → List Char →
    Option (List UInt8 × Option Nat × List Char)
  | 0, ip, ellipsis, s => some (ip, ellipsis, s)
  | rounds + 1, ip, ellipsis, s =>
    if 16 ≤ ip.length then some (ip, ellipsis, s)
    else
      let (digits, acc, rest) := scanHex s
      if digits = 0 ∨ 4 < digits then none
      else
        match rest with
        | '.' :: _ =>
          if (ellipsis = none ∧ ip.length ≠ 12) ∨ 16 < ip.length + 4 then none
          else (parseIPv4Fields s).map fun fields => (ip ++ fields, ellipsis, [])
        | [] => some (ip ++ toBytes 2 acc, ellipsis, [])
        | ':' :: ':' :: after =>
          if ellipsis.isSome then none
          else
            let ip' := ip ++ toBytes 2 acc
            if after = [] then some (ip', some ip'.length, [])
            else parseIPv6Groups rounds ip' (some ip'.length) after
        | ':' :: c :: after => parseIPv6Groups rounds (ip ++ toBytes 2 acc) ellipsis (c :: after)
        | _ => none

/-- `netip.parseIPv6`. -/
def parseIPv6 (s : List Char) : Option (List UInt8 × String) :=
  let address := s.takeWhile (· ≠ '%')
  let zone := (s.dropWhile (· ≠ '%')).drop 1
  if '%' ∈ s ∧ zone = [] then none
  else
    let start := if address.take 2 = [':', ':'] then (some 0, address.drop 2) else (none, address)
    if start.1 = some 0 ∧ start.2 = [] then some (List.replicate 16 0, String.ofList zone)
    else
      match parseIPv6Groups 8 [] start.1 start.2 with
      | some (ip, ellipsis, []) =>
        match ellipsis with
        | some e =>
          if ip.length < 16 then
            some (ip.take e ++ List.replicate (16 - ip.length) 0 ++ ip.drop e, String.ofList zone)
          else none
        | none => if ip.length = 16 then some (ip, String.ofList zone) else none
      | _ => none

/-- `netip.ParseAddr`: the first `.`, `:` or `%` decides the family. -/
def parseAddr (s : List Char) : Option Addr :=
  match s.find? fun c => c = '.' ∨ c = ':' ∨ c = '%' with
  | some '.' => (parseIPv4Fields s).map .v4
  | some ':' => (parseIPv6 s).map fun parsed => .v6 parsed.1 parsed.2
  | _ => none

/-- `net.ParseIP`: the address in its 16-byte form, or `nil`. -/
def parseIP (s : String) : IP :=
  match parseAddr s.toList with
  | some addr => if addr.zone = "" then addr.as16 else []
  | none => []

/-! ### Masks and networks -/

/-- `net.CIDRMask`. -/
def cidrMask (ones bits : Nat) : IPMask :=
  if (bits = 32 ∨ bits = 128) ∧ ones ≤ bits then prefixMask (bits / 8) ones else []

/-- `IP.Mask`, for the two forms of the address and the mask that fit each other. -/
def maskIP (ip : IP) (mask : IPMask) : IP :=
  let mask' := if mask.length = 16 ∧ ip.length = 4 ∧ mask.take 12 = List.replicate 12 0xff then
    mask.drop 12 else mask
  let ip' := if mask'.length = 4 ∧ ip.length = 16 ∧ ip.take 12 = v4InV6Prefix then ip.drop 12
    else ip
  if ip'.length = mask'.length then andBytes ip' mask' else []

/-- The number of leading one bits of a byte, and whether only zero bits follow. -/
def leadingOnes (b : UInt8) : Option Nat :=
  (List.range 8).find? fun n => b = ~~~(0xff >>> UInt8.ofNat n)

/-- `net.simpleMaskLength`; `none` for `-1`. -/
def simpleMaskLength : IPMask → Option Nat
  | [] => some 0
  | v :: rest =>
    if v = 0xff then (simpleMaskLength rest).map (8 + ·)
    else if rest.all (· = 0) then leadingOnes v
    else none

/-- `IPMask.Size`. -/
def maskSize (mask : IPMask) : Nat × Nat :=
  match simpleMaskLength mask with
  | some ones => (ones, mask.length * 8)
  | none => (0, 0)

/-- `net.networkNumberAndMask`; an empty pair for `nil, nil`. -/
def networkNumberAndMask (n : IPNet) : IP × IPMask :=
  let ip := if to4 n.ip ≠ [] then to4 n.ip else n.ip
  if ip.length ≠ 4 ∧ ip.length ≠ 16 then ([], [])
  else if n.mask.length = 4 then (if ip.length = 4 then (ip, n.mask) else ([], []))
  else if n.mask.length = 16 then
    (if ip.length = 4 then (ip, n.mask.drop 12) else (ip, n.mask))
  else ([], [])

/-- `IPNet.Contains`. -/
def contains (n : IPNet) (ip : IP) : Bool :=
  let (nn, m) := networkNumberAndMask n
  let ip' := if to4 ip ≠ [] then to4 ip else ip
  ip'.length = nn.length ∧ andBytes nn m = andBytes ip' m

/-- `net.dtoi` on a whole text: the decimal number it spells, below `0xFFFFFF`. -/
def dtoi (s : List Char) : Option Nat :=
  if s = [] ∨ ¬ s.all Char.isDigit then none
  else if 0xFFFFFF ≤ Nat.ofDigitChars 10 s 0 then none
  else some (Nat.ofDigitChars 10 s 0)

/-- `net.ParseCIDR`: the address in its 16-byte form and the network, or the error's text. -/
def parseCIDR (s : String) : Except String (IP × IPNet) :=
  if '/' ∉ s.toList then .error ("invalid CIDR address: " ++ s)
  else
    match parseAddr (s.toList.takeWhile (· ≠ '/')), dtoi ((s.toList.dropWhile (· ≠ '/')).drop 1) with
    | some addr, some n =>
      if addr.zone = "" ∧ n ≤ addr.bitLen then
        .ok (addr.as16, ⟨maskIP addr.as16 (cidrMask n addr.bitLen), cidrMask n addr.bitLen⟩)
      else .error ("invalid CIDR address: " ++ s)
    | _, _ => .error ("invalid CIDR address: " ++ s)

/-! ### Printing -/

/-- The text of four bytes in dotted form. -/
def dotted (bytes : List UInt8) : List Char :=
  ['.'].intercalate (bytes.map fun b => Nat.toDigits 10 b.toNat)

/-- The eight groups of an IPv6 address. -/
def groups : List UInt8 → List Nat
  | a :: b :: rest => (a.toNat * 256 + b.toNat) :: groups rest
  | _ => []

/-- The longest run of zero groups, the first one of that length: where it starts, how long it
is. -/
def zeroRun (gs : List Nat) : Nat × Nat :=
  (List.range 8).foldl (fun best i =>
    let run := ((gs.drop i).takeWhile (· = 0)).length
    if 2 ≤ run ∧ best.2 < run then (i, run) else best) (255, 0)

/-- `Addr.string6`. -/
def string6 (bytes : List UInt8) : List Char :=
  let gs := groups bytes
  let hex := fun group : List Nat => [':'].intercalate (group.map (Nat.toDigits 16))
  let (start, run) := zeroRun gs
  if run = 0 then hex gs
  else hex (gs.take start) ++ [':', ':'] ++ hex (gs.drop (start + run))

def hexString (bytes : List UInt8) : List Char :=
  bytes.flatMap fun b => [(b.toNat / 16).digitChar, (b.toNat % 16).digitChar]

/-- `IP.String`. -/
def ipString (ip : IP) : String :=
  if ip = [] then "<nil>"
  else if ip.length ≠ 4 ∧ ip.length ≠ 16 then String.ofList ('?' :: hexString ip)
  else if to4 ip ≠ [] then String.ofList (dotted (to4 ip))
  else String.ofList (string6 ip)

/-- `IPNet.String`. -/
def netString (n : IPNet) : String :=
  let (nn, m) := networkNumberAndMask n
  if nn = [] ∨ m = [] then "<nil>"
  else
    match simpleMaskLength m with
    | none => ipString nn ++ "/" ++ String.ofList (hexString m)
    | some l => ipString nn ++ "/" ++ Nat.repr l

/-! ### IPv4 texts parse back -/

theorem parseOctet_toDigits (b : UInt8) : parseOctet (Nat.toDigits 10 b.toNat) = some b := by
  have all : ∀ v : Fin 256, parseOctet (Nat.toDigits 10 v.val) = some (UInt8.ofNat v.val) := by
    decide +kernel
  have here := all ⟨b.toNat, b.toNat_lt⟩
  simpa using here

theorem not_mem_toDigits {c : Char} (notDigit : c.isDigit = false) (n : Nat) :
    c ∉ Nat.toDigits 10 n := by
  intro member
  have digit := Nat.isDigit_of_mem_toDigits (by decide) (by decide) member
  rw [notDigit] at digit
  cases digit

theorem parseIPv4Fields_dotted {bytes : List UInt8} (four : bytes.length = 4) :
    parseIPv4Fields (dotted bytes) = some bytes := by
  have fields : (dotted bytes).splitOn '.' = bytes.map fun b => Nat.toDigits 10 b.toNat := by
    refine List.splitOn_intercalate '.' ?_ ?_
    · intro field member
      obtain ⟨b, -, rfl⟩ := List.mem_map.mp member
      exact not_mem_toDigits (by decide) _
    · intro empty
      rw [List.map_eq_nil_iff.mp empty] at four
      cases four
  match bytes, four with
  | [a, b, c, d], _ =>
    unfold parseIPv4Fields
    simp [fields, parseOctet_toDigits]

theorem length_of_parseIPv4Fields {s : List Char} {bytes : List UInt8}
    (parsed : parseIPv4Fields s = some bytes) : bytes.length = 4 := by
  unfold parseIPv4Fields at parsed
  split at parsed
  · simp only [Option.bind_eq_bind, Option.bind_eq_some_iff, Option.pure_def,
      Option.some.injEq] at parsed
    obtain ⟨_, _, _, _, _, _, _, _, rfl⟩ := parsed
    rfl
  · cases parsed

theorem length_of_parseAddr_v4 {s : List Char} {bytes : List UInt8}
    (parsed : parseAddr s = some (.v4 bytes)) : bytes.length = 4 := by
  unfold parseAddr at parsed
  split at parsed
  · obtain ⟨fields, found, same⟩ := Option.map_eq_some_iff.mp parsed
    cases same
    exact length_of_parseIPv4Fields found
  · obtain ⟨pair, _, other⟩ := Option.map_eq_some_iff.mp parsed
    cases other
  · cases parsed

/-- A dotted text has digits and dots only. -/
theorem dotted_chars (bytes : List UInt8) : ∀ c ∈ dotted bytes, c.isDigit = true ∨ c = '.' := by
  intro c member
  unfold dotted at member
  induction bytes with
  | nil => simp at member
  | cons b rest ih =>
    cases rest with
    | nil =>
      simp only [List.map_cons, List.map_nil, List.intercalate_singleton] at member
      exact Or.inl (Nat.isDigit_of_mem_toDigits (by decide) (by decide) member)
    | cons b' rest =>
      rw [List.map_cons, List.map_cons, List.intercalate_cons_cons, List.mem_append,
        List.mem_append] at member
      rcases member with (member | member) | member
      · exact Or.inl (Nat.isDigit_of_mem_toDigits (by decide) (by decide) member)
      · exact Or.inr (by simpa using member)
      · exact ih member

theorem slash_not_mem_dotted (bytes : List UInt8) : '/' ∉ dotted bytes := by
  intro member
  rcases dotted_chars bytes _ member with digit | dot
  · exact absurd digit (by decide)
  · exact absurd dot (by decide)

theorem parseAddr_dotted {bytes : List UInt8} (four : bytes.length = 4) :
    parseAddr (dotted bytes) = some (.v4 bytes) := by
  have first : (dotted bytes).find? (fun c => c = '.' ∨ c = ':' ∨ c = '%') = some '.' := by
    match bytes, four with
    | b :: b' :: rest, _ =>
      have none : (Nat.toDigits 10 b.toNat).find? (fun c => c = '.' ∨ c = ':' ∨ c = '%') = none := by
        rw [List.find?_eq_none]
        intro c member found
        have digit := Nat.isDigit_of_mem_toDigits (by decide) (by decide) member
        simp only [decide_eq_true_eq] at found
        rcases found with rfl | rfl | rfl <;> exact absurd digit (by decide)
      unfold dotted
      rw [List.map_cons, List.map_cons, List.intercalate_cons_cons, List.append_assoc,
        List.find?_append, none]
      rfl
  unfold parseAddr
  rw [first]
  simp only [parseIPv4Fields_dotted four, Option.map_some]

theorem dtoi_toDigits {n : Nat} (small : n < 0xFFFFFF) : dtoi (Nat.toDigits 10 n) = some n := by
  unfold dtoi
  have digits : (Nat.toDigits 10 n).all Char.isDigit = true :=
    List.all_eq_true.mpr fun c member => Nat.isDigit_of_mem_toDigits (by decide) (by decide) member
  rw [if_neg (by simp [digits, Nat.toDigits_ne_nil]), Nat.ofDigitChars_ten_toDigits,
    if_neg (by omega)]

/-- The text of an IPv4 network: its address, a slash, its prefix length. -/
def cidrText (bytes : List UInt8) (n : Nat) : String :=
  String.ofList (dotted bytes) ++ "/" ++ Nat.repr n

theorem toList_cidrText (bytes : List UInt8) (n : Nat) :
    (cidrText bytes n).toList = dotted bytes ++ '/' :: Nat.toDigits 10 n := by
  simp [cidrText, Nat.toList_repr]

theorem ne_slash_of_mem_dotted {bytes : List UInt8} :
    ∀ c ∈ dotted bytes, decide (c ≠ '/') = true := by
  intro c member
  rw [decide_eq_true_eq]
  rintro rfl
  exact slash_not_mem_dotted bytes member

theorem takeWhile_cidrText (bytes : List UInt8) (n : Nat) :
    (cidrText bytes n).toList.takeWhile (· ≠ '/') = dotted bytes := by
  rw [toList_cidrText, List.takeWhile_append_of_pos ne_slash_of_mem_dotted]
  simp

theorem dropWhile_cidrText (bytes : List UInt8) (n : Nat) :
    ((cidrText bytes n).toList.dropWhile (· ≠ '/')).drop 1 = Nat.toDigits 10 n := by
  rw [toList_cidrText, List.dropWhile_append_of_pos ne_slash_of_mem_dotted]
  simp

/-- The IPv4 network of an address and a prefix length. -/
def v4Net (bytes : List UInt8) (n : Nat) : IPNet :=
  ⟨andBytes bytes (prefixMask 4 n), prefixMask 4 n⟩

theorem maskIP_as16 {bytes : List UInt8} (four : bytes.length = 4) {mask : IPMask}
    (len : mask.length = 4) : maskIP (v4InV6Prefix ++ bytes) mask = andBytes bytes mask := by
  have sixteen : (v4InV6Prefix ++ bytes).length = 16 := by
    rw [List.length_append, four]
    rfl
  have head : (v4InV6Prefix ++ bytes).take 12 = v4InV6Prefix := List.take_left' rfl
  have tail : (v4InV6Prefix ++ bytes).drop 12 = bytes := List.drop_left' rfl
  simp [maskIP, sixteen, head, tail, len, four]

theorem cidrMask_v4 {n : Nat} (le : n ≤ 32) : cidrMask n 32 = prefixMask 4 n := by
  simp [cidrMask, le]

/-- **The canonical text of an IPv4 network parses back to it.** -/
theorem parseCIDR_cidrText {bytes : List UInt8} (four : bytes.length = 4) {n : Nat} (le : n ≤ 32) :
    parseCIDR (cidrText bytes n) = .ok (v4InV6Prefix ++ bytes, v4Net bytes n) := by
  have slash : '/' ∈ (cidrText bytes n).toList := by
    rw [toList_cidrText]
    simp
  unfold parseCIDR
  rw [if_neg (by simpa using slash), takeWhile_cidrText, dropWhile_cidrText, parseAddr_dotted four,
    dtoi_toDigits (show n < 0xFFFFFF by omega)]
  show (if "" = "" ∧ n ≤ 32 then _ else _) = _
  rw [if_pos ⟨rfl, le⟩]
  show Except.ok (v4InV6Prefix ++ bytes,
    IPNet.mk (maskIP (v4InV6Prefix ++ bytes) (cidrMask n 32)) (cidrMask n 32)) = _
  rw [cidrMask_v4 le, maskIP_as16 four (length_prefixMask 4 n)]
  rfl

/-! ### IPv4 networks -/

theorem to4_of_length {ip : IP} (four : ip.length = 4) : to4 ip = ip := if_pos four

theorem to4_as16 {bytes : List UInt8} (four : bytes.length = 4) :
    to4 (v4InV6Prefix ++ bytes) = bytes := by
  have sixteen : (v4InV6Prefix ++ bytes).length = 16 := by
    rw [List.length_append, four]
    rfl
  have head : (v4InV6Prefix ++ bytes).take 12 = v4InV6Prefix := List.take_left' rfl
  have tail : (v4InV6Prefix ++ bytes).drop 12 = bytes := List.drop_left' rfl
  unfold to4
  rw [if_neg (by rw [sixteen]; decide), if_pos ⟨sixteen, head⟩, tail]

theorem ne_nil_of_length {ip : IP} (four : ip.length = 4) : ip ≠ [] := by
  rintro rfl
  cases four

theorem networkNumberAndMask_v4 {ip : IP} {mask : IPMask} (four : ip.length = 4)
    (len : mask.length = 4) : networkNumberAndMask ⟨ip, mask⟩ = (ip, mask) := by
  simp [networkNumberAndMask, to4_of_length four, ne_nil_of_length four, four, len]

theorem length_v4Net {bytes : List UInt8} (four : bytes.length = 4) (n : Nat) :
    (v4Net bytes n).ip.length = 4 := by
  simp [v4Net, andBytes, four]

theorem simpleMaskLength_prefixMask {l n : Nat} (fits : n ≤ 8 * l) :
    simpleMaskLength (prefixMask l n) = some n := by
  have zeros : ∀ k, (prefixMask k 0).all (· = 0) = true := by
    intro k
    induction k with
    | zero => rfl
    | succ k ih =>
      unfold prefixMask
      simp only [List.all_cons, ih, Bool.and_true, show ¬ 8 ≤ 0 by omega, if_false]
      decide
  induction l generalizing n with
  | zero =>
    have : n = 0 := by omega
    subst this
    rfl
  | succ l ih =>
    unfold prefixMask
    split
    · rename_i big
      rw [simpleMaskLength, if_pos rfl, ih (by omega), Option.map_some]
      congr 1
      omega
    · rename_i small
      have ones : ∀ k : Fin 8, (~~~(0xff >>> UInt8.ofNat k.val) : UInt8) ≠ 0xff ∧
          leadingOnes (~~~(0xff >>> UInt8.ofNat k.val)) = some k.val := by
        decide +kernel
      have here := ones ⟨n, by omega⟩
      rw [simpleMaskLength, if_neg here.1, if_pos (zeros l)]
      exact here.2

theorem maskSize_prefixMask {l n : Nat} (fits : n ≤ 8 * l) :
    maskSize (prefixMask l n) = (n, l * 8) := by
  unfold maskSize
  rw [simpleMaskLength_prefixMask fits]
  simp only [length_prefixMask]

theorem ipString_v4 {ip : IP} (four : ip.length = 4) : ipString ip = String.ofList (dotted ip) := by
  simp [ipString, to4_of_length four, ne_nil_of_length four, four]

/-- The text of an IPv4 network is its canonical form. -/
theorem netString_v4 {ip : IP} (four : ip.length = 4) {n : Nat} (le : n ≤ 32) :
    netString ⟨ip, prefixMask 4 n⟩ = cidrText ip n := by
  have mask : prefixMask 4 n ≠ [] := ne_nil_of_length (length_prefixMask 4 n)
  unfold netString
  simp only [networkNumberAndMask_v4 four (length_prefixMask 4 n)]
  rw [if_neg (by simp [mask, ne_nil_of_length four]), simpleMaskLength_prefixMask (by omega)]
  simp only [ipString_v4 four, cidrText]

theorem cidrText_injective {a b : List UInt8} {m n : Nat} (ha : a.length = 4) (hb : b.length = 4)
    (hm : m ≤ 32) (hn : n ≤ 32) (same : cidrText a m = cidrText b n) : a = b ∧ m = n := by
  have left := parseCIDR_cidrText ha hm
  rw [same, parseCIDR_cidrText hb hn] at left
  injection left with pair
  injection pair with addr net
  refine ⟨(List.append_cancel_left addr).symm, ?_⟩
  have masks : prefixMask 4 n = prefixMask 4 m := congrArg IPNet.mask net
  have sizes := simpleMaskLength_prefixMask (show n ≤ 8 * 4 by omega)
  rw [masks, simpleMaskLength_prefixMask (show m ≤ 8 * 4 by omega)] at sizes
  exact Option.some.inj sizes

theorem ipString_injective {a b : IP} (ha : a.length = 4) (hb : b.length = 4)
    (same : ipString a = ipString b) : a = b := by
  rw [ipString_v4 ha, ipString_v4 hb] at same
  have texts : dotted a = dotted b := by
    have := congrArg String.toList same
    simpa using this
  have left := parseIPv4Fields_dotted ha
  rw [texts, parseIPv4Fields_dotted hb] at left
  exact (Option.some.inj left).symm

/-- **What a network is parsed from**: an address without a zone and a length that fits it. -/
theorem exists_of_parseCIDR {s : String} {ip : IP} {net : IPNet} (parsed : parseCIDR s = .ok (ip, net)) :
    ∃ addr n, parseAddr (s.toList.takeWhile (· ≠ '/')) = some addr ∧
      dtoi ((s.toList.dropWhile (· ≠ '/')).drop 1) = some n ∧ addr.zone = "" ∧ n ≤ addr.bitLen ∧
      ip = addr.as16 ∧
      net = ⟨maskIP addr.as16 (cidrMask n addr.bitLen), cidrMask n addr.bitLen⟩ := by
  unfold parseCIDR at parsed
  split at parsed
  · cases parsed
  split at parsed
  · rename_i addr n isAddr isNumber
    split at parsed
    · rename_i accepted
      cases parsed
      exact ⟨addr, n, isAddr, isNumber, accepted.1, accepted.2, rfl, rfl⟩
    · cases parsed
  · cases parsed

/-- **A text in the canonical form of the IPv4 network it denotes** is the text of an address whose
bits below the prefix are zero. -/
theorem parseCIDR_canonical {s : String} {ip : IP} {cidr : IPNet}
    (parsed : parseCIDR s = .ok (ip, cidr)) (v4 : cidr.mask.length = 4)
    (canonical : netString cidr = s) :
    ∃ bytes n, bytes.length = 4 ∧ n ≤ 32 ∧ andBytes bytes (prefixMask 4 n) = bytes ∧
      ip = v4InV6Prefix ++ bytes ∧ cidr = ⟨bytes, prefixMask 4 n⟩ ∧ s = cidrText bytes n := by
  obtain ⟨addr, n, parsedAddr, -, -, le, rfl, rfl⟩ := exists_of_parseCIDR parsed
  cases addr with
  | v6 bytes zone =>
    have sixteen : (cidrMask n (Addr.v6 bytes zone).bitLen).length = 16 := by
      unfold cidrMask
      rw [if_pos ⟨Or.inr rfl, le⟩, length_prefixMask, Addr.bitLen]
    rw [sixteen] at v4
    cases v4
  | v4 bytes =>
    have four := length_of_parseAddr_v4 parsedAddr
    replace le : n ≤ 32 := le
    have net : (⟨maskIP (Addr.v4 bytes).as16 (cidrMask n (Addr.v4 bytes).bitLen),
        cidrMask n (Addr.v4 bytes).bitLen⟩ : IPNet) = v4Net bytes n := by
      show IPNet.mk (maskIP (v4InV6Prefix ++ bytes) (cidrMask n 32)) (cidrMask n 32) = _
      rw [cidrMask_v4 le, maskIP_as16 four (length_prefixMask 4 n)]
      rfl
    rw [net] at canonical ⊢
    have text : s = cidrText (v4Net bytes n).ip n := by
      rw [← canonical]
      exact netString_v4 (length_v4Net four n) le
    -- the address part of the text is the masked address, so nothing was masked away
    have aligned : (v4Net bytes n).ip = bytes := by
      rw [text, takeWhile_cidrText, parseAddr_dotted (length_v4Net four n)] at parsedAddr
      injection parsedAddr with same
      injection same
    refine ⟨bytes, n, four, le, aligned, rfl, ?_, ?_⟩
    · rw [← aligned]
      simp only [v4Net] at aligned ⊢
      rw [aligned, aligned]
    · rw [text, aligned]

/-- **What an IPv4 network contains.** -/
theorem contains_iff {a x : IP} (ha : a.length = 4) (hx : x.length = 4) {n : Nat} (le : n ≤ 32) :
    contains ⟨a, prefixMask 4 n⟩ x = true ↔
      beNat x / 2 ^ (32 - n) = beNat a / 2 ^ (32 - n) := by
  unfold contains
  simp only [networkNumberAndMask_v4 ha (length_prefixMask 4 n), to4_of_length hx,
    ne_nil_of_length hx, ne_eq, not_false_eq_true, if_true, decide_eq_true_eq]
  have iff := and_prefixMask_eq_iff (hx.trans ha.symm) (n := n) (by rw [ha]; omega)
  rw [ha] at iff
  constructor
  · intro both
    exact iff.mp both.2.symm
  · intro same
    exact ⟨hx.trans ha.symm, (iff.mpr same).symm⟩

end GoNet
