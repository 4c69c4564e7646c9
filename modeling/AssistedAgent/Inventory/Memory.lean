/-
**The physical memory, from the output of dmidecode.**

`getDmidecodeTotalPhysicalBytes` reads the lines `Size: N UNIT` and adds up in `int64`. Its table of
units goes from `tb` to `eb`: there is no `pb`, and each constant is the one before it times 1024, so
that an exabyte counts as a petabyte, and a zettabyte as an exabyte.

* **`sizeOf_eq_some_iff`** — which lines are sizes.
* **`sumSizes_of_unreadable`**, **`sumSizes_of_readable`** — the loop returns 0 at a size that it cannot
  read, and otherwise the sum of the sizes as `int64` has it.
* **`exactOrZero_iff`** — which outputs are summed exactly, or not at all.
* **`reported_wrong`** — on the others, a wrong total is reported before any other source is asked.
-/

import AssistedAgent.Lib.GoStrconv
import AssistedAgent.Lib.GoStrings
import AssistedAgent.Lib.RegexpMatches
import AssistedAgent.Util.Interface
import Mathlib.Algebra.Ring.Nat

namespace AssistedAgent.Inventory

open GoRegexp GoStrings Util

/-! ### Units -/

/-- The value of a sum or a product in `int64`. -/
def int64 (n : Int) : Int := n.bmod (2 ^ 64)

def bytesMultiplier : Int := 1

def kbMultiplier : Int := bytesMultiplier <<< (10 : Nat)

def mbMultiplier : Int := kbMultiplier <<< (10 : Nat)

def gbMultiplier : Int := mbMultiplier <<< (10 : Nat)

def tbMultiplier : Int := gbMultiplier <<< (10 : Nat)

def ebMultiplier : Int := tbMultiplier <<< (10 : Nat)

def zbMultiplier : Int := ebMultiplier <<< (10 : Nat)

def multiplierMap : List (String × Int) :=
  [("bytes", bytesMultiplier), ("kb", kbMultiplier), ("mb", mbMultiplier), ("gb", gbMultiplier),
    ("tb", tbMultiplier), ("eb", ebMultiplier), ("zb", zbMultiplier)]

/-! ### The sources -/

/-- `[ \t]`. -/
def blankOrTab : Regex := .set fun x => x == ' ' || x == '\t'

/-- `[a-zA-Z]`. -/
def letter : Regex := .set Char.isAlpha

/-- `^[ \t]*Size:[ \t]+([0-9]+)[ \t]+([a-zA-Z]+)[ \t]*$`. -/
def sizeRegex : Regex :=
  .all [.beginText, .star blankOrTab, .lit "Size:", .plus blankOrTab, .group 1 (.plus .digit),
    .plus blankOrTab, .group 2 (.plus letter), .star blankOrTab, .endText]

/-- `^[ \t]*MemTotal:[ \t]+([0-9]+)[ \t]+([a-zA-Z]+)`. -/
def memTotalRegex : Regex :=
  .all [.beginText, .star blankOrTab, .lit "MemTotal:", .plus blankOrTab, .group 1 (.plus .digit),
    .plus blankOrTab, .group 2 (.plus letter)]

/-- The loop over the lines of dmidecode. -/
def sumSizes : List String → Int → Int
  | [], total => total
  | line :: lines, total =>
    match findStringSubmatch sizeRegex 2 line with
    | [_, digits, unit] =>
      match GoStrconv.parseInt64 digits.toList with
      | (_, some _) => 0
      | (value, none) =>
        match multiplierMap.lookup unit.toLower with
        | none => 0
        | some multiplier => sumSizes lines (int64 (total + int64 (value * multiplier)))
    | _ => sumSizes lines total

/-- The loop over the lines of `/proc/meminfo`. -/
def findMemTotal : List String → Int
  | [] => 0
  | line :: lines =>
    match findStringSubmatch memTotalRegex 2 line with
    | [_, digits, unit] =>
      match GoStrconv.parseInt64 digits.toList with
      | (_, some _) => 0
      | (value, none) =>
        match multiplierMap.lookup unit.toLower with
        | none => 0
        | some multiplier => int64 (value * multiplier)
    | _ => findMemTotal lines

/-- `models.MemoryMethod`. -/
inductive MemoryMethod
  | dmidecode
  | ghw
  | meminfo
  | none
deriving DecidableEq, Repr

/-- `models.Memory`. -/
structure Memory where
  physicalBytes : Int
  usableBytes : Int
  physicalBytesMethod : MemoryMethod
deriving DecidableEq, Repr

section Sources

variable (d : Util.Dependencies)

def getDmidecodeTotalPhysicalBytes : Int :=
  match d.execute ["dmidecode", "-t", "17"] with
  | (o, _, exitCode) => if exitCode ≠ 0 then 0 else sumSizes (split o '\n') 0

def getTotalUsabeBytes : Int :=
  match d.readFile "/proc/meminfo" with
  | .error _ => 0
  | .ok b => findMemTotal (split b '\n')

-- The total that `ghw` reports, or its error.
variable (ghw : Except String Int)

def getGhwTotalPhysicalBytes : Int :=
  match ghw with
  | .error _ => 0
  | .ok totalPhysicalBytes => totalPhysicalBytes

def getTotalPhysicalBytes : Int × MemoryMethod :=
  if getDmidecodeTotalPhysicalBytes d ≠ 0 then (getDmidecodeTotalPhysicalBytes d, .dmidecode)
  else if getGhwTotalPhysicalBytes ghw ≠ 0 then (getGhwTotalPhysicalBytes ghw, .ghw)
  else if getTotalUsabeBytes d ≠ 0 then (getTotalUsabeBytes d, .meminfo)
  else (0, .none)

def getMemory : Memory :=
  let (physicalBytes, physicalBytesMethod) := getTotalPhysicalBytes d ghw
  ⟨physicalBytes, getTotalUsabeBytes d, physicalBytesMethod⟩

end Sources

/-! ### The lines that are sizes -/

/-- Blanks and tabs. -/
def Blank (text : List Char) : Prop := ∀ x ∈ text, (x == ' ' || x == '\t') = true

/-- A line `Size: N UNIT`, with blanks and tabs around its parts. -/
structure IsSize (text digits unit : List Char) : Prop where
  line : ∃ before between between' after : List Char,
    text = before ++ ("Size:".toList ++ (between ++ (digits ++ (between' ++ (unit ++ after))))) ∧
      Blank before ∧ (between ≠ [] ∧ Blank between) ∧ (between' ≠ [] ∧ Blank between') ∧ Blank after
  digits : digits ≠ [] ∧ ∀ x ∈ digits, x.isDigit = true
  unit : unit ≠ [] ∧ ∀ x ∈ unit, x.isAlpha = true

theorem run_size {i : Nat} {text : List Char} {next : Cursor} :
    next ∈ run sizeRegex ⟨i, text, []⟩ ↔ i = 0 ∧ ∃ digits unit, IsSize text digits unit ∧
      next = ⟨i + text.length, [], [(2, unit), (1, digits)]⟩ := by
  rw [sizeRegex, mem_run_all_beginText]
  refine and_congr_right fun zero => ?_
  constructor
  · intro later
    obtain ⟨before, rest₁, blank, is, later⟩ := mem_run_all_star.mp later
    obtain ⟨rest₂, is₁, later⟩ := mem_run_all_lit.mp later
    obtain ⟨between, rest₃, nonempty, blank', is₂, later⟩ := mem_run_all_plus.mp later
    obtain ⟨digits, rest₄, isDigits, is₃, later⟩ := mem_run_all_group_plus.mp later
    obtain ⟨between', rest₅, nonempty', blank'', is₄, later⟩ := mem_run_all_plus.mp later
    obtain ⟨unit, rest₆, isUnit, is₅, later⟩ := mem_run_all_group_plus.mp later
    obtain ⟨after, rest₇, blank''', is₆, later⟩ := mem_run_all_star.mp later
    obtain ⟨is₇, later⟩ := mem_run_all_endText.mp later
    dsimp only [Cursor.after_rest, Cursor.capture_rest] at is is₁ is₂ is₃ is₄ is₅ is₆ is₇
    subst is₇ is₆ is₅ is₄ is₃ is₂ is₁ is
    refine ⟨digits, unit, ⟨⟨before, between, between', after, by rw [List.append_nil], blank,
      ⟨nonempty, blank'⟩, ⟨nonempty', blank''⟩, blank'''⟩, isDigits, isUnit⟩, ?_⟩
    rw [mem_run_all_nil.mp later]
    simp [Cursor.after, Cursor.capture]
    omega
  · rintro ⟨digits, unit, ⟨⟨before, between, between', after, rfl, blank, blank', blank'', blank'''⟩,
      isDigits, isUnit⟩, rfl⟩
    refine mem_run_all_star.mpr ⟨before, _, blank, rfl, mem_run_all_lit.mpr ⟨_, rfl,
      mem_run_all_plus.mpr ⟨between, _, blank'.1, blank'.2, rfl, mem_run_all_group_plus.mpr
      ⟨digits, _, isDigits, rfl, mem_run_all_plus.mpr ⟨between', _, blank''.1, blank''.2, rfl,
      mem_run_all_group_plus.mpr ⟨unit, _, isUnit, rfl, mem_run_all_star.mpr
      ⟨after, [], blank''', (List.append_nil after).symm, mem_run_all_endText.mpr
      ⟨rfl, mem_run_all_nil.mpr ?_⟩⟩⟩⟩⟩⟩⟩⟩
    simp [Cursor.after, Cursor.capture]
    omega

theorem blank_iff {x : Char} : (x == ' ' || x == '\t') = true ↔ x = ' ' ∨ x = '\t' := by
  rw [Bool.or_eq_true, beq_iff_eq, beq_iff_eq]

/-- A line has the parts of one size only. -/
theorem IsSize.unique {text digits unit digits' unit' : List Char} (size : IsSize text digits unit)
    (size' : IsSize text digits' unit') : digits = digits' ∧ unit = unit' := by
  have digitNotBlank (x : Char) (digit : x.isDigit = true) : (x == ' ' || x == '\t') = false := by
    rw [← Bool.not_eq_true, blank_iff]
    rintro (rfl | rfl)
    · cases digit
    · cases digit
  have blankNotDigit (x : Char) (blank : (x == ' ' || x == '\t') = true) : x.isDigit = false := by
    rcases blank_iff.mp blank with rfl | rfl
    · rfl
    · rfl
  have letterNotBlank (x : Char) (letter : x.isAlpha = true) : (x == ' ' || x == '\t') = false := by
    rw [← Bool.not_eq_true, blank_iff]
    rintro (rfl | rfl)
    · cases letter
    · cases letter
  have blankNotLetter (x : Char) (blank : (x == ' ' || x == '\t') = true) : x.isAlpha = false := by
    rcases blank_iff.mp blank with rfl | rfl
    · rfl
    · rfl
  obtain ⟨⟨before, between, between₂, after, is, blank, blank₁, blank₂, blank₃⟩, isDigits, isUnit⟩ :=
    size
  obtain ⟨⟨before', between', between₂', after', is', blank', blank₁', blank₂', blank₃'⟩, isDigits',
    isUnit'⟩ :=
    size'
  have stops (rest : List Char) : ∀ x ∈ ("Size:".toList ++ rest).head?,
    (x == ' ' || x == '\t') = false := by
    rintro x ⟨⟩
    rfl
  have ends {after : List Char} (blank : Blank after) : ∀ x ∈ after.head?, x.isAlpha = false := by
    intro x first
    exact blankNotLetter x (blank x (List.mem_of_mem_head? first))
  have same := is.symm.trans is'
  obtain ⟨-, same⟩ := append_inj_of_class same blank blank' (stops _) (stops _)
  obtain ⟨-, same⟩ := append_inj_of_class (List.append_cancel_left same) blank₁.2 blank₁'.2
    (head_of_class digitNotBlank isDigits.1 isDigits.2 _)
      (head_of_class digitNotBlank isDigits'.1 isDigits'.2 _)
  obtain ⟨digits_eq, same⟩ := append_inj_of_class same isDigits.2 isDigits'.2
    (head_of_class blankNotDigit blank₂.1 blank₂.2 _)
      (head_of_class blankNotDigit blank₂'.1 blank₂'.2 _)
  obtain ⟨-, same⟩ := append_inj_of_class same blank₂.2 blank₂'.2
    (head_of_class letterNotBlank isUnit.1 isUnit.2 _)
      (head_of_class letterNotBlank isUnit'.1 isUnit'.2 _)
  obtain ⟨unit_eq, -⟩ := append_inj_of_class same isUnit.2 isUnit'.2 (ends blank₃) (ends blank₃')
  exact ⟨digits_eq, unit_eq⟩

/-- **The expression for sizes** accepts lines `Size: N UNIT`, and captures `N` and `UNIT`. -/
theorem submatch_size_iff {line digits unit : String} :
    (∃ matched, findStringSubmatch sizeRegex 2 line = [matched, digits, unit]) ↔
      IsSize line.toList digits.toList unit.toList := by
  have groups := submatch_iff sizeRegex 2 line
    (fun shape => ∃ digits unit, shape = [digits, unit] ∧ IsSize line.toList digits unit)
    (by
      intro i _ c member
      obtain ⟨rfl, digits, unit, size, rfl⟩ := run_size.mp member
      exact ⟨digits, unit, rfl, size⟩)
    (by
      rintro _ ⟨digits, unit, -, size⟩
      exact ⟨0, Nat.zero_le _, _, run_size.mpr ⟨rfl, digits, unit, size, rfl⟩⟩)
    (by
      rintro _ _ ⟨digits, unit, rfl, size⟩ ⟨digits', unit', rfl, size'⟩
      obtain ⟨rfl, rfl⟩ := size.unique size'
      rfl)
    [digits, unit]
  rw [groups]
  constructor
  · rintro ⟨_, _, eq, size⟩
    cases eq
    exact size
  · intro size
    exact ⟨_, _, rfl, size⟩

/-- The number and the unit of a line that is a size. -/
def sizeOf (line : String) : Option (String × String) :=
  match findStringSubmatch sizeRegex 2 line with
  | [_, digits, unit] => some (digits, unit)
  | _ => none

theorem sizeOf_eq_some_iff {line digits unit : String} :
    sizeOf line = some (digits, unit) ↔ IsSize line.toList digits.toList unit.toList := by
  rw [← submatch_size_iff, sizeOf]
  split
  · rename_i matched digits' unit' is
    rw [is]
    constructor
    · intro eq
      cases eq
      exact ⟨_, rfl⟩
    · rintro ⟨_, eq⟩
      cases eq
      rfl
  · rename_i other
    exact iff_of_false nofun fun ⟨matched, is⟩ => other _ _ _ is

/-! ### The sum -/

/-- The sizes of the lines of an output, in their order. -/
def sizes (output : String) : List (String × String) := (split output '\n').filterMap sizeOf

/-- The number that a text of digits stands for. -/
def number (digits : String) : Nat := Nat.ofDigitChars 10 digits.toList 0

/-- What a size adds to the total. -/
def amount (size : String × String) : Option Int :=
  match GoStrconv.parseInt64 size.1.toList with
  | (_, some _) => none
  | (value, none) => (multiplierMap.lookup size.2.toLower).map (value * ·)

/-- The number of a size has digits only. -/
def HasDigits (size : String × String) : Prop :=
  size.1.toList ≠ [] ∧ ∀ c ∈ size.1.toList, c.isDigit = true

theorem hasDigits_of_sizes {output : String} : ∀ size ∈ sizes output, HasDigits size := by
  intro size member
  obtain ⟨line, -, is⟩ := List.mem_filterMap.mp member
  have shape := sizeOf_eq_some_iff.mp is
  exact ⟨shape.digits.1, shape.digits.2⟩

/-- What a size adds, if its number is not too large and its unit is in the table. -/
theorem amount_eq {size : String × String} (digits : HasDigits size) :
    amount size = if number size.1 < 2 ^ 63 then
      (multiplierMap.lookup size.2.toLower).map ((number size.1 : Int) * ·) else none := by
  unfold amount
  rw [GoStrconv.parseInt64_digits digits.1 digits.2]
  by_cases small : Nat.ofDigitChars 10 size.1.toList 0 < 2 ^ 63
  · rw [if_pos small, if_pos (show number size.1 < 2 ^ 63 from small)]
    rfl
  · rw [if_neg small, if_neg (show ¬ number size.1 < 2 ^ 63 from small)]

theorem sumSizes_cons_of_none {line : String} (other : sizeOf line = none) (lines : List String)
    (total : Int) :
    sumSizes (line :: lines) total = sumSizes lines total := by
  rw [sumSizes]
  unfold sizeOf at other
  split
  · rename_i is
    rw [is] at other
    cases other
  · rfl

theorem sumSizes_cons_of_some {line : String} {size : String × String} (is : sizeOf line = some size)
    (lines : List String) (total : Int) : sumSizes (line :: lines) total =
      (amount size).elim 0 fun value => sumSizes lines (int64 (total + int64 value)) := by
  rw [sumSizes]
  unfold sizeOf at is
  split
  · rename_i matched digits unit submatch
    rw [submatch] at is
    cases is
    unfold amount
    obtain ⟨value, err⟩ := GoStrconv.parseInt64 digits.toList
    cases err with
    | some err => rfl
    | none =>
      dsimp only
      cases multiplierMap.lookup unit.toLower with
      | none => rfl
      | some multiplier => rfl
  · rename_i other
    split at is
    · rename_i submatch
      exact absurd submatch (other _ _ _)
    · cases is

/-- What the sizes add up to, with the multipliers of the table. -/
def tableTotal (sizes : List (String × String)) : Int :=
  (sizes.map fun size => (amount size).getD 0).sum

theorem tableTotal_cons {size : String × String} {value : Int} (is : amount size = some value)
    (sizes : List (String × String)) : tableTotal (size :: sizes) = value + tableTotal sizes := by
  rw [tableTotal, List.map_cons, List.sum_cons, is, Option.getD_some, tableTotal]

/-- **The loop, at a size that it cannot read.** -/
theorem sumSizes_of_unreadable {lines : List String}
    (unreadable : ∃ size ∈ lines.filterMap sizeOf, amount size = none)
    (total : Int) : sumSizes lines total = 0 := by
  induction lines generalizing total with
  | nil =>
    obtain ⟨size, member, -⟩ := unreadable
    cases member
  | cons line lines ih =>
    cases is : sizeOf line with
    | none =>
      rw [List.filterMap_cons_none is] at unreadable
      rw [sumSizes_cons_of_none is]
      exact ih unreadable total
    | some size =>
      rw [List.filterMap_cons_some is] at unreadable
      rw [sumSizes_cons_of_some is]
      cases value : amount size with
      | none => rfl
      | some value =>
        refine ih ?_ _
        obtain ⟨bad, member, unread⟩ := unreadable
        rcases List.mem_cons.mp member with rfl | later
        · rw [value] at unread
          cases unread
        · exact ⟨bad, later, unread⟩

/-- **The loop, where it can read all sizes**, from a total that `int64` holds. -/
theorem sumSizes_of_readable {lines : List String}
    (readable : ∀ size ∈ lines.filterMap sizeOf, amount size ≠ none)
    {total : Int} (held : int64 total = total) :
    sumSizes lines total = int64 (total + tableTotal (lines.filterMap sizeOf)) := by
  induction lines generalizing total with
  | nil =>
    rw [sumSizes, ← held]
    simp [tableTotal, held]
  | cons line lines ih =>
    cases is : sizeOf line with
    | none =>
      rw [List.filterMap_cons_none is] at readable ⊢
      rw [sumSizes_cons_of_none is]
      exact ih readable held
    | some size =>
      rw [List.filterMap_cons_some is] at readable ⊢
      obtain ⟨here, later⟩ := List.forall_mem_cons.mp readable
      obtain ⟨value, is_value⟩ := Option.ne_none_iff_exists'.mp here
      have wrapped : int64 (int64 (total + int64 value)) = int64 (total + int64 value) := Int.bmod_bmod
      rw [sumSizes_cons_of_some is, is_value, Option.elim_some, ih later wrapped,
        tableTotal_cons is_value]
      unfold int64
      calc ((total + value.bmod (2 ^ 64)).bmod (2 ^ 64) + tableTotal (lines.filterMap sizeOf)).bmod (2 ^ 64)
          = (total + tableTotal (lines.filterMap sizeOf) + value.bmod (2 ^ 64)).bmod (2 ^ 64) := by
            rw [Int.bmod_add_bmod, Int.add_right_comm]
        _ = (total + (value + tableTotal (lines.filterMap sizeOf))).bmod (2 ^ 64) := by
            rw [Int.add_bmod_bmod, Int.add_right_comm, Int.add_assoc]

/-! ### The exact sum -/

/-- The units of dmidecode, in the order of their size. -/
def scale : List String := ["bytes", "kb", "mb", "gb", "tb", "pb", "eb", "zb"]

/-- What a size stands for. -/
def exactAmount (size : String × String) : Option Nat :=
  (scale.idxOf? size.2.toLower).map fun k => number size.1 * 1024 ^ k

/-- The exact sum of the sizes, all of which have a unit. -/
structure ExactTotal (sizes : List (String × String)) (total : Int) : Prop where
  units : ∀ size ∈ sizes, exactAmount size ≠ none
  sum : total = (sizes.map fun size => ((exactAmount size).getD 0 : Int)).sum

/-- The total is the exact sum of the sizes in the output of dmidecode, or 0. -/
def ExactOrZero (d : Util.Dependencies) : Prop :=
  getDmidecodeTotalPhysicalBytes d = 0 ∨
    ExactTotal (sizes (d.execute ["dmidecode", "-t", "17"]).1) (getDmidecodeTotalPhysicalBytes d)

/-- A unit that the table takes for the unit below it. -/
def isMisplaced (unit : String) : Bool := unit == "eb" || unit == "zb"

/-- The multiplier of a unit, against its place in the scale. -/
theorem multiplier_of_lookup {unit : String} {multiplier : Int}
    (found : multiplierMap.lookup unit = some multiplier) :
    ∃ k, scale.idxOf? unit = some k ∧ 0 < multiplier ∧
      (1024 : Int) ^ k = if isMisplaced unit then 1024 * multiplier else multiplier := by
  obtain ⟨before, after, split, -⟩ := List.lookup_eq_some_iff.mp found
  have member : (unit, multiplier) ∈ multiplierMap := split ▸ List.mem_append_right _ List.mem_cons_self
  have table : ∀ entry ∈ multiplierMap, ∃ k ∈ List.range 8, scale.idxOf? entry.1 = some k ∧
    0 < entry.2 ∧
      (1024 : Int) ^ k = if isMisplaced entry.1 then 1024 * entry.2 else entry.2 := by decide
  obtain ⟨k, -, is⟩ := table _ member
  exact ⟨k, is⟩

/-- A size that the loop can read, against what it stands for. -/
theorem exactAmount_of_amount {size : String × String} (digits : HasDigits size) {value : Int}
    (is : amount size = some value) :
    ∃ exact : Nat, exactAmount size = some exact ∧ 0 ≤ value ∧ value ≤ exact ∧
      (value = exact ↔ (isMisplaced size.2.toLower = true → number size.1 = 0)) := by
  rw [amount_eq digits] at is
  obtain ⟨-, found⟩ := Option.ite_none_right_eq_some.mp is
  obtain ⟨multiplier, known, rfl⟩ := Option.map_eq_some_iff.mp found
  obtain ⟨k, place, positive, power⟩ := multiplier_of_lookup known
  refine ⟨number size.1 * 1024 ^ k, by rw [exactAmount, place, Option.map_some], by positivity, ?_, ?_⟩
  · push_cast
    rw [power]
    split
    · nlinarith
    · exact le_rfl
  · push_cast
    rw [power]
    split
    · rename_i misplaced
      constructor
      · intro eq _
        have product : (number size.1 : Int) * multiplier = 0 := by linarith
        exact Int.ofNat_eq_zero.mp ((mul_eq_zero.mp product).resolve_right positive.ne')
      · intro none
        rw [none misplaced]
        simp
    · rename_i placed
      exact iff_of_true rfl fun misplaced => absurd misplaced placed

section Total

variable {sizes : List (String × String)} (digits : ∀ size ∈ sizes, HasDigits size)

include digits

theorem exact_of_readable (readable : ∀ size ∈ sizes, amount size ≠ none) :
    (∀ size ∈ sizes, exactAmount size ≠ none) ∧ 0 ≤ tableTotal sizes ∧
      tableTotal sizes ≤ (sizes.map fun size => ((exactAmount size).getD 0 : Int)).sum ∧
      (tableTotal sizes = (sizes.map fun size => ((exactAmount size).getD 0 : Int)).sum ↔
        ∀ size ∈ sizes, isMisplaced size.2.toLower = true → number size.1 = 0) := by
  induction sizes with
  | nil => exact ⟨nofun, le_rfl, le_rfl, iff_of_true rfl nofun⟩
  | cons size sizes ih =>
    obtain ⟨here, later⟩ := List.forall_mem_cons.mp readable
    obtain ⟨hereDigits, laterDigits⟩ := List.forall_mem_cons.mp digits
    obtain ⟨value, is⟩ := Option.ne_none_iff_exists'.mp here
    obtain ⟨exact, is_exact, nonneg, le, eq_iff⟩ := exactAmount_of_amount hereDigits is
    obtain ⟨units, nonneg', le', eq_iff'⟩ := ih laterDigits later
    rw [tableTotal_cons is, List.map_cons, List.sum_cons, is_exact, Option.getD_some,
      List.forall_mem_cons,
      List.forall_mem_cons, ← eq_iff, ← eq_iff']
    refine ⟨⟨by rw [is_exact]; nofun, units⟩, by omega, by omega, ?_⟩
    constructor
    · intro eq
      exact ⟨by omega, by omega⟩
    · rintro ⟨eq, eq'⟩
      rw [eq, eq']

/-- A wrapped total is the exact one if it does not wrap, and no unit is misplaced. -/
theorem exactTotal_int64_iff (readable : ∀ size ∈ sizes, amount size ≠ none) :
    ExactTotal sizes (int64 (tableTotal sizes)) ↔ tableTotal sizes < 2 ^ 63 ∧
      ∀ size ∈ sizes, isMisplaced size.2.toLower = true → number size.1 = 0 := by
  obtain ⟨units, nonneg, le, eq_iff⟩ := exact_of_readable digits readable
  rw [← eq_iff]
  have bound : int64 (tableTotal sizes) < 2 ^ 63 := Int.bmod_lt (by decide)
  constructor
  · intro exact
    have small : tableTotal sizes < 2 ^ 63 := by
      have := exact.sum
      omega
    have same : int64 (tableTotal sizes) = tableTotal sizes :=
      Int.bmod_eq_of_le (by norm_num; omega) (by norm_num; omega)
    exact ⟨small, same.symm.trans exact.sum⟩
  · rintro ⟨small, same⟩
    have held : int64 (tableTotal sizes) = tableTotal sizes :=
      Int.bmod_eq_of_le (by norm_num; omega) (by norm_num; omega)
    exact ⟨units, held.trans same⟩

end Total

/-- A size that the loop cannot read: too large a number, or a unit that is not in the table. -/
def Unreadable (size : String × String) : Prop :=
  2 ^ 63 ≤ number size.1 ∨ multiplierMap.lookup size.2.toLower = none

theorem amount_eq_none_iff {size : String × String} (digits : HasDigits size) :
    amount size = none ↔ Unreadable size := by
  unfold Unreadable
  rw [amount_eq digits]
  by_cases small : number size.1 < 2 ^ 63
  · rw [if_pos small, Option.map_eq_none_iff]
    exact ⟨.inr, fun either => either.resolve_left (Nat.not_le.mpr small)⟩
  · rw [if_neg small]
    exact iff_of_true rfl (.inl (Nat.le_of_not_lt small))

/-- The outputs of dmidecode whose sizes are summed exactly, or not at all: it fails, a size cannot be
read, the sum wraps to 0, or it does not wrap and has no exabytes and zettabytes. -/
def Summable (d : Util.Dependencies) : Prop :=
  match d.execute ["dmidecode", "-t", "17"] with
  | (o, _, exitCode) => exitCode ≠ 0 ∨ (∃ size ∈ sizes o, Unreadable size) ∨
      2 ^ 64 ∣ tableTotal (sizes o) ∨
      (tableTotal (sizes o) < 2 ^ 63 ∧
        ∀ size ∈ sizes o, isMisplaced size.2.toLower = true → number size.1 = 0)

/-- **Which outputs are summed exactly, or not at all.** -/
theorem exactOrZero_iff (d : Util.Dependencies) : ExactOrZero d ↔ Summable d := by
  unfold ExactOrZero Summable getDmidecodeTotalPhysicalBytes
  obtain ⟨o, e, exitCode⟩ := d.execute ["dmidecode", "-t", "17"]
  dsimp only
  by_cases failed : exitCode ≠ 0
  · rw [if_pos failed]
    exact iff_of_true (.inl rfl) (.inl failed)
  rw [if_neg failed]
  by_cases unreadable : ∃ size ∈ sizes o, amount size = none
  · refine iff_of_true (.inl (sumSizes_of_unreadable unreadable 0)) (.inr (.inl ?_))
    obtain ⟨size, member, unread⟩ := unreadable
    exact ⟨size, member, (amount_eq_none_iff (hasDigits_of_sizes size member)).mp unread⟩
  have readable : ∀ size ∈ sizes o, amount size ≠ none := fun size member unread =>
    unreadable ⟨size, member, unread⟩
  have none : ¬ ∃ size ∈ sizes o, Unreadable size := fun ⟨size, member, unread⟩ =>
    readable size member ((amount_eq_none_iff (hasDigits_of_sizes size member)).mpr unread)
  have total : sumSizes (split o '\n') 0 = int64 (tableTotal (sizes o)) := by
    rw [sumSizes_of_readable readable (by decide), Int.zero_add]
    rfl
  rw [total, exactTotal_int64_iff hasDigits_of_sizes readable, or_iff_right failed, or_iff_right none]
  exact or_congr_left (Int.dvd_iff_bmod_eq_zero (a := 2 ^ 64)).symm

/-- **A wrong total wins**: one that is neither 0 nor exact is what the inventory reports, whatever
`ghw` and `/proc/meminfo` say. -/
theorem reported_wrong {d : Util.Dependencies} (wrong : ¬ ExactOrZero d) (ghw : Except String Int) :
    (getMemory d ghw).physicalBytesMethod = .dmidecode ∧
      ¬ ExactTotal (sizes (d.execute ["dmidecode", "-t", "17"]).1) (getMemory d ghw).physicalBytes := by
  obtain ⟨nonzero, inexact⟩ := not_or.mp wrong
  unfold getMemory getTotalPhysicalBytes
  rw [if_pos nonzero]
  exact ⟨rfl, inexact⟩

/-! ### Two outputs -/

/-- A host on which every tool succeeds and prints this. -/
def printing (o : String) : Util.Dependencies where
  interfaces := .ok []
  addrs _ := .ok []
  evalSymlinks path := .ok path
  linkByName _ := .error "Link not found"
  readFile path := .error ("open " ++ path ++ ": no such file or directory")
  execute _ := (o, "", 0)
  routeList _ := .ok []

theorem not_exactOrZero_exabyte :
    getDmidecodeTotalPhysicalBytes (printing "\tSize: 1 EB") = 1024 ^ 5 ∧
      ExactTotal (sizes "\tSize: 1 EB") (1024 ^ 6) ∧
      getDmidecodeTotalPhysicalBytes (printing "\tSize: 8388608 TB") = -2 ^ 63 ∧
      ¬ ExactOrZero (printing "\tSize: 1 EB") := by
  have total : getDmidecodeTotalPhysicalBytes (printing "\tSize: 1 EB") = 1024 ^ 5 := by
    decide +kernel
  have listed : sizes "\tSize: 1 EB" = [("1", "EB")] := by decide +kernel
  have exact : ExactTotal (sizes "\tSize: 1 EB") (1024 ^ 6) := by
    rw [listed]
    exact ⟨by decide +kernel, by decide +kernel⟩
  refine ⟨total, exact, by decide +kernel, ?_⟩
  rintro (zero | same)
  · rw [total] at zero
    revert zero
    decide
  · have sum := same.sum.trans exact.sum.symm
    rw [total] at sum
    revert sum
    decide

end AssistedAgent.Inventory
