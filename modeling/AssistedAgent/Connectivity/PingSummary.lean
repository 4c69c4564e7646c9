/-
**What is read from the output of ping.**

`parsePingCmd` searches the output for the line of the packets and for the line of the round trip times,
each with a regular expression. The line of the packets has parts that ping prints only if there is
something to say: duplicates, corrupted packets, errors. The expression has no place for them.

* `Statistics` — the numbers that ping prints, and `Prints` — an output that has them, once.
* `loss_of_match`, `avg_of_match` — a match of the expressions, wherever it is in the output and however
  it was found, has the packet loss and the average, as each line is there once.
* **`readBack_iff`** — the numbers are read back exactly when none of the parts is printed.
* `not_readBack_errors` — an address that answered nine of ten packets and is reported unreachable.
-/

import AssistedAgent.Connectivity.Checkers
import AssistedAgent.Lib.RegexpMatches

namespace AssistedAgent.Connectivity

open GoRegexp

/-! ### The output of ping -/

/-- Digits. -/
def IsNumber (text : List Char) : Prop := text ≠ [] ∧ ∀ x ∈ text, x.isDigit = true

/-- Digits, with a fraction or without one. -/
def IsDecimal (text : List Char) : Prop :=
  ∃ whole, IsNumber whole ∧ (text = whole ∨ ∃ fraction, IsNumber fraction ∧
    text = whole ++ '.' :: fraction)

structure Number where
  text : List Char
  isNumber : IsNumber text

structure Decimal where
  text : List Char
  isDecimal : IsDecimal text

/-- A number from its digits. -/
def Number.ofText (text : String) (is : text.toList ≠ [] ∧ text.toList.all Char.isDigit = true) :
    Number :=
  ⟨text.toList, is.1, List.all_eq_true.mp is.2⟩

/-- A decimal number without a fraction, and one with a fraction. -/
def Number.decimal (whole : Number) : Decimal := ⟨whole.text, whole.text, whole.isNumber, .inl rfl⟩

def Number.decimalWith (whole fraction : Number) : Decimal :=
  ⟨whole.text ++ '.' :: fraction.text, whole.text, whole.isNumber, .inr
    ⟨fraction.text, fraction.isNumber, rfl⟩⟩

structure Statistics where
  transmitted : Number
  received : Number
  duplicates : Option Number
  corrupted : Option Number
  errors : Option Number
  loss : Decimal
  time : Number
  min : Decimal
  avg : Decimal
  max : Decimal
  mdev : Decimal

namespace Statistics

def transmittedWords : List Char := " packets transmitted, ".toList

def receivedWord : List Char := " received".toList

def lossWords : List Char := "% packet loss, time ".toList

def rttWords : List Char := "rtt min/avg/max/mdev = ".toList

/-- A part that is printed only for a number. -/
def extra (label : String) : Option Number → List Char
  | none => []
  | some number => [',', ' ', '+'] ++ (number.text ++ label.toList)

variable (s : Statistics)

/-- The parts that are not always there. -/
def extras : List Char :=
  extra " duplicates" s.duplicates ++ (extra " corrupted" s.corrupted ++ extra " errors" s.errors)

/-- The line of the packets. -/
def packets : List Char :=
  s.transmitted.text ++ (transmittedWords ++
    (s.received.text ++ (receivedWord ++ (s.extras ++ ([',', ' '] ++
    (s.loss.text ++ (lossWords ++ (s.time.text ++ ['m', 's']))))))))

/-- The line of the round trip times. -/
def rtt : List Char :=
  rttWords ++ (s.min.text ++ '/' :: (s.avg.text ++ '/' ::
    (s.max.text ++ '/' :: (s.mdev.text ++ [' ', 'm', 's']))))

/-- No part is printed that is not always there. -/
def Plain : Prop := s.duplicates = none ∧ s.corrupted = none ∧ s.errors = none

end Statistics

/-- The places of a text at which a word is. -/
def places (word text : List Char) : List Nat :=
  (List.range (text.length + 1)).filter fun i => word.isPrefixOf (text.drop i)

/-- A word is in a text once. -/
def Once (word text : List Char) : Prop := (places word text).length = 1

/-- An output of ping with these statistics: the two lines one after the other, neither of them a second
time, and no further slash after them. -/
structure Prints (s : Statistics) (output : List Char) : Prop where
  split : ∃ before more, output = before ++ (s.packets ++ '\n' :: (s.rtt ++ more)) ∧ '/' ∉ more
  packetsOnce : Once Statistics.transmittedWords output
  rttOnce : Once Statistics.rttWords output

/-- The packet loss and the average are read back as these numbers, and the address of the output is
reported reachable with them. -/
structure ReadBack (t : Tools) (w : World) (a : Attributes) (loss avg : Float64) (output : String) :
    Prop where
  parsed : ∀ conn, parsePingCmd t conn output =
    ({ conn with packetLossPercentage := loss, averageRTTMs := avg }, none)
  reported : w.execute 0 ["ping", "-c", pingCount, "-W", "3", "-q", a.remoteIPAddress] =
    (output, none) →
    pingCheck t w a = some (.l3 ⟨avg, "", loss, a.remoteIPAddress, true⟩)

/-! ### Numbers -/

/-- The characters of a decimal number. -/
def isDecimalChar (x : Char) : Bool := x.isDigit || x == '.'

theorem IsNumber.decimalChars {text : List Char} (is : IsNumber text) :
    ∀ x ∈ text, isDecimalChar x = true := by
  intro x member
  rw [isDecimalChar, is.2 x member, Bool.true_or]

theorem IsDecimal.chars {text : List Char} (is : IsDecimal text) :
    ∀ x ∈ text, isDecimalChar x = true := by
  obtain ⟨whole, isWhole, rfl | ⟨fraction, isFraction, rfl⟩⟩ := is
  · exact isWhole.decimalChars
  · intro x member
    rcases List.mem_append.mp member with member | member
    · exact isWhole.decimalChars x member
    · rcases List.mem_cons.mp member with rfl | member
      · decide
      · exact isFraction.decimalChars x member

theorem IsDecimal.nonempty {text : List Char} (is : IsDecimal text) : text ≠ [] := by
  obtain ⟨whole, isWhole, rfl | ⟨fraction, isFraction, rfl⟩⟩ := is
  · exact isWhole.1
  · exact List.append_ne_nil_of_left_ne_nil isWhole.1 _

theorem IsDecimal.not_mem {text : List Char} (is : IsDecimal text) {x : Char}
    (other : isDecimalChar x = false) :
    x ∉ text := by
  intro member
  cases (is.chars x member).symm.trans other

theorem Once.rest_eq {word text before rest before' rest' : List Char} (once : Once word text)
    (is : text = before ++ (word ++ rest)) (is' : text = before' ++ (word ++ rest')) :
      rest = rest' := by
  have place {before rest : List Char} (is : text = before ++ (word ++ rest)) :
    before.length ∈ places word text := by
    refine List.mem_filter.mpr ⟨List.mem_range.mpr ?_, ?_⟩
    · rw [is, List.length_append]
      omega
    · rw [is, List.drop_left]
      exact List.isPrefixOf_iff_prefix.mpr (List.prefix_append word rest)
  obtain ⟨only, eq⟩ := List.length_eq_one_iff.mp once
  have here := place is
  have here' := place is'
  rw [eq, List.mem_singleton] at here here'
  obtain ⟨-, same⟩ := List.append_inj (is.symm.trans is') (here.trans here'.symm)
  exact List.append_cancel_left same

/-! ### The packet loss -/

/-- `(([\d]*[.])?[\d]+)`. -/
def lossGroup : Regex :=
  .group 1 (.seq (.opt (.group 2 (.seq (.star .digit) (.char '.')))) (.plus .digit))

/-- What the group takes has the characters of a decimal number. -/
theorem lossGroup_sound {c next : Cursor} (member : next ∈ run lossGroup c) :
    ∃ text rest, text ≠ [] ∧ (∀ x ∈ text, isDecimalChar x = true) ∧ c.rest = text ++ rest ∧
      next.rest = rest ∧
      next.groups.lookup 1 = some text := by
  obtain ⟨inner, body, rfl⟩ := mem_run_group.mp member
  obtain ⟨middle, optional, later⟩ := mem_run_seq.mp body
  obtain ⟨digits, rest, nonempty, every, is, rfl⟩ := mem_run_plus.mp later
  have fraction : IsNumber digits := ⟨nonempty, every⟩
  rcases mem_run_alt.mp optional with grouped | skipped
  · obtain ⟨dotted, inside, rfl⟩ := mem_run_group.mp grouped
    obtain ⟨first, starred, one⟩ := mem_run_seq.mp inside
    obtain ⟨whole, _, everyWhole, split, rfl⟩ := mem_run_star.mp starred
    obtain ⟨_, rfl, rfl⟩ := mem_run_char.mp one
    obtain rfl : _ = digits ++ rest := is
    have split' : c.rest = (whole ++ '.' :: digits) ++ rest := by
      rw [split, List.append_assoc, List.cons_append]
    refine ⟨whole ++ '.' :: digits, rest, by simp, fun x member => ?_, split', rfl, ?_⟩
    · rcases List.mem_append.mp member with member | member
      · rw [isDecimalChar, everyWhole x member, Bool.true_or]
      · rcases List.mem_cons.mp member with rfl | member
        · decide
        · exact fraction.decimalChars x member
    · rw [List.lookup_cons_self, split', List.take_left']
      simp only [Cursor.after_pos, List.length_append, List.length_cons, List.length_nil]
      omega
  · obtain rfl := mem_run_empty.mp skipped
    refine ⟨digits, rest, nonempty, fraction.decimalChars, is, rfl, ?_⟩
    rw [List.lookup_cons_self, is, List.take_left']
    rw [Cursor.after_pos, Nat.add_sub_cancel_left]

/-- The group can take a decimal number. -/
theorem lossGroup_complete {c : Cursor} {text rest : List Char} (is : IsDecimal text)
    (split : c.rest = text ++ rest) :
    ∃ next ∈ run lossGroup c, next.rest = rest := by
  have grouped (inner : Cursor) (member : inner ∈
      run (.seq (.opt (.group 2 (.seq (.star .digit) (.char '.')))) (.plus .digit)) c) :
      ∃ next ∈ run lossGroup c, next.rest = inner.rest :=
        ⟨_, mem_run_group.mpr ⟨inner, member, rfl⟩, rfl⟩
  obtain ⟨whole, ⟨nonempty, every⟩, rfl | ⟨fraction, ⟨nonempty', every'⟩, rfl⟩⟩ := is
  · refine grouped (c.after text rest)
      (mem_run_seq.mpr ⟨c, mem_run_alt.mpr (.inr (mem_run_empty.mpr rfl)), ?_⟩)
    exact mem_run_plus.mpr ⟨text, rest, nonempty, every, split, rfl⟩
  · rw [List.append_assoc, List.cons_append] at split
    have dotted : (c.after whole ('.' :: (fraction ++ rest))).after ['.'] (fraction ++ rest) ∈
        run (.seq (.star .digit) (.char '.')) c :=
      mem_run_seq.mpr ⟨_, mem_run_star.mpr ⟨whole, _, every, split, rfl⟩, mem_run_char.mpr
        ⟨_, rfl, rfl⟩⟩
    exact grouped _ (mem_run_seq.mpr ⟨_, mem_run_alt.mpr (.inl (mem_run_group.mpr ⟨_, dotted, rfl⟩)),
      mem_run_plus.mpr ⟨fraction, rest, nonempty', every', rfl, rfl⟩⟩)

theorem packetLossRegex_eq : packetLossRegex =
    .all [.plus .digit, .lit " packets transmitted, ", .plus .digit, .lit " received, ", lossGroup,
      .lit "% packet loss, time ", .plus .digit, .lit "ms"] := rfl

namespace Statistics

variable {s : Statistics} {output : List Char}

theorem extras_cases (s : Statistics) : s.Plain ∧ s.extras = [] ∨
    ¬ s.Plain ∧ ∃ more, s.extras = [',', ' ', '+'] ++ more := by
  unfold Plain extras
  cases s.duplicates with
  | some number => exact .inr ⟨nofun, _, List.append_assoc _ _ _⟩
  | none =>
    cases s.corrupted with
    | some number => exact .inr ⟨nofun, _, List.append_assoc _ _ _⟩
    | none =>
      cases s.errors with
      | some number => exact .inr ⟨nofun, _, rfl⟩
      | none => exact .inl ⟨⟨rfl, rfl, rfl⟩, rfl⟩

/-- A match of the packets' expression, at its place. -/
theorem packetLossRegex_sound {c next : Cursor} (member : next ∈ run packetLossRegex c) :
    ∃ digits number text more, c.rest = digits ++
      (transmittedWords ++ (number ++ (receivedWord ++ ([',', ' '] ++
        (text ++ (lossWords ++ more)))))) ∧
      (∀ x ∈ number, x.isDigit = true) ∧ text ≠ [] ∧ (∀ x ∈ text, isDecimalChar x = true) ∧
      next.groups.lookup 1 = some text := by
  rw [packetLossRegex_eq, Regex.digit, mem_run_all_plus] at member
  obtain ⟨digits, _, -, -, is, transmitted⟩ := member
  obtain ⟨_, rfl, numbered⟩ := mem_run_all_lit.mp transmitted
  obtain ⟨number, _, -, every, rfl, received⟩ := mem_run_all_plus.mp numbered
  obtain ⟨_, rfl, lost⟩ := mem_run_all_lit.mp received
  obtain ⟨captured, loss, percent⟩ := mem_run_all_cons.mp lost
  obtain ⟨text, _, nonempty, chars, rfl, rest, lookup⟩ := lossGroup_sound loss
  obtain ⟨more, percentIs, timed⟩ := mem_run_all_lit.mp percent
  obtain ⟨_, _, -, -, -, ended⟩ := mem_run_all_plus.mp timed
  obtain ⟨_, -, last⟩ := mem_run_all_lit.mp ended
  refine ⟨digits, number, text, more, ?_, every, nonempty, chars, ?_⟩
  · rw [is, ← rest, percentIs]
    rfl
  · rw [mem_run_all_nil.mp last]
    exact lookup

theorem blank_stops (text : List Char) : ∀ x ∈ (receivedWord ++ text).head?, x.isDigit = false := by
  rintro x ⟨⟩
  decide

theorem percent_stops (text : List Char) :
    ∀ x ∈ (lossWords ++ text).head?, isDecimalChar x = false := by
  rintro x ⟨⟩
  decide

/-- **A match of the packets' expression** has the packet loss, and there is none if a part is printed
that the expression has no place for. -/
theorem loss_of_match (prints : Prints s output) {i : Nat} {next : Cursor}
    (member : next ∈ run packetLossRegex ⟨i, output.drop i, []⟩) :
    s.Plain ∧ next.groups.lookup 1 = some s.loss.text := by
  obtain ⟨digits, number, text, more, here, every, nonempty, chars, lookup⟩ :=
    packetLossRegex_sound member
  obtain ⟨before, later, split, -⟩ := prints.split
  -- The words are there once, so the match is at the line.
  have atMatch : output = (output.take i ++ digits) ++
    (transmittedWords ++ (number ++ (receivedWord ++ ([',', ' '] ++
      (text ++ (lossWords ++ more)))))) := by
    rw [List.append_assoc, ← here, List.take_append_drop]
  have atLine : output = (before ++ s.transmitted.text) ++
    (transmittedWords ++ (s.received.text ++ (receivedWord ++
      (s.extras ++ ([',', ' '] ++ (s.loss.text ++ (lossWords ++ (s.time.text ++ (['m', 's'] ++
        '\n' :: (s.rtt ++ later)))))))))) := by
    rw [split, packets]
    simp only [List.append_assoc]
  have same := prints.packetsOnce.rest_eq atMatch atLine
  obtain ⟨-, same⟩ := append_inj_of_class same every s.received.isNumber.2 (blank_stops _)
    (blank_stops _)
  have rest := List.append_cancel_left same
  rcases extras_cases s with ⟨plain, none⟩ | ⟨-, more, some⟩
  · rw [none, List.nil_append] at rest
    obtain ⟨rfl, -⟩ := append_inj_of_class (List.append_cancel_left rest) chars s.loss.isDecimal.chars
      (percent_stops _) (percent_stops _)
    exact ⟨plain, lookup⟩
  · -- The expression would have to take a plus sign for a number.
    rw [some] at rest
    obtain ⟨x, text, rfl⟩ := List.exists_cons_of_ne_nil nonempty
    injection rest with _ rest
    injection rest with _ rest
    injection rest with plus _
    have digit := chars x List.mem_cons_self
    rw [plus] at digit
    exact absurd digit (by decide)

/-- The packets' line matches if no part is printed that the expression has no place for. -/
theorem exists_loss_match (prints : Prints s output) (plain : s.Plain) :
    ∃ i ≤ output.length, ∃ next, next ∈ run packetLossRegex ⟨i, output.drop i, []⟩ := by
  obtain ⟨before, later, split, -⟩ := prints.split
  have none : s.extras = [] := by
    rcases extras_cases s with ⟨-, none⟩ | ⟨not, -⟩
    · exact none
    · exact absurd plain not
  have here : output.drop before.length = s.transmitted.text ++ (transmittedWords ++ (s.received.text ++
      ((receivedWord ++ [',', ' ']) ++ (s.loss.text ++ (lossWords ++ (s.time.text ++ (['m', 's'] ++
        '\n' :: (s.rtt ++ later)))))))) := by
    rw [split, List.drop_left, packets, none]
    simp only [List.append_assoc, List.nil_append]
  refine ⟨before.length, by rw [split, List.length_append]; exact Nat.le_add_right _ _, ?_⟩
  rw [packetLossRegex_eq, Regex.digit]
  obtain ⟨captured, loss, rest⟩ := lossGroup_complete
    (c := (((Cursor.mk before.length (output.drop before.length) []).after
    s.transmitted.text _).after transmittedWords _).after s.received.text _ |>.after
      (receivedWord ++ [',', ' ']) _)
    s.loss.isDecimal rfl
  exact ⟨_, mem_run_all_plus.mpr ⟨_, _, s.transmitted.isNumber.1, s.transmitted.isNumber.2, here,
    mem_run_all_lit.mpr ⟨_, rfl, mem_run_all_plus.mpr
      ⟨_, _, s.received.isNumber.1, s.received.isNumber.2, rfl,
      mem_run_all_lit.mpr ⟨_, rfl, mem_run_all_cons.mpr ⟨captured, loss,
        mem_run_all_lit.mpr ⟨_, rest, mem_run_all_plus.mpr
          ⟨_, _, s.time.isNumber.1, s.time.isNumber.2, rfl,
          mem_run_all_lit.mpr ⟨_, rfl, mem_run_all_nil.mpr rfl⟩⟩⟩⟩⟩⟩⟩⟩⟩

/-! ### The average -/

/-- A match of the round trips' expression, at its place. -/
theorem rttRegex_sound {c next : Cursor} (member : next ∈ run rttRegex c) :
    ∃ first text third last more, c.rest = rttWords ++
      (first ++ '/' :: (text ++ '/' :: (third ++ '/' :: (last ++
        ([' ', 'm', 's'] ++ more))))) ∧ '/' ∉ text ∧ next.groups.lookup 1 = some text := by
  have slash : "/".toList = ['/'] := rfl
  rw [rttRegex, mem_run_all_lit] at member
  obtain ⟨_, is, afterWords⟩ := member
  obtain ⟨first, _, -, rfl, afterFirst⟩ := mem_run_all_star.mp afterWords
  obtain ⟨_, rfl, grouped⟩ := mem_run_all_char.mp afterFirst
  obtain ⟨text, _, ⟨-, plain⟩, rfl, afterText⟩ := mem_run_all_group_plus.mp grouped
  obtain ⟨_, rfl, beforeThird⟩ := mem_run_all_char.mp afterText
  obtain ⟨third, _, -, rfl, afterThird⟩ := mem_run_all_star.mp beforeThird
  obtain ⟨_, rfl, beforeLast⟩ := mem_run_all_char.mp afterThird
  obtain ⟨last, _, -, rfl, afterLast⟩ := mem_run_all_star.mp beforeLast
  obtain ⟨more, rfl, ended⟩ := mem_run_all_lit.mp afterLast
  refine ⟨first, text, third, last, more, is, (noneOf_iff slash).mp plain, ?_⟩
  rw [mem_run_all_nil.mp ended]
  rfl

/-- **A match of the round trips' expression** has the average: there are no slashes but those between the
four numbers. -/
theorem avg_of_match (prints : Prints s output) {i : Nat} {next : Cursor}
    (member : next ∈ run rttRegex ⟨i, output.drop i, []⟩) : next.groups.lookup 1 = some s.avg.text := by
  obtain ⟨first, text, third, last, more, here, plain, lookup⟩ := rttRegex_sound member
  obtain ⟨before, later, split, noSlash⟩ := prints.split
  have atMatch : output = output.take i ++ (rttWords ++
    (first ++ '/' :: (text ++ '/' :: (third ++ '/' :: (last ++
      ([' ', 'm', 's'] ++ more)))))) := by
    rw [← here, List.take_append_drop]
  have atLine : output = (before ++ (s.packets ++ ['\n'])) ++
    (rttWords ++ (s.min.text ++ '/' :: (s.avg.text ++
      '/' :: (s.max.text ++ '/' :: (s.mdev.text ++ ([' ', 'm', 's'] ++ later)))))) := by
    rw [split, rtt]
    simp only [List.append_assoc, List.cons_append, List.nil_append]
  have same := prints.rttOnce.rest_eq atMatch atLine
  have without (number : Decimal) : number.text.count '/' = 0 :=
    List.count_eq_zero.mpr (number.isDecimal.not_mem (by decide))
  have slashes := congrArg (List.count '/') same
  simp only [List.count_append, List.count_cons_self, without,
    List.count_eq_zero.mpr noSlash] at slashes
  have noFirst : '/' ∉ first := List.count_eq_zero.mp (by omega)
  obtain ⟨-, second⟩ := append_cons_inj same noFirst (s.min.isDecimal.not_mem (by decide))
  obtain ⟨rfl, -⟩ := append_cons_inj second plain (s.avg.isDecimal.not_mem (by decide))
  exact lookup

/-- The round trips' line matches. -/
theorem exists_avg_match (prints : Prints s output) :
    ∃ i ≤ output.length, ∃ next, next ∈ run rttRegex ⟨i, output.drop i, []⟩ := by
  obtain ⟨before, later, split, -⟩ := prints.split
  have slash : "/".toList = ['/'] := rfl
  have oneLine (number : Decimal) : ∀ x ∈ number.text, (x != '\n') = true := by
    intro x member
    exact bne_iff_ne.mpr fun eq => number.isDecimal.not_mem (by decide) (eq ▸ member)
  have noSlash : ∀ x ∈ s.avg.text, (! "/".toList.contains x) = true :=
    (noneOf_iff slash).mpr (s.avg.isDecimal.not_mem (by decide))
  have here : output.drop (before ++ (s.packets ++ ['\n'])).length = rttWords ++
    (s.min.text ++ '/' :: (s.avg.text ++
      '/' :: (s.max.text ++ '/' :: (s.mdev.text ++ ([' ', 'm', 's'] ++ later))))) := by
    have again : output = (before ++ (s.packets ++ ['\n'])) ++ (s.rtt ++ later) := by
      rw [split]
      simp only [List.append_assoc, List.cons_append, List.nil_append]
    rw [again, List.drop_left, rtt]
    simp only [List.append_assoc, List.cons_append, List.nil_append]
  refine ⟨(before ++ (s.packets ++ ['\n'])).length, ?_, ?_⟩
  · rw [split, List.length_append, List.length_append, List.length_append, List.length_append]
    simp only [List.length_cons, List.length_nil]
    omega
  · exact ⟨_, mem_run_all_lit.mpr ⟨_, here, mem_run_all_star.mpr
    ⟨_, _, oneLine s.min, rfl, mem_run_all_char.mpr ⟨_, rfl,
      mem_run_all_group_plus.mpr ⟨_, _, ⟨s.avg.isDecimal.nonempty, noSlash⟩, rfl,
        mem_run_all_char.mpr ⟨_, rfl,
        mem_run_all_star.mpr ⟨_, _, oneLine s.max, rfl, mem_run_all_char.mpr ⟨_, rfl,
          mem_run_all_star.mpr ⟨_, _, oneLine s.mdev, rfl, mem_run_all_lit.mpr ⟨_, rfl,
            mem_run_all_nil.mpr rfl⟩⟩⟩⟩⟩⟩⟩⟩⟩⟩

end Statistics

/-! ### Reading back -/

/-- Where all matches agree on the first group, it is the text that is read. -/
theorem regexMatchFor_of_agree (pattern : String) {r : Regex} (groups : Nat) {line : String}
    {value : List Char}
    (matched : ∃ i ≤ line.toList.length, ∃ next, next ∈ run r ⟨i, line.toList.drop i, []⟩)
    (agree : ∀ i, ∀ next ∈ run r ⟨i, line.toList.drop i, []⟩, next.groups.lookup 1 = some value) :
    ∃ parts, regexMatchFor pattern r (groups + 1) line = .ok parts ∧
      parts.getD 1 "" = String.ofList value := by
  rcases findStringSubmatch_cases r (groups + 1) line with ⟨-, never⟩ | ⟨i, bound, c, member, whole, is⟩
  · obtain ⟨i, bound, next, member⟩ := matched
    rw [never i bound] at member
    cases member
  · rw [List.range_succ_eq_map, List.map_cons, agree i c member] at is
    refine ⟨findStringSubmatch r (groups + 1) line, ?_, ?_⟩
    · rw [regexMatchFor, is]
      rfl
    · rw [is]
      rfl

/-- Where nothing matches, nothing is read. -/
theorem regexMatchFor_of_none (pattern : String) {r : Regex} (groups : Nat) {line : String}
    (none : ∀ i, ∀ next, next ∉ run r ⟨i, line.toList.drop i, []⟩) :
    regexMatchFor pattern r groups line =
      .error ("unable to parse " ++ line ++ " with regex " ++ pattern) := by
  rcases findStringSubmatch_cases r groups line with ⟨nothing, -⟩ | ⟨i, -, c, member, -⟩
  · rw [regexMatchFor, nothing]
    rfl
  · exact absurd member (none i c)

variable {t : Tools} {s : Statistics} {output : String}

theorem Prints.ne_empty (prints : Prints s output.toList) : output ≠ "" := by
  rintro rfl
  obtain ⟨before, more, split, -⟩ := prints.split
  have empty := (List.append_eq_nil_iff.mp split.symm).2
  cases (List.append_eq_nil_iff.mp empty).2

/-- With a part that the expression has no place for, the output is not read. -/
theorem parsePingCmd_of_not_plain (prints : Prints s output.toList) (not : ¬ s.Plain)
    (conn : L3Connectivity) :
    ∃ err, parsePingCmd t conn output = (conn, some err) := by
  have never : ∀ i, ∀ next, next ∉ run packetLossRegex ⟨i, output.toList.drop i, []⟩ :=
    fun i next member => not (Statistics.loss_of_match prints member).1
  rw [parsePingCmd, if_neg prints.ne_empty, regexMatchFor_of_none packetLossPattern 2 never]
  exact ⟨_, rfl⟩

/-- The address is then reported unreachable, though ping has succeeded. -/
theorem pingCheck_of_not_plain {w : World} {a : Attributes} (prints : Prints s output.toList)
    (not : ¬ s.Plain)
    (ran : w.execute 0 ["ping", "-c", pingCount, "-W", "3", "-q", a.remoteIPAddress] = (output, none)) :
    pingCheck t w a = some (.l3 ⟨0, "", 0, a.remoteIPAddress, false⟩) := by
  obtain ⟨err, failed⟩ := parsePingCmd_of_not_plain (t := t) prints not
    ⟨0, "", 0, a.remoteIPAddress, false⟩
  rw [pingCheck, ran]
  dsimp only
  rw [failed]

/-- `strconv.ParseFloat` reads the two literals that are printed as these numbers. -/
structure Literals (t : Tools) (s : Statistics) (loss avg : Float64) : Prop where
  loss : t.parseFloat (String.ofList s.loss.text) = (loss, none)
  avg : t.parseFloat (String.ofList s.avg.text) = (avg, none)

/-- Without one, the packet loss and the average are read. -/
theorem parsePingCmd_of_plain {loss avg : Float64} (literals : Literals t s loss avg)
    (prints : Prints s output.toList) (plain : s.Plain) (conn : L3Connectivity) :
    parsePingCmd t conn output =
      ({ conn with packetLossPercentage := loss, averageRTTMs := avg }, none) := by
  obtain ⟨parts, found, isLoss⟩ := regexMatchFor_of_agree packetLossPattern 1
    (Statistics.exists_loss_match prints plain) fun i next member =>
      (Statistics.loss_of_match prints member).2
  obtain ⟨parts', found', isAvg⟩ := regexMatchFor_of_agree rttPattern 0
    (Statistics.exists_avg_match prints) fun i next member => Statistics.avg_of_match prints member
  rw [parsePingCmd, if_neg prints.ne_empty, found]
  dsimp only
  rw [isLoss, literals.loss, found']
  dsimp only
  rw [isAvg, literals.avg]

/-- **When the statistics of ping are read back.** -/
theorem readBack_iff (t : Tools) (w : World) (a : Attributes) (s : Statistics) (output : String)
    {loss avg : Float64} (literals : Literals t s loss avg) (prints : Prints s output.toList) :
    ReadBack t w a loss avg output ↔ s.duplicates = none ∧ s.corrupted = none ∧ s.errors = none := by
  constructor
  · intro back
    by_contra extra
    obtain ⟨err, failed⟩ := parsePingCmd_of_not_plain prints extra ⟨0, "", 0, a.remoteIPAddress, false⟩
    cases (congrArg Prod.snd failed).symm.trans (congrArg Prod.snd (back.parsed _))
  · intro plain
    have parsed := parsePingCmd_of_plain literals prints plain
    refine ⟨parsed, fun ran => ?_⟩
    rw [pingCheck, ran]
    dsimp only
    rw [parsed]

/-- The bits of `10` and of `2.5`. -/
def bits10 : Float64 := 0x4024000000000000

def bits2_5 : Float64 := 0x4004000000000000

/-- Tools that read these two literals. -/
def literalTools : Tools :=
  { asciiTools with
    parseFloat := fun text =>
      if text = "10" then (bits10, none)
      else if text = "2.5" then (bits2_5, none)
      else asciiTools.parseFloat text }

/-- Ten packets, nine answers, and maybe a number of errors. -/
def nineOfTen (errors : Option Number) : Statistics where
  transmitted := .ofText "10" (by decide)
  received := .ofText "9" (by decide)
  duplicates := none
  corrupted := none
  errors := errors
  loss := (Number.ofText "10" (by decide)).decimal
  time := .ofText "9012" (by decide)
  min := (Number.ofText "1" (by decide)).decimal
  avg := (Number.ofText "2" (by decide)).decimalWith (.ofText "5" (by decide))
  max := (Number.ofText "3" (by decide)).decimal
  mdev := (Number.ofText "1" (by decide)).decimal

/-- The end of what `ping -q` prints. -/
def quietOutput (s : Statistics) : List Char :=
  "statistics ---\n".toList ++ (s.packets ++ '\n' :: (s.rtt ++ ['\n']))

theorem prints_quietOutput {s : Statistics}
    (packetsOnce : (places Statistics.transmittedWords (quietOutput s)).length = 1)
    (rttOnce : (places Statistics.rttWords (quietOutput s)).length = 1) :
    Prints s (String.ofList (quietOutput s)).toList := by
  rw [String.toList_ofList]
  exact ⟨⟨_, ['\n'], rfl, by decide⟩, packetsOnce, rttOnce⟩

/-- An address to ping. -/
def pingTarget : Attributes := ⟨"192.168.1.2", "", ⟨1500, "eth0", true, true, []⟩, []⟩

theorem literals_nineOfTen (errors : Option Number) :
    Literals literalTools (nineOfTen errors) bits10 bits2_5 := by
  have loss : literalTools.parseFloat (String.ofList ['1', '0']) = (bits10, none) := by decide +kernel
  have avg : literalTools.parseFloat (String.ofList ['2', '.', '5']) = (bits2_5, none) := by decide +kernel
  exact ⟨loss, avg⟩

/-- A packet loss of 10 percent and an average of 2.5 ms are reported. -/
theorem readBack_nineOfTen :
    pingCheck literalTools (printsAlways (String.ofList (quietOutput (nineOfTen none)))) pingTarget =
      some (.l3 ⟨0x4004000000000000, "", 0x4024000000000000, "192.168.1.2", true⟩) :=
  ((readBack_iff literalTools (printsAlways _) pingTarget _ _ (literals_nineOfTen none)
    (prints_quietOutput (by decide +kernel) (by decide +kernel))).mpr ⟨rfl, rfl, rfl⟩).reported rfl

/-- Nine answers and an error. -/
def nineAndError : Statistics := nineOfTen (some (.ofText "1" (by decide)))

/-- With an error among the answers, the address is reported unreachable, though ping has succeeded. -/
theorem not_readBack_errors :
    pingCheck literalTools (printsAlways (String.ofList (quietOutput nineAndError))) pingTarget =
        some (.l3 ⟨0, "", 0, "192.168.1.2", false⟩) ∧
      Literals literalTools nineAndError bits10 bits2_5 ∧
      ¬ ReadBack literalTools (printsAlways (String.ofList (quietOutput nineAndError))) pingTarget
        bits10 bits2_5 (String.ofList (quietOutput nineAndError)) := by
  have prints : Prints nineAndError (String.ofList (quietOutput nineAndError)).toList :=
    prints_quietOutput (by decide +kernel) (by decide +kernel)
  have reported := pingCheck_of_not_plain (t := literalTools) (a := pingTarget)
    (w := printsAlways _) prints nofun rfl
  refine ⟨reported, literals_nineOfTen _, fun back => ?_⟩
  cases reported.symm.trans (back.reported rfl)

end AssistedAgent.Connectivity
