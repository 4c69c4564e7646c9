/-
**What a successful MTU report rests on.**

`mtuCheckTrace` is `mtuChecker.Check` with the pings that it runs and their outcomes. A success is backed
by evidence if the interface has a local address of the remote address's family, and each one was pinged
twice.

* **`mtuTrace_success`** — a success of the loop comes after two good pings for each local address of
  the family. Where there is none, no ping is run, and the loop succeeds all the same.
* **`backed_iff`** — so a success is backed by evidence unless every local address is of the other
  family.
-/

import AssistedAgent.Connectivity.Checkers

namespace AssistedAgent.Connectivity

open GoNet Util

section Trace

variable (w : World) (a : Attributes)

/-- The local addresses of one family. -/
def ofFamily (isIPv6 : Bool) (addresses : List NetAddr) : List IPNet :=
  addresses.filterMap fun
    | .ipNet ipN => if decide (to4 ipN.ip = []) = isIPv6 then some ipN else none
    | .other _ => none

/-- The pings that a success rests on: two for each local address, none of them failed. -/
def goodPings (isIPv6 : Bool) (addresses : List IPNet) : List Ping :=
  addresses.flatMap fun _ => [(plainPing a, none), (dontFragmentPing a isIPv6, none)]

/-- The evidence for a success among the pings that were run. -/
structure Evidence (pings : List Ping) : Prop where
  address : ofFamily (isRemoteIPv6 a) a.outgoingNIC.addresses ≠ []
  good : pings = goodPings a (isRemoteIPv6 a) (ofFamily (isRemoteIPv6 a) a.outgoingNIC.addresses)

/-- A report of success is backed by evidence. -/
def Backed : Prop :=
  ∀ report, (mtuCheckTrace w a).2 = some (.mtu report) → report.mtuSuccessful = true →
    Evidence a (mtuCheckTrace w a).1

end Trace

section Loop

variable {w : World} {a : Attributes} {isIPv6 : Bool}

theorem ofFamily_cons_of_ne {ipN : IPNet} (other : decide (to4 ipN.ip = []) ≠ isIPv6)
    (rest : List NetAddr) : ofFamily isIPv6 (.ipNet ipN :: rest) = ofFamily isIPv6 rest := by
  simp [ofFamily, other]

theorem ofFamily_cons_of_eq {ipN : IPNet} (same : decide (to4 ipN.ip = []) = isIPv6)
    (rest : List NetAddr) : ofFamily isIPv6 (.ipNet ipN :: rest) = ipN :: ofFamily isIPv6 rest := by
  simp [ofFamily, same]

theorem other_mem_of_cons {text : String} {ipN : IPNet} {rest : List NetAddr}
    (member : .other text ∈ .ipNet ipN :: rest) : .other text ∈ rest := by
  simpa using member

/-- **A success comes after two good pings for each local address of the family.** -/
theorem mtuTrace_success {k : Nat} {addresses : List NetAddr} {report : MtuReport}
    (result : (mtuTrace w a isIPv6 k addresses).2 = some (.mtu report))
    (success : report.mtuSuccessful = true) :
    (∀ text, .other text ∉ addresses) ∧
      (mtuTrace w a isIPv6 k addresses).1 = goodPings a isIPv6 (ofFamily isIPv6 addresses) := by
  induction addresses generalizing k with
  | nil => exact ⟨fun _ => List.not_mem_nil, rfl⟩
  | cons addr rest ih =>
    cases addr with
    | other text =>
      cases result
      cases success
    | ipNet ipN =>
      unfold mtuTrace at result ⊢
      by_cases other : decide (to4 ipN.ip = []) ≠ isIPv6
      · rw [if_pos other] at result ⊢
        obtain ⟨nets, pings⟩ := ih result
        refine ⟨fun text member => nets text (other_mem_of_cons member), ?_⟩
        rw [pings, ofFamily_cons_of_ne other]
      · have same := Decidable.not_not.mp other
        rw [if_neg other, same] at result ⊢
        cases first : (w.execute k (plainPing a)).2 with
        | some err =>
          rw [first] at result
          cases result
        | none =>
          rw [first] at result
          dsimp only at result ⊢
          cases second : (w.execute (k + 1) (dontFragmentPing a isIPv6)).2 with
          | some err =>
            rw [second] at result
            cases result
            cases success
          | none =>
            rw [second] at result
            obtain ⟨nets, pings⟩ := ih result
            refine ⟨fun text member => nets text (other_mem_of_cons member), ?_⟩
            dsimp only
            rw [pings, ofFamily_cons_of_eq same]
            rfl

/-- Without a local address of the family, the loop succeeds and runs no ping. -/
theorem mtuTrace_of_ofFamily_eq_nil {k : Nat} {addresses : List NetAddr}
    (nets : ∀ text, .other text ∉ addresses) (none : ofFamily isIPv6 addresses = []) :
    mtuTrace w a isIPv6 k addresses =
      ([], some (.mtu ⟨true, a.outgoingNIC.name, a.remoteIPAddress⟩)) := by
  induction addresses with
  | nil => rfl
  | cons addr rest ih =>
    cases addr with
    | other text => exact absurd List.mem_cons_self (nets text)
    | ipNet ipN =>
      have differs : decide (to4 ipN.ip = []) ≠ isIPv6 := by
        intro same
        rw [ofFamily_cons_of_eq same] at none
        cases none
      rw [ofFamily_cons_of_ne differs] at none
      unfold mtuTrace
      rw [if_pos differs]
      exact ih (fun text member => nets text (List.mem_cons_of_mem _ member)) none

end Loop

/-- **When a success is backed by evidence**: for a remote address that parses, and local addresses
that are networks, one of them has to be of the remote address's family. -/
theorem backed_iff (w : World) {a : Attributes} (considered : a.outgoingNIC.mtu ≠ defaultMTUThreshold) :
    Backed w a ↔ parseIP a.remoteIPAddress = [] ∨ (∃ text, .other text ∈ a.outgoingNIC.addresses) ∨
      ofFamily (isRemoteIPv6 a) a.outgoingNIC.addresses ≠ [] := by
  by_cases unparsed : parseIP a.remoteIPAddress = []
  · refine iff_of_true (fun report result success => ?_) (.inl unparsed)
    rw [mtuCheckTrace, if_pos unparsed] at result
    cases result
    cases success
  have trace : mtuCheckTrace w a = mtuTrace w a (isRemoteIPv6 a) 0 a.outgoingNIC.addresses := by
    rw [mtuCheckTrace, if_neg unparsed, if_neg considered]
  constructor
  · intro backed
    by_cases nets : ∃ text, .other text ∈ a.outgoingNIC.addresses
    · exact .inr (.inl nets)
    · refine .inr (.inr fun none => ?_)
      have run := mtuTrace_of_ofFamily_eq_nil (w := w) (a := a) (k := 0)
        (fun text member => nets ⟨text, member⟩) none
      have result : (mtuCheckTrace w a).2 = some (.mtu ⟨true, a.outgoingNIC.name, a.remoteIPAddress⟩) := by
        rw [trace, run]
      exact (backed _ result rfl).address none
  · rintro (empty | ⟨text, member⟩ | address) report result success
    · exact absurd empty unparsed
    · rw [trace] at result
      exact absurd member ((mtuTrace_success result success).1 text)
    · rw [trace] at result ⊢
      exact ⟨address, (mtuTrace_success result success).2⟩

/-! ### Two interfaces -/

/-- An interface of MTU 9000 towards `192.168.1.2`, with these local addresses. -/
def largeMtu (addresses : List NetAddr) : Attributes :=
  ⟨"192.168.1.2", "", ⟨9000, "eth0", true, true, addresses⟩, []⟩

/-- `192.168.1.1/24`. -/
def localV4 : NetAddr := .ipNet ⟨[192, 168, 1, 1], [255, 255, 255, 0]⟩

/-- `fe80::1/64`. -/
def localV6 : NetAddr :=
  .ipNet ⟨[0xfe, 0x80, 0, 0, 0, 0, 0, 0, 0, 0, 0, 0, 0, 0, 0, 1],
    [255, 255, 255, 255, 255, 255, 255, 255, 0, 0, 0, 0, 0, 0, 0, 0]⟩

theorem backed_mixed_families :
    (largeMtu [localV6, localV4]).outgoingNIC.mtu ≠ defaultMTUThreshold ∧
      Backed quietWorld (largeMtu [localV6, localV4]) :=
  ⟨by decide, (backed_iff quietWorld (by decide)).mpr (.inr (.inr (by decide)))⟩

/-- With local addresses of the other family only, no ping is run, and the MTU is reported good. -/
theorem not_backed_other_family :
    mtuCheckTrace quietWorld (largeMtu [localV6]) = ([], some (.mtu ⟨true, "eth0", "192.168.1.2"⟩)) ∧
      ¬ Backed quietWorld (largeMtu [localV6]) := by
  have run : mtuCheckTrace quietWorld (largeMtu [localV6]) =
      ([], some (.mtu ⟨true, "eth0", "192.168.1.2"⟩)) := by decide
  refine ⟨run, fun backed => ?_⟩
  exact (backed _ (congrArg Prod.snd run) rfl).address (by decide)

end AssistedAgent.Connectivity
