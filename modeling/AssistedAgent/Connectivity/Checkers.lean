/-
**The production checkers: ping, arping, nmap, mtu.**

Each `Check` is a function of its attributes and of what the outside answers during the call (`World`):
the commands it runs and, for arping, the order in which Go iterates over the map of replies. An
arping whose error is not an `*exec.ExitError` panics, which is `none` in `arpingCheck`.

**`result_distinct`** — the entries that one call reports have pairwise different sort keys. The keys
of different calls may agree.
-/

import AssistedAgent.Connectivity.ProcessHost
import AssistedAgent.Lib.GoRegexp
import AssistedAgent.Lib.GoStrings
import AssistedAgent.Lib.StableSort
import AssistedAgent.Util.Network
import Mathlib.Data.List.Nodup

namespace AssistedAgent.Connectivity

open GoNet GoRegexp StableSort Util

/-! ### The outside -/

/-- An error of `exec.Command(...).CombinedOutput`: an `*exec.ExitError`, or any other error, such as
that of a missing binary. -/
inductive ExecError
  | exit (code : Int)
  | other (text : String)
deriving DecidableEq, Repr

/-- Functions of the Go library that the checkers use as they are: the decoding of the output of
`nmap`, `strconv.ParseFloat` with its value and its error, and the case mappings of package
`strings`. -/
structure Tools where
  unmarshal : String → Option Nmaprun
  parseFloat : String → Float64 × Option String
  toLower : String → String
  equalFold : String → String → Bool

/-- What happens during one call of `Check`: the answers to the commands it runs, by their number,
and the order in which the map of replies is read. -/
structure World where
  execute : Nat → List String → String × Option ExecError
  mapOrder : List L2Connectivity → List L2Connectivity
  mapOrder_perm : ∀ l, (mapOrder l).Perm l

/-! ### Reporters -/

/-- The reporters of the production checkers. -/
inductive Reporter
  | arping (l2Connectivity : List L2Connectivity)
  | l2 (l2Connectivity : L2Connectivity)
  | l3 (l3Connectivity : L3Connectivity)
  | mtu (mtuReport : MtuReport)
deriving DecidableEq, Repr

def Reporter.l2Entries : Reporter → List L2Connectivity
  | .arping entries => entries
  | .l2 entry => [entry]
  | .l3 _ => []
  | .mtu _ => []

def Reporter.l3Entries : Reporter → List L3Connectivity
  | .arping _ => []
  | .l2 _ => []
  | .l3 entry => [entry]
  | .mtu _ => []

def Reporter.mtuEntries : Reporter → List MtuReport
  | .arping _ => []
  | .l2 _ => []
  | .l3 _ => []
  | .mtu entry => [entry]

/-- `Report`: append to the list of the reporter's kind; no production reporter fails. -/
def Reporter.report (r : Reporter) (host : RemoteHost) : RemoteHost × Option Error :=
  match r with
  | .arping entries => ({ host with l2Connectivity := host.l2Connectivity ++ entries }, none)
  | .l2 entry => ({ host with l2Connectivity := host.l2Connectivity ++ [entry] }, none)
  | .l3 entry => ({ host with l3Connectivity := host.l3Connectivity ++ [entry] }, none)
  | .mtu entry => ({ host with mtuReport := host.mtuReport ++ [entry] }, none)

/-! ### Ping -/

section Checks

variable (t : Tools) (w : World)

def regexMatchFor (pattern : String) (r : Regex) (groups : Nat) (line : String) :
    Except String (List String) :=
  let p := findStringSubmatch r groups line
  if p.length < 2 then .error ("unable to parse " ++ line ++ " with regex " ++ pattern)
  else .ok p

/-- `[\d]+ packets transmitted, [\d]+ received, (([\d]*[.])?[\d]+)% packet loss, time [\d]+ms`. -/
def packetLossRegex : Regex :=
  .all [.plus .digit, .lit " packets transmitted, ", .plus .digit, .lit " received, ",
    .group 1 (.seq (.opt (.group 2 (.seq (.star .digit) (.char '.')))) (.plus .digit)),
    .lit "% packet loss, time ", .plus .digit, .lit "ms"]

/-- `rtt min\/avg\/max\/mdev = .*\/([^\/]+)\/.*\/.* ms`. -/
def rttRegex : Regex :=
  .all [.lit "rtt min/avg/max/mdev = ", .star .dot, .char '/', .group 1 (.plus (.noneOf "/")),
    .char '/', .star .dot, .char '/', .star .dot, .lit " ms"]

def packetLossPattern : String :=
  "[\\d]+ packets transmitted, [\\d]+ received, (([\\d]*[.])?[\\d]+)% packet loss, time [\\d]+ms"

def rttPattern : String := "rtt min\\/avg\\/max\\/mdev = .*\\/([^\\/]+)\\/.*\\/.* ms"

/-- `parsePingCmd`: the entry as far as it was filled in, and the error. -/
def parsePingCmd (conn : L3Connectivity) (cmdOutput : String) : L3Connectivity × Option String :=
  if cmdOutput = "" then
    (conn, some ("Missing output for ping or invalid output:\n" ++ cmdOutput))
  else
    match regexMatchFor packetLossPattern packetLossRegex 2 cmdOutput with
    | .error err => (conn, some ("Unable to retrieve packet loss percentage: " ++ err))
    | .ok parts =>
      let loss := parts.getD 1 ""
      let conn := { conn with packetLossPercentage := (t.parseFloat loss).1 }
      match (t.parseFloat loss).2 with
      | some err =>
        (conn, some ("Error while trying to convert value for packet loss '" ++ loss ++ "': " ++ err))
      | none =>
        match regexMatchFor rttPattern rttRegex 1 cmdOutput with
        | .error err => (conn, some ("Unable to retrieve the average RTT for ping: " ++ err))
        | .ok parts =>
          let rtt := parts.getD 1 ""
          let conn := { conn with averageRTTMs := (t.parseFloat rtt).1 }
          match (t.parseFloat rtt).2 with
          | some err =>
            (conn, some ("Error while trying to convert value for packet loss " ++ rtt ++ ": " ++ err))
          | none => (conn, none)

def pingCount : String := "10"

def pingCheck (a : Attributes) : Option Reporter :=
  let ret : L3Connectivity := ⟨0, "", 0, a.remoteIPAddress, false⟩
  match w.execute 0 ["ping", "-c", pingCount, "-W", "3", "-q", a.remoteIPAddress] with
  | (_, some _) => some (.l3 ret)
  | (b, none) =>
    match parsePingCmd t ret b with
    | (ret, some _) => some (.l3 ret)
    | (ret, none) => some (.l3 { ret with successful := true })

/-! ### Arping -/

def NetAddr.text : NetAddr → String
  | .ipNet net => netString net
  | .other text => text

def macInDstMacs (mac : String) (allDstMACs : List String) : Bool := allDstMACs.any (t.equalFold mac)

/-- `^ARPING ([^ ]+) from ([^ ]+) ([^ ]+)$`. -/
def arpingHeaderRegex : Regex :=
  .all [.beginText, .lit "ARPING ", .group 1 (.plus (.noneOf " ")), .lit " from ",
    .group 2 (.plus (.noneOf " ")), .char ' ', .group 3 (.plus (.noneOf " ")), .endText]

/-- `^Unicast reply from ([^ ]+) \[([^]]+)\]  [^ ]+$`. -/
def arpingReplyRegex : Regex :=
  .all [.beginText, .lit "Unicast reply from ", .group 1 (.plus (.noneOf " ")), .lit " [",
    .group 2 (.plus (.noneOf "]")), .lit "]  ", .plus (.noneOf " "), .endText]

/-- Set the entry of a MAC address in the map of replies. -/
def setReply (replies : List L2Connectivity) (reply : L2Connectivity) : List L2Connectivity :=
  if reply.remoteMac ∈ replies.map (·.remoteMac) then
    replies.map fun old => if old.remoteMac = reply.remoteMac then reply else old
  else replies ++ [reply]

/-- One line of the replies. -/
def readReply (a : Attributes) (outgoingIpAddress : String) (replies : List L2Connectivity)
    (line : String) : List L2Connectivity :=
  match findStringSubmatch arpingReplyRegex 2 line with
  | [_, _, mac] =>
    let remoteMAC := t.toLower mac
    setReply replies
      ⟨outgoingIpAddress, a.outgoingNIC.name, a.remoteIPAddress, remoteMAC,
        macInDstMacs t remoteMAC a.remoteMACAddresses⟩
  | _ => replies

/-- What `Check` makes of the output of arping. -/
def arpingOutput (a : Attributes) (result : String) : Option Reporter :=
  match GoStrings.split result '\n' with
  | [] => none
  | header :: lines =>
    match findStringSubmatch arpingHeaderRegex 3 header with
    | [_, _, outgoingIpAddress, _] =>
      some (.arping (w.mapOrder (lines.foldl (readReply t a outgoingIpAddress) [])))
    | _ => none

def arpingCommand (a : Attributes) : List String :=
  ["arping", "-c", "10", "-w", "5", "-I", a.outgoingNIC.name, a.remoteIPAddress]

/-- The loop over the local addresses, with the commands that it runs; a result of `none` is the panic of
the type assertion on the error of arping. -/
def arpingTrace (a : Attributes) : List NetAddr → List (List String) × Option (Option Reporter)
  | [] => ([], some none)
  | addr :: rest =>
    match parseCIDR addr.text with
    | .error _ => ([], some none)
    | .ok (_, nicNetwork) =>
      if ! contains nicNetwork (parseIP a.remoteIPAddress) then arpingTrace a rest
      else
        match w.execute 0 (arpingCommand a) with
        | (_, some (.other _)) => ([arpingCommand a], none)
        | (result, some (.exit code)) =>
          ([arpingCommand a], if code = 1 then some (arpingOutput t w a result) else some none)
        | (result, none) => ([arpingCommand a], some (arpingOutput t w a result))

/-- `arpingChecker.Check` with the commands that it runs. -/
def arpingCheckTrace (a : Attributes) : List (List String) × Option (Option Reporter) :=
  if ! isIPv4Addr a.remoteIPAddress || ! a.outgoingNIC.hasIpv4Addresses then ([], some none)
  else arpingTrace t w a a.outgoingNIC.addresses

/-- `arpingChecker.Check`. -/
def arpingCheck (a : Attributes) : Option (Option Reporter) := (arpingCheckTrace t w a).2

/-! ### Nmap -/

def nmapCheck (a : Attributes) : Option Reporter :=
  if isIPv4Addr a.remoteIPAddress || ! a.outgoingNIC.hasIpv6Addresses then none
  else
    match w.execute 0 ["nmap", "-6", "-sn", "-n", "-oX", "-", "-e", a.outgoingNIC.name,
      a.remoteIPAddress] with
    | (_, some _) => none
    | (result, none) =>
      match t.unmarshal result with
      | none => none
      | some nmaprun =>
        -- The first address of type `mac` of a host that is up.
        match nmaprun.hosts.findSome? fun h =>
          if h.state ≠ "up" then none else h.addresses.find? (·.addrType = "mac") with
        | none => none
        | some address =>
          let remoteMAC := t.toLower address.addr
          some (.l2 ⟨"", a.outgoingNIC.name, a.remoteIPAddress, remoteMAC,
            macInDstMacs t remoteMAC a.remoteMACAddresses⟩)

/-! ### Mtu -/

def defaultMTUThreshold : Int := 1500

def ipv4Header : Int := 28

def ipv6Header : Int := 48

/-- A ping that was run, and its error. -/
abbrev Ping := List String × Option ExecError

def plainPing (a : Attributes) : List String :=
  ["ping", a.remoteIPAddress, "-c", "3", "-I", a.outgoingNIC.name]

/-- The ping that may not be fragmented, with the MTU less the headers of the family as its payload. -/
def dontFragmentPing (a : Attributes) (isIPv6 : Bool) : List String :=
  ["ping", a.remoteIPAddress, "-c", "3", "-M", "do", "-s",
    toString (if isIPv6 then a.outgoingNIC.mtu - ipv6Header else a.outgoingNIC.mtu - ipv4Header),
    "-I", a.outgoingNIC.name]

/-- The loop over the local addresses, with the pings that it runs; `k` commands have been run before. -/
def mtuTrace (a : Attributes) (isRemoteIPv6 : Bool) : Nat → List NetAddr → List Ping × Option Reporter
  | _, [] => ([], some (.mtu ⟨true, a.outgoingNIC.name, a.remoteIPAddress⟩))
  | _, .other _ :: _ => ([], some (.mtu ⟨false, a.outgoingNIC.name, a.remoteIPAddress⟩))
  | k, .ipNet ipN :: rest =>
    let isLocalIPv6 := decide (to4 ipN.ip = [])
    if isLocalIPv6 ≠ isRemoteIPv6 then mtuTrace a isRemoteIPv6 k rest
    else
      match (w.execute k (plainPing a)).2 with
      | some err => ([(plainPing a, some err)], none)
      | none =>
        match (w.execute (k + 1) (dontFragmentPing a isLocalIPv6)).2 with
        | some err =>
          ([(plainPing a, none), (dontFragmentPing a isLocalIPv6, some err)],
            some (.mtu ⟨false, a.outgoingNIC.name, a.remoteIPAddress⟩))
        | none =>
          let later := mtuTrace a isRemoteIPv6 (k + 2) rest
          ((plainPing a, none) :: (dontFragmentPing a isLocalIPv6, none) :: later.1, later.2)

/-- The family of the remote address. -/
def isRemoteIPv6 (a : Attributes) : Bool := decide (to4 (parseIP a.remoteIPAddress) = [])

/-- `mtuChecker.Check` with the pings that it runs. -/
def mtuCheckTrace (a : Attributes) : List Ping × Option Reporter :=
  if parseIP a.remoteIPAddress = [] then
    ([], some (.mtu ⟨false, a.outgoingNIC.name, a.remoteIPAddress⟩))
  else if a.outgoingNIC.mtu = defaultMTUThreshold then ([], none)
  else mtuTrace w a (isRemoteIPv6 a) 0 a.outgoingNIC.addresses

/-- `mtuChecker.Check`. -/
def mtuCheck (a : Attributes) : Option Reporter := (mtuCheckTrace w a).2

end Checks

/-! ### The checkers -/

/-- The key `Finalize` sorts L2 entries by. -/
def l2Key (c : L2Connectivity) : String := c.remoteIPAddress ++ c.remoteMac

section Production

variable (t : Tools) (world : CallId → World)

def pingChecker : Checker Reporter where
  features := remoteIPFeature
  check id a := pingCheck t (world id) a
  finalize host := { host with l3Connectivity := sortBy (·.remoteIPAddress) host.l3Connectivity }

/-- A call that panics has no result; where it matters, calls are assumed to return. -/
def arpingChecker : Checker Reporter where
  features := remoteIPFeature ||| remoteMACFeature ||| outgoingNicFeature
  check id a := (arpingCheck t (world id) a).join
  finalize host := { host with l2Connectivity := sortBy l2Key host.l2Connectivity }

def nmapChecker : Checker Reporter where
  features := remoteIPFeature ||| remoteMACFeature ||| outgoingNicFeature
  check id a := nmapCheck t (world id) a
  finalize host := host

def mtuChecker : Checker Reporter where
  features := outgoingNicFeature
  check id a := mtuCheck (world id) a
  finalize host := { host with mtuReport := sortBy (·.remoteIPAddress) host.mtuReport }

/-- `connectivityRunner` with the checkers of a run that is not a dry one. -/
def production : Runner Reporter where
  checkers := [pingChecker t world, arpingChecker t world, nmapChecker t world, mtuChecker world]
  report := Reporter.report

end Production

/-! ### One call has no ties -/

theorem setReply_macs (replies : List L2Connectivity) (reply : L2Connectivity) :
    (setReply replies reply).map (·.remoteMac) =
      if reply.remoteMac ∈ replies.map (·.remoteMac) then replies.map (·.remoteMac)
      else replies.map (·.remoteMac) ++ [reply.remoteMac] := by
  unfold setReply
  split
  · rw [List.map_map]
    refine List.map_congr_left fun old _ => ?_
    by_cases same : old.remoteMac = reply.remoteMac <;> simp [same]
  · simp

theorem setReply_nodup {replies : List L2Connectivity} (reply : L2Connectivity)
    (distinct : (replies.map (·.remoteMac)).Nodup) :
    ((setReply replies reply).map (·.remoteMac)).Nodup := by
  rw [setReply_macs]
  split
  · exact distinct
  · rename_i fresh
    exact List.nodup_append.mpr ⟨distinct, List.nodup_singleton _, fun x hx y hy => by
      rw [List.mem_singleton.mp hy]
      rintro rfl
      exact fresh hx⟩

theorem setReply_mem {replies : List L2Connectivity} {reply entry : L2Connectivity}
    (member : entry ∈ setReply replies reply) : entry ∈ replies ∨ entry = reply := by
  unfold setReply at member
  split at member
  · obtain ⟨old, inside, rfl⟩ := List.mem_map.mp member
    by_cases same : old.remoteMac = reply.remoteMac <;> simp [same, inside]
  · simpa using member

/-- The replies of one arping: all for its address, one per MAC address. -/
theorem replies_distinct (t : Tools) (a : Attributes) (outgoing : String) (lines : List String) :
    let replies := lines.foldl (readReply t a outgoing) []
    (replies.map (·.remoteMac)).Nodup ∧ ∀ entry ∈ replies, entry.remoteIPAddress = a.remoteIPAddress := by
  refine List.foldlRecOn lines (readReply t a outgoing) (motive := fun replies =>
    (replies.map (·.remoteMac)).Nodup ∧
      ∀ entry ∈ replies, entry.remoteIPAddress = a.remoteIPAddress) ?_ ?_
  · simp
  · rintro replies ⟨distinct, address⟩ line -
    unfold readReply
    split
    · refine ⟨setReply_nodup _ distinct, fun entry member => ?_⟩
      rcases setReply_mem member with old | rfl
      · exact address entry old
      · rfl
    · exact ⟨distinct, address⟩

/-- The keys of entries for one address differ where their MAC addresses do. -/
theorem keys_nodup {entries : List L2Connectivity} {ip : String}
    (distinct : (entries.map (·.remoteMac)).Nodup)
    (address : ∀ entry ∈ entries, entry.remoteIPAddress = ip) : (entries.map l2Key).Nodup := by
  have keys : entries.map l2Key = (entries.map (·.remoteMac)).map (ip ++ ·) := by
    rw [List.map_map]
    refine List.map_congr_left fun entry member => ?_
    rw [l2Key, address entry member]
    rfl
  rw [keys]
  refine distinct.map fun x y same => ?_
  have chars := congrArg String.toList same
  simp only [String.toList_append, List.append_cancel_left_eq] at chars
  exact String.toList_injective chars

/-- The entries of a reporter have pairwise different sort keys. -/
structure Reporter.Distinct (r : Reporter) : Prop where
  l2 : (r.l2Entries.map l2Key).Nodup
  l3 : (r.l3Entries.map (·.remoteIPAddress)).Nodup
  mtu : (r.mtuEntries.map (·.remoteIPAddress)).Nodup

theorem distinct_l2 (entry : L2Connectivity) : (Reporter.l2 entry).Distinct :=
  ⟨List.nodup_singleton _, List.nodup_nil, List.nodup_nil⟩

theorem distinct_l3 (entry : L3Connectivity) : (Reporter.l3 entry).Distinct :=
  ⟨List.nodup_nil, List.nodup_singleton _, List.nodup_nil⟩

theorem distinct_mtu (entry : MtuReport) : (Reporter.mtu entry).Distinct :=
  ⟨List.nodup_nil, List.nodup_nil, List.nodup_singleton _⟩

section Distinct

variable {t : Tools} {w : World} {a : Attributes} {r : Reporter}

theorem pingCheck_distinct (result : pingCheck t w a = some r) : r.Distinct := by
  unfold pingCheck at result
  simp only at result
  split at result
  · cases result
    exact distinct_l3 _
  · split at result
    · cases result
      exact distinct_l3 _
    · cases result
      exact distinct_l3 _

theorem arpingOutput_distinct {output : String} (result : arpingOutput t w a output = some r) :
    r.Distinct := by
  unfold arpingOutput at result
  split at result
  · cases result
  · rename_i header lines _
    split at result
    · rename_i outgoing _ _
      cases result
      obtain ⟨distinct, address⟩ := replies_distinct t a outgoing lines
      have perm := w.mapOrder_perm (lines.foldl (readReply t a outgoing) [])
      refine ⟨?_, List.nodup_nil, List.nodup_nil⟩
      exact (perm.map l2Key).nodup_iff.mpr (keys_nodup distinct address)
    · cases result

theorem arpingTrace_distinct {addresses : List NetAddr}
    (result : (arpingTrace t w a addresses).2 = some (some r)) : r.Distinct := by
  induction addresses with
  | nil => cases result
  | cons addr rest ih =>
    unfold arpingTrace at result
    split at result
    · cases result
    · split at result
      · exact ih result
      · split at result
        · cases result
        · dsimp only at result
          split at result
          · exact arpingOutput_distinct (Option.some.inj result)
          · cases result
        · exact arpingOutput_distinct (Option.some.inj result)

theorem arpingCheck_distinct (result : arpingCheck t w a = some (some r)) : r.Distinct := by
  unfold arpingCheck arpingCheckTrace at result
  split at result
  · cases result
  · exact arpingTrace_distinct result

theorem nmapCheck_distinct (result : nmapCheck t w a = some r) : r.Distinct := by
  unfold nmapCheck at result
  split at result
  · cases result
  · split at result
    · cases result
    · split at result
      · cases result
      · split at result
        · cases result
        · cases result
          exact distinct_l2 _

theorem mtuTrace_distinct {isRemoteIPv6 : Bool} {k : Nat} {addresses : List NetAddr}
    (result : (mtuTrace w a isRemoteIPv6 k addresses).2 = some r) : r.Distinct := by
  induction addresses generalizing k with
  | nil =>
    cases result
    exact distinct_mtu _
  | cons addr rest ih =>
    cases addr with
    | other text =>
      cases result
      exact distinct_mtu _
    | ipNet net =>
      unfold mtuTrace at result
      simp only at result
      split at result
      · exact ih result
      · split at result
        · cases result
        · split at result
          · cases result
            exact distinct_mtu _
          · exact ih result

theorem mtuCheck_distinct (result : mtuCheck w a = some r) : r.Distinct := by
  unfold mtuCheck mtuCheckTrace at result
  split at result
  · cases result
    exact distinct_mtu _
  · split at result
    · cases result
    · exact mtuTrace_distinct result

end Distinct

/-! ### Arping without an exit code -/

/-- Whether the loop gets to an address whose network has the remote one, and runs arping. -/
def arpingRuns (a : Attributes) : List NetAddr → Bool
  | [] => false
  | addr :: rest =>
    match parseCIDR addr.text with
    | .error _ => false
    | .ok (_, nicNetwork) => contains nicNetwork (parseIP a.remoteIPAddress) || arpingRuns a rest

/-- Arping is run, and fails without an exit code. -/
structure ArpingLost (w : World) (a : Attributes) : Prop where
  remote : isIPv4Addr a.remoteIPAddress = true
  outgoing : a.outgoingNIC.hasIpv4Addresses = true
  runs : arpingRuns a a.outgoingNIC.addresses = true
  lost : ∃ text, (w.execute 0 (arpingCommand a)).2 = some (.other text)

theorem arpingTrace_eq_none_iff {t : Tools} {w : World} {a : Attributes} (addresses : List NetAddr) :
    (arpingTrace t w a addresses).2 = none ↔
      arpingRuns a addresses = true ∧ ∃ text, (w.execute 0 (arpingCommand a)).2 = some (.other text) := by
  induction addresses with
  | nil => simp [arpingTrace, arpingRuns]
  | cons addr rest ih =>
    unfold arpingTrace arpingRuns
    cases parseCIDR addr.text with
    | error err => simp
    | ok parsed =>
      obtain ⟨ip, nicNetwork⟩ := parsed
      dsimp only
      cases contains nicNetwork (parseIP a.remoteIPAddress) with
      | false => exact ih
      | true =>
        obtain ⟨result, err⟩ := w.execute 0 (arpingCommand a)
        rcases err with _ | ⟨code⟩ | ⟨text⟩
        · simp
        · by_cases one : code = 1 <;> simp [one]
        · simp

/-- **Arping panics exactly when it is run and fails without an exit code.** -/
theorem arpingCheck_eq_none_iff {t : Tools} {w : World} {a : Attributes} :
    arpingCheck t w a = none ↔ ArpingLost w a := by
  unfold arpingCheck arpingCheckTrace
  split
  · rename_i skipped
    refine ⟨nofun, fun lost => ?_⟩
    rw [lost.remote, lost.outgoing] at skipped
    cases skipped
  · rename_i checked
    rw [Bool.not_eq_true, Bool.or_eq_false_iff, Bool.not_eq_false', Bool.not_eq_false'] at checked
    rw [arpingTrace_eq_none_iff]
    exact ⟨fun lost => ⟨checked.1, checked.2, lost.1, lost.2⟩, fun lost => ⟨lost.runs, lost.lost⟩⟩

/-- **One call of a production checker reports no two entries of one key.** -/
theorem result_distinct {t : Tools} {world : CallId → World} {c : Call Reporter}
    (member : c.checker ∈ (production t world).checkers) {r : Reporter} (result : c.result = some r) :
    r.Distinct := by
  unfold Call.result at result
  simp only [production, List.mem_cons, List.not_mem_nil, or_false] at member
  rcases member with ping | arping | nmap | mtu
  · rw [ping] at result
    exact pingCheck_distinct result
  · rw [arping] at result
    exact arpingCheck_distinct (Option.join_eq_some_iff.mp result)
  · rw [nmap] at result
    exact nmapCheck_distinct result
  · rw [mtu] at result
    exact mtuCheck_distinct result

/-! ### Simple tools and worlds -/

/-- Tools that read nothing, with the case mappings of ASCII. -/
def asciiTools : Tools where
  unmarshal _ := none
  parseFloat text := (0, some ("strconv.ParseFloat: parsing " ++ text ++ ": invalid syntax"))
  toLower := String.toLower
  equalFold s t := s.toLower == t.toLower

/-- A world in which every command succeeds with this output. -/
def printsAlways (output : String) : World where
  execute _ _ := (output, none)
  mapOrder entries := entries
  mapOrder_perm entries := .refl entries

/-- A world in which every command succeeds and prints nothing. -/
def quietWorld : World := printsAlways ""

end AssistedAgent.Connectivity
