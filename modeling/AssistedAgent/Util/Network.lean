/-
**What the agent's commands share about the network.**

The types of `util/nmap` that the output of `nmap` is decoded into, and `util.IsIPv4Addr`.
-/

import AssistedAgent.Lib.GoNet

namespace AssistedAgent.Util

open GoNet

/-- `nmap.Address`. -/
structure Address where
  addr : String
  addrType : String
deriving DecidableEq, Repr

/-- `nmap.Host`, with the state of its status. -/
structure Host where
  state : String
  addresses : List Address
deriving DecidableEq, Repr

/-- `nmap.Nmaprun`. -/
structure Nmaprun where
  hosts : List Host
deriving DecidableEq, Repr

/-- `util.IsIPv4Addr`. -/
def isIPv4Addr (ip : String) : Bool := ip.toList.contains '.' && decide (parseIP ip ≠ [])

end AssistedAgent.Util
