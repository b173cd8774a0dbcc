import DocumentCard.Antivirus.Endpoint
import DocumentCard.Text.Blank
set_option autoImplicit false

/-!
# Configuration

The service is configured by variables.  Each variable stands for itself: one that is missing or
holds something senseless falls back to its own default and leaves the others alone.  Scanning is on
exactly when the daemon's address is given and not blank (`Config.endpoint?`).
-/

namespace DocumentCard

/-- The settings of the service. -/
structure Config where
  host : String := "0.0.0.0"
  /-- the TCP port to listen on -/
  tcpPort : Nat := 4567
  network : Antivirus.Network := .unix
  /-- the daemon's address; without one nothing is scanned -/
  socket : Option String := none
  /-- the greatest size of a request in bytes -/
  bodyLimit : Nat := 64 * 1024 * 1024
  deriving DecidableEq, Repr, Inhabited

namespace Config

/-- The number that a text of decimal digits stands for, with or without a plus sign before it, if
it is below `bound`. -/
def number? (bound : Nat) (text : List Char) : Option Nat :=
  let digits := match text with
    | '+' :: rest => rest
    | _ => text
  (ofDecimal? digits).filter (· < bound)

/-- A TCP port. -/
def tcpPort? (value : String) : Option Nat := number? 0x10000 (Text.trimmed value.toList)

/-- A limit on bytes, which is not zero. -/
def limit? (value : String) : Option Nat :=
  (number? 0x10000000000000000 (Text.trimmed value.toList)).filter (0 < ·)

/-- A kind of connection. -/
def network? (value : String) : Option Antivirus.Network :=
  let name := String.ofList (Text.trimmed value.toList)
  if name = "unix" then some .unix
  else if name = "tcp" then some .tcp
  else none

/-- The settings that the variables give. -/
def ofLookup (lookup : String → Option String) : Config :=
  let default : Config := {}
  { host := (lookup "SERVER_HOST").getD default.host
    tcpPort := ((lookup "SERVER_PORT").bind tcpPort?).getD default.tcpPort
    network := ((lookup "CLAMD_NETWORK").bind network?).getD default.network
    socket := (lookup "CLAMD_SOCKET").filter fun s => !Text.isAllBlank s.toList
    bodyLimit := ((lookup "RPC_MAX_BODY_BYTES").bind limit?).getD default.bodyLimit }

/-- Where the daemon listens, if scanning is on. -/
def endpoint? (c : Config) : Option Antivirus.Endpoint :=
  c.socket.map fun address => ⟨c.network, address⟩

end Config

end DocumentCard
