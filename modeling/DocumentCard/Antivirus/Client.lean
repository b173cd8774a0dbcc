import DocumentCard.Antivirus.Framing
import DocumentCard.Config
import DocumentCard.Text.Utf8
set_option autoImplicit false

/-!
# Asking the daemon

A client without an endpoint finds everything clean: scanning is switched off.  With one it connects,
trying several times, sends the stream, and takes one reply for clean and every other for infected.
What the daemon and the way to it do is a value of `Daemon`, so that a client can be looked at
against every daemon there may be.
-/

namespace DocumentCard.Antivirus

/-- How an exchange with the daemon ends. -/
inductive Exchange where
  /-- the daemon has written this and closed the connection -/
  | replied (reply : Bytes)
  /-- the connection broke -/
  | broken (cause : String)
  /-- the daemon took too long -/
  | timedOut
  deriving DecidableEq, Repr

/-- A daemon and the way to it. -/
structure Daemon where
  /-- whether an attempt to connect succeeds, the first one being attempt 1; if not, why -/
  connect : Nat → Except String Unit
  /-- what comes of sending a stream -/
  exchange : Bytes → Exchange

/-- A client of the daemon. -/
structure Client where
  endpoint : Option Endpoint := none
  /-- how many times to try to connect -/
  attempts : Nat := 10
  deriving DecidableEq, Repr

namespace Client

/-- A client that finds everything clean. -/
def disabled : Client := {}

/-- The client that settings ask for. -/
def ofConfig (config : Config) : Client := { endpoint := config.endpoint? }

/-- A client that tries to connect so many times, but at least once. -/
def withAttempts (c : Client) (attempts : Nat) : Client := { c with attempts := max attempts 1 }

/-- Tries to connect, for the attempts that are left, of which the first has the given number; what
the last attempt met is told, or `cause` if none is left. -/
def connect (daemon : Daemon) (cause : String) : Nat → Nat → Except String Unit
  | 0, _ => .error cause
  | left + 1, number =>
      match daemon.connect number with
      | .ok () => .ok ()
      | .error cause => connect daemon cause left (number + 1)

/-- The reply for clean data. -/
def cleanReply : Bytes := Bytes.ascii "stream: OK\n"

/-- What a reply means. -/
def verdict (reply : Bytes) : Verdict :=
  if reply = cleanReply then .clean else .infected (Text.Utf8.lossy reply)

/-- Scans data. -/
def scan (c : Client) (daemon : Daemon) (data : Bytes) : Scan :=
  match c.endpoint with
  | none => .ok .clean
  | some endpoint =>
      match connect daemon "no connection attempts" c.attempts 1 with
      | .error cause => .error (.connect endpoint c.attempts cause)
      | .ok () =>
          match Framing.request data with
          | .error fault => .error fault
          | .ok stream =>
              match daemon.exchange stream with
              | .replied reply => .ok (verdict reply)
              | .broken cause => .error (.io cause)
              | .timedOut => .error (.io "clamd scan timed out")

end Client

/-! ## Addresses that no connection is tried for -/

/-- The greatest length of a socket's path in bytes. -/
def longestPath : Nat := 107

/-- What is wrong with the path of a socket.  A path that starts with a NUL names a socket outside
the file system. -/
def pathFlaw? (path : Bytes) : Option String :=
  match path with
  | 0 :: name =>
      if name.length < longestPath + 1 then none
      else some "abstract socket name must be shorter than SUN_LEN"
  | _ =>
      if path.contains 0 then some "paths must not contain interior null bytes"
      else if longestPath < path.length then some "path must be shorter than SUN_LEN"
      else none

/-- What is wrong with a host and a TCP port, which stands behind the last colon. -/
def hostFlaw? (address : List Char) : Option String :=
  match (Text.splitAt ':' address).reverse with
  | digits :: _ :: _ =>
      if (Config.number? 0x10000 digits).isSome then none else some "invalid port value"
  | _ => some "invalid socket address"

/-- What is wrong with an endpoint, as far as its address alone shows it. -/
def Endpoint.flaw? (e : Endpoint) : Option String :=
  match e.network with
  | .unix => pathFlaw? (Text.Utf8.encode e.address)
  | .tcp => hostFlaw? e.address.toList

end DocumentCard.Antivirus
