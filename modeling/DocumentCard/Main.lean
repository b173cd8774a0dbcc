import DocumentCard.Antivirus.Client
import DocumentCard.Card.Attachments
import DocumentCard.Card.CreationTime
import DocumentCard.Card.Press
import DocumentCard.Rpc.Http
import Std.Time.DateTime.Timestamp
set_option autoImplicit false

/-!
# The program

The program is configured by environment variables and serves one call per line: each line of its
input is the body of a posted call, and each line of its output is the answer.  Sessions that have
outlived their time are swept out before every call.

The program has no way to a daemon.  When one is configured no scan succeeds, so nothing passes
unscanned.
-/

namespace DocumentCard.Main

open Rpc (Service)

/-- A daemon that cannot be reached. -/
def unreachable (endpoint : Antivirus.Endpoint) : Antivirus.Daemon :=
  { connect := fun _ => .error (endpoint.flaw?.getD "no way to connect")
    exchange := fun _ => .broken "not connected" }

/-- What a client of the daemon that is configured finds. -/
def scan (config : Config) (data : Bytes) : Antivirus.Scan :=
  let client := Antivirus.Client.ofConfig config
  match client.endpoint with
  | some endpoint => client.scan (unreachable endpoint) data
  | none => .ok .clean

/-- The program's own way to scan, make and open cards at a time.  A task goes by the number of scans
made before it. -/
def helpers (config : Config) (seconds : Nat) : Session.Helpers :=
  { scan := fun _ => scan config
    press := fun task request => .ofResult task (request.press (Card.CreationTime.text seconds))
    unpack := fun task card => .ofResult task (Card.Attachments.ofFile card) }

/-- A random number for new ids. -/
def drawId : IO Nat := do
  return Bytes.toNumber (← IO.getRandomBytes 15).toList

/-- What a response carries, in one line. -/
def line : Rpc.Http.Body → String
  | .empty => ""
  | .text text => text
  | .json value => value.render

/-- Answers calls until the input ends. -/
partial def serve (config : Config) (input output : IO.FS.Stream) (service : Service) : IO Unit := do
  let text ← input.getLine
  unless text.isEmpty do
    let now := (← Std.Time.Timestamp.now).toMillisecondsSinceUnixEpoch.val
    let moment : Rpc.Moment := ⟨now, .numbered (← drawId)⟩
    let request : Rpc.Http.Request := ⟨"POST", "/rpc", Text.Utf8.encode text⟩
    let (service, response) :=
      Rpc.Http.serve config.bodyLimit (helpers config (now / 1000).toNat) moment
        (service.sweep now) request
    output.putStrLn (line response.body)
    output.flush
    serve config input output service

end DocumentCard.Main

/-- Serves calls from the standard input on the standard output. -/
def main : IO Unit := do
  let names := ["SERVER_HOST", "SERVER_PORT", "CLAMD_NETWORK", "CLAMD_SOCKET", "RPC_MAX_BODY_BYTES"]
  let values ← names.mapM fun name => do return (name, ← IO.getEnv name)
  let config := DocumentCard.Config.ofLookup fun name => (values.lookup name).join
  DocumentCard.Main.serve config (← IO.getStdin) (← IO.getStdout)
    (.empty DocumentCard.Session.Registry.halfHour)
