import DocumentCard.Rpc.Call
import DocumentCard.Rpc.Envelope
import DocumentCard.Session.Registry
set_option autoImplicit false

/-!
# The service

The service keeps the sessions and answers calls one after another.  A call comes at a moment: the
time of the clock, and a supply of ids in case a session is started.  A call that cannot be made, since
there is no envelope, no such method, or no such arguments, leaves the service as it is.
-/

namespace DocumentCard.Rpc

open Json (Value)
open Session (Registry Helpers IdSupply Fault)

/-- The circumstances of a call. -/
structure Moment where
  now : Int
  ids : IdSupply

/-- The sessions, and the number of scans made so far. -/
structure Service where
  registry : Registry Session
  scans : Nat := 0

/-- An answer: the id of the call that it belongs to, and the reply, or why the call could not be
made. -/
structure Answer where
  id : Value := .null
  result : Except Refusal Reply

namespace Answer

/-- The answer as a value; exactly one of result and error is null. -/
def toJson (a : Answer) : Value :=
  match a.result with
  | .ok reply => .ofFields [("id", a.id), ("result", reply.toJson), ("error", .null)]
  | .error refusal =>
      .ofFields [("id", a.id), ("result", .null), ("error", .string refusal.message)]

end Answer

namespace Service

/-- A service without sessions. -/
def empty (lifetime : Nat) : Service := { registry := .empty lifetime }

/-- Uses a session. -/
def use (s : Service) (helpers : Helpers) (now : Int) (id : String) (u : Use) :
    Service × Except Fault Yield :=
  match u.fault? with
  | some fault => (s, .error fault)
  | none =>
      match s.registry.live? now id with
      | none => (s, .error .unknownId)
      | some record =>
          let ran := (u.work record.content).run helpers s.scans
          (⟨s.registry.put id ran.state, ran.scans⟩, ran.result)

/-- Makes a call. -/
def call (s : Service) (helpers : Helpers) (m : Moment) (c : Call) : Service × Reply :=
  match c with
  | .start session =>
      let (id, registry) := s.registry.create m.now m.ids session
      ({ s with registry }, .ofResult c.kind (.ok (.newId id)))
  | .use id u =>
      let (after, result) := s.use helpers m.now id u
      (after, .ofResult c.kind result)
  | .drop id => ({ s with registry := s.registry.delete id }, .ofResult c.kind (.ok .nothing))

/-- Answers a call that comes as a text. -/
def answer (s : Service) (helpers : Helpers) (m : Moment) (body : Bytes) : Service × Answer :=
  match Envelope.read body with
  | .error fault => (s, ⟨.null, .error (.badRequest fault.message)⟩)
  | .ok envelope =>
      match Call.read envelope.method envelope.params with
      | .error refusal => (s, ⟨envelope.id, .error refusal⟩)
      | .ok c =>
          let (after, reply) := s.call helpers m c
          (after, ⟨envelope.id, .ok reply⟩)

/-- Removes the sessions that have outlived their time. -/
def sweep (s : Service) (now : Int) : Service := { s with registry := s.registry.sweep now }

end Service

end DocumentCard.Rpc
