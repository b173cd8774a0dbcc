import DocumentCard.Rpc.Service
import DocumentCard.Session.LockTable
set_option autoImplicit false

/-!
# Calls at the same time

Calls are made by any number of callers at once, one call each.  Whoever uses a session locks it first
and then works on it; the work stops at every wait, for a scan or for a task, and whatever the session
holds during a wait stands in its cell.  In between, others start, drop and lock sessions, sessions are
swept out, and the clock is set.

`World.step` says what one event does.  A world keeps a list of turns: the calls in the order in which
their callers were let in by the lock, with a session started or dropped, or a call refused for what
it asks, at the moment when that happens, and the sweeps between them.  No step reads that list.

`Serial` makes the same calls, each whole, one after another as the list has them.
-/

namespace DocumentCard.Rpc

open Session (Client CellId LockTable Helpers Work Fault)

/-! ## Work with steady helpers -/

/-- Helpers whose answers depend on nothing but what they are given. -/
structure Tools where
  scan : Bytes → Antivirus.Scan
  press : Card.Request → Session.Pressed
  unpack : Bytes → Session.Unpacked

namespace Tools

/-- The tools as helpers. -/
def helpers (tools : Tools) : Helpers :=
  ⟨fun _ => tools.scan, fun _ => tools.press, fun _ => tools.unpack⟩

/-- The work behind its next wait. -/
def resume {σ α : Type} (tools : Tools) : Work σ α → Work σ α
  | .done state result => .done state result
  | .scan _ data next => next (tools.scan data)
  | .press _ request next => next (tools.press request)
  | .unpack _ card next => next (tools.unpack card)

/-- What work leaves behind and what it gives, when nothing comes in between. -/
def finish {σ α : Type} (tools : Tools) : Work σ α → σ × α
  | .done state result => (state, result)
  | .scan _ data next => finish tools (next (tools.scan data))
  | .press _ request next => finish tools (next (tools.press request))
  | .unpack _ card next => finish tools (next (tools.unpack card))

/-- A wait that is over changes nothing about how the work ends. -/
@[simp] theorem finish_resume {σ α : Type} (tools : Tools) (work : Work σ α) :
    tools.finish (tools.resume work) = tools.finish work := by
  cases work <;> rfl

/-- Work done by tools as helpers ends in the same way, however many scans there were before. -/
theorem run_helpers {σ α : Type} (tools : Tools) (work : Work σ α) (scans : Nat) :
    (work.run tools.helpers scans).state = (tools.finish work).1 ∧
      (work.run tools.helpers scans).result = (tools.finish work).2 := by
  induction work generalizing scans with
  | done state result => exact ⟨rfl, rfl⟩
  | scan state data next ih => exact ih _ _
  | press state request next ih => exact ih _ _
  | unpack state card next ih => exact ih _ _

end Tools

/-- What the session holds while the work waits, or at its end. -/
def held {σ α : Type} : Work σ α → σ
  | .done state _ | .scan state _ _ | .press state _ _ | .unpack state _ _ => state

/-- What done work gives. -/
def given? {σ α : Type} : Work σ α → Option α
  | .done _ result => some result
  | _ => none

/-! ## One call after another -/

/-- What happens to a service at one time. -/
inductive Turn where
  /-- the caller's call is made -/
  | call (caller : Client) (m : Moment) (c : Call)
  /-- sessions are swept out -/
  | sweep (now : Int)

/-- The caller whose turn it is. -/
def Turn.caller? : Turn → Option Client
  | .call caller _ _ => some caller
  | .sweep _ => none

/-- A moment at which no session is started, so that it does not matter where ids come from. -/
def Moment.at (now : Int) : Moment := ⟨now, .numbered 0⟩

/-- A service that answers whole calls, and what it has answered. -/
structure Serial where
  service : Service
  /-- a caller's call, and the reply to it -/
  answer? : Client → Option (Call × Reply) := fun _ => none

namespace Serial

/-- A service without sessions that has answered nothing. -/
def empty (lifetime : Nat) : Serial := { service := .empty lifetime }

/-- The service when it has answered a caller. -/
def answer (s : Serial) (caller : Client) (c : Call) (reply : Reply) : Serial :=
  { s with answer? := fun k => if k = caller then some (c, reply) else s.answer? k }

/-- One turn. -/
def take (tools : Tools) (s : Serial) : Turn → Serial
  | .call caller m c =>
      let (service, reply) := s.service.call tools.helpers m c
      { s with service }.answer caller c reply
  | .sweep now => { s with service := s.service.sweep now }

/-- Several turns one after another. -/
def run (tools : Tools) (s : Serial) (turns : List Turn) : Serial := turns.foldl (take tools) s

end Serial

/-! ## Many calls at once -/

/-- How far a caller is. -/
inductive Progress where
  /-- has not called yet -/
  | due
  /-- wants to use a session and locks it -/
  | locking (id : String) (u : Use)
  /-- has locked the session and works on it -/
  | working (id : String) (u : Use) (work : Work Session (Except Fault Yield))
  | answered (c : Call) (reply : Reply)

/-- The sessions with their locks, the callers, and the turns so far. -/
structure World where
  table : LockTable Session
  progress : Client → Progress
  turns : List Turn

/-- What may happen next. -/
inductive Event where
  /-- the caller makes its call; the moment counts when the call starts a session, which may have been
  given its time on the way to the table -/
  | call (caller : Client) (m : Moment) (c : Call)
  /-- the caller gets the cell that it waits for -/
  | grant (caller : Client)
  /-- the caller looks the id up again, and works until its first wait when it is let in -/
  | confirm (caller : Client)
  /-- the caller gets what it waits for, and works until its next wait -/
  | resume (caller : Client)
  /-- sessions are swept out that had outlived their time at the time that was read on the way to the
  table, or else now -/
  | sweep (read : Option Int)
  /-- the clock is set, on or back -/
  | clock (now : Int)

namespace World

/-- A world without sessions in which nobody has called. -/
def empty (lifetime : Nat) (now : Int) : World := ⟨.empty lifetime now, fun _ => .due, []⟩

/-- The world with a caller further on. -/
def advance (w : World) (caller : Client) (p : Progress) : World :=
  { w with progress := fun k => if k = caller then p else w.progress k }

/-- The world after a step of the table. -/
def onTable (w : World) (s : Session.LockStep Session) : World :=
  { w with table := w.table.attempt s }

/-- The world with one more turn. -/
def turn (w : World) (t : Turn) : World := { w with turns := w.turns ++ [t] }

/-- The world when a caller is told that there is no such session. -/
def refuse (w : World) (caller : Client) (id : String) (u : Use) : World :=
  w.advance caller (.answered (.use id u) (.ofResult u.kind (.error .unknownId)))

/-- The world when a caller's work has come to a wait or to its end: the cell holds what the session
holds then.  With the end of its work the caller lets go of the cell and is answered. -/
def settle (w : World) (caller : Client) (id : String) (u : Use)
    (work : Work Session (Except Fault Yield)) : World :=
  let w := w.onTable (.put caller (held work))
  match given? work with
  | some result =>
      (w.onTable (.release caller)).advance caller
        (.answered (.use id u) (.ofResult u.kind result))
  | none => w.advance caller (.working id u work)

/-- The world after a caller has called.  A session is started or dropped at once; a use that asks
for what cannot be is answered at once; any other use begins with the lookup of the id. -/
def call (w : World) (caller : Client) (m : Moment) (c : Call) : World :=
  match c with
  | .start session =>
      let id := m.ids.fresh w.table.registry.ids
      ((w.onTable (.create id session (some m.now))).advance caller
        (.answered c (.ofResult c.kind (.ok (.newId id))))).turn (.call caller m c)
  | .drop id =>
      ((w.onTable (.delete id)).advance caller
        (.answered c (.ofResult c.kind (.ok .nothing)))).turn (.call caller m c)
  | .use id u =>
      match u.fault? with
      | some fault =>
          (w.advance caller (.answered c (.ofResult c.kind (.error fault)))).turn
            (.call caller m c)
      | none =>
          match w.table.cell? id with
          | some _ => (w.onTable (.request caller id)).advance caller (.locking id u)
          | none => (w.onTable (.request caller id)).refuse caller id u

/-- The world after a caller's second lookup: if it may use the session its turn has come. -/
def letIn (w : World) (caller : Client) (id : String) (u : Use) : World :=
  let after := w.onTable (.confirm caller)
  match after.table.content? caller with
  | some session =>
      (after.settle caller id u (u.work session)).turn
        (.call caller (.at w.table.now) (.use id u))
  | none => after.refuse caller id u

/-- One event; an event that is not possible leaves the world as it is. -/
def step (tools : Tools) (w : World) : Event → World
  | .call caller m c =>
      match w.progress caller with
      | .due => w.call caller m c
      | _ => w
  | .grant caller => w.onTable (.grant caller)
  | .confirm caller =>
      match w.progress caller, w.table.place caller with
      | .locking id u, .checking _ _ => w.letIn caller id u
      | _, _ => w
  | .resume caller =>
      match w.progress caller with
      | .working id u work => w.settle caller id u (tools.resume work)
      | _ => w
  | .sweep read =>
      (w.onTable (.sweep read)).turn (.sweep (read.getD w.table.now))
  | .clock now => w.onTable (.clock now)

/-- Several events one after another. -/
def run (tools : Tools) (w : World) (events : List Event) : World := events.foldl (step tools) w

end World

end DocumentCard.Rpc
