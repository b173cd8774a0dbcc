import DocumentCard.Session.Registry
set_option autoImplicit false

/-!
# Locks

Clients that work at the same time share the sessions.  Each session is a cell of its own that one
client at a time may hold; the registry maps ids to cells.  To lock a session a client looks its id
up, waits for the cell, and looks the id up again, because the session may have been removed, replaced
or have grown too old in the meantime: only if the id still stands for this very cell and is alive may
the client hold it.  In any other case the client lets go of the cell and is refused.

The three steps of locking are steps of the table, and other clients' steps may come between them.
A step that is not possible at the moment gives `none`.  Which of several waiting clients gets a cell
is left open.  Whoever adds a session or sweeps reads the clock before the table is free, so the time
that such a step goes by may be another than that of the step.
-/

namespace DocumentCard.Session

/-- A client, by number. -/
abbrev Client : Type := Nat

/-- A cell, by number. -/
abbrev CellId : Type := Nat

/-- Where a client stands. -/
inductive Place where
  | idle
  /-- has looked up the id and waits for the cell -/
  | waiting (id : String) (cell : CellId)
  /-- has the cell and is to look up the id again -/
  | checking (id : String) (cell : CellId)
  /-- may use the cell -/
  | holding (id : String) (cell : CellId)
  /-- was told that there is no such session -/
  | refused
  deriving DecidableEq, Repr, Inhabited

/-- The sessions with their cells, and the clients. -/
structure LockTable (α : Type) where
  now : Int
  registry : Registry CellId
  /-- what the cells hold, by their numbers; a cell is never used again -/
  contents : List α
  /-- the client that has a cell -/
  holder : CellId → Option Client
  place : Client → Place

/-- A step of a client or of the table. -/
inductive LockStep (α : Type) where
  /-- the client looks up an id -/
  | request (client : Client) (id : String)
  /-- the client gets the cell that it waits for -/
  | grant (client : Client)
  /-- the client looks up the id again -/
  | confirm (client : Client)
  /-- the client puts something else into its cell -/
  | put (client : Client) (content : α)
  /-- the client lets go of its cell -/
  | release (client : Client)
  /-- a session is added; it counts as created at the time that was read on the way to the table, or
  else now -/
  | create (id : String) (content : α) (read : Option Int := none)
  /-- a session is removed -/
  | delete (id : String)
  /-- sessions are removed that had outlived their time at the time that was read on the way to the
  table, or else now -/
  | sweep (read : Option Int := none)
  /-- the clock is set, on or back -/
  | clock (now : Int)

namespace LockTable

variable {α : Type}

/-- A table without sessions. -/
def empty (lifetime : Nat) (now : Int) : LockTable α :=
  ⟨now, .empty lifetime, [], fun _ => none, fun _ => .idle⟩

/-- The table with a client in another place. -/
def move (t : LockTable α) (client : Client) (place : Place) : LockTable α :=
  { t with place := fun c => if c = client then place else t.place c }

/-- The table with a cell had by another client, or by none. -/
def hand (t : LockTable α) (cell : CellId) (client : Option Client) : LockTable α :=
  { t with holder := fun k => if k = cell then client else t.holder k }

/-- The cell that an id stands for at this time. -/
def cell? (t : LockTable α) (id : String) : Option CellId :=
  (t.registry.live? t.now id).map (·.content)

/-- One step, if it is possible. -/
def step (t : LockTable α) : LockStep α → Option (LockTable α)
  | .request client id =>
      match t.place client with
      | .idle | .refused =>
          match t.cell? id with
          | some cell => some (t.move client (.waiting id cell))
          | none => some (t.move client .refused)
      | _ => none
  | .grant client =>
      match t.place client with
      | .waiting id cell =>
          match t.holder cell with
          | none => some ((t.hand cell (some client)).move client (.checking id cell))
          | some _ => none
      | _ => none
  | .confirm client =>
      match t.place client with
      | .checking id cell =>
          if t.cell? id = some cell then some (t.move client (.holding id cell))
          else some ((t.hand cell none).move client .refused)
      | _ => none
  | .put client content =>
      match t.place client with
      | .holding _ cell => some { t with contents := t.contents.set cell content }
      | _ => none
  | .release client =>
      match t.place client with
      | .holding _ cell => some ((t.hand cell none).move client .idle)
      | _ => none
  | .create id content read =>
      if unused : id ∉ t.registry.ids then
        some { t with
          registry := t.registry.add ⟨id, read.getD t.now, t.contents.length⟩ unused
          contents := t.contents ++ [content] }
      else none
  | .delete id => some { t with registry := t.registry.delete id }
  | .sweep read => some { t with registry := t.registry.sweep (read.getD t.now) }
  | .clock now => some { t with now }

/-- One step; a step that is not possible leaves the table as it is. -/
def attempt (t : LockTable α) (s : LockStep α) : LockTable α := (t.step s).getD t

/-- Several steps one after another. -/
def run (t : LockTable α) (steps : List (LockStep α)) : LockTable α := steps.foldl attempt t

/-- A client locks a session without anyone in its way. -/
def lock (t : LockTable α) (client : Client) (id : String) : LockTable α :=
  t.run [.request client id, .grant client, .confirm client]

/-- The cell that a client may use. -/
def held? (t : LockTable α) (client : Client) : Option CellId :=
  match t.place client with
  | .holding _ cell => some cell
  | _ => none

/-- What the cell that a client may use holds. -/
def content? (t : LockTable α) (client : Client) : Option α :=
  (t.held? client).bind fun cell => t.contents[cell]?

/-- Adds a session under a fresh id, and tells the id. -/
def create (t : LockTable α) (supply : IdSupply) (content : α) : String × LockTable α :=
  let id := supply.fresh t.registry.ids
  (id, t.attempt (.create id content))

end LockTable

end DocumentCard.Session
