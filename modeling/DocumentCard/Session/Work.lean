import DocumentCard.Antivirus.Verdict
import DocumentCard.Card.Descriptor
import DocumentCard.Card.Fault
import DocumentCard.Session.Fault
set_option autoImplicit false

/-!
# Work on a session

A call on a session does its work between waits: for a scan, or for a task that makes or opens a
card.  `Work` is that as a tree: each node tells what the session holds during the wait, what is
waited for, and how the work goes on from any answer.  Work says nothing about who answers; `run` does
it with given helpers, and other ways to run it may stop at every wait.

A task may end without a result of its own.  Then its reason is known and nothing else.
-/

namespace DocumentCard.Session

/-- How a task ends. -/
inductive Outcome (α : Type) where
  | finished (result : α)
  /-- the task broke down -/
  | crashed (reason : String)
  deriving Repr

/-- How a task ends that comes to this result.  A task that comes upon something that no memory holds
breaks down instead; tasks are told apart by numbers. -/
def Outcome.ofResult {α : Type} (task : Nat) (result : Except Card.Fault α) :
    Outcome (Except Card.Fault α) :=
  match result with
  | .error (.pdf .rowTooLong) =>
      .crashed ("task " ++ decimalText task ++ " panicked with message \"capacity overflow\"")
  | result => .finished result

/-- A task breaks down or ends with its result. -/
theorem Outcome.ofResult_cases {α : Type} (task : Nat) (result : Except Card.Fault α) :
    (∃ reason, ofResult task result = .crashed reason) ∨ ofResult task result = .finished result := by
  unfold ofResult
  split
  · exact .inl ⟨_, rfl⟩
  · exact .inr rfl

/-- What a task that makes a card gives. -/
abbrev Pressed : Type := Outcome (Except Card.Fault Bytes)

/-- What a task that opens a card gives. -/
abbrev Unpacked : Type := Outcome (Except Card.Fault (List Card.Attachment))

/-- Work that leaves a `σ` behind and gives an `α`. -/
inductive Work (σ α : Type) where
  /-- the work is done -/
  | done (state : σ) (result : α)
  /-- waits for a scan -/
  | scan (state : σ) (data : Bytes) (next : Antivirus.Scan → Work σ α)
  /-- waits for a card to be made -/
  | press (state : σ) (request : Card.Request) (next : Pressed → Work σ α)
  /-- waits for a card to be opened -/
  | unpack (state : σ) (card : Bytes) (next : Unpacked → Work σ α)

/-- Those who do what work waits for.  They may answer the same question in different ways, which
the first argument allows for: the number of scans made before. -/
structure Helpers where
  scan : Nat → Bytes → Antivirus.Scan
  press : Nat → Card.Request → Pressed
  unpack : Nat → Bytes → Unpacked

/-- What work leaves behind. -/
structure Ran (σ α : Type) where
  state : σ
  result : α
  /-- the number of scans made so far -/
  scans : Nat

namespace Work

/-- The work done by helpers; `scans` is the number of scans made before. -/
def run {σ α : Type} (helpers : Helpers) (scans : Nat) : Work σ α → Ran σ α
  | .done state result => ⟨state, result, scans⟩
  | .scan _ data next => run helpers (scans + 1) (next (helpers.scan scans data))
  | .press _ request next => run helpers scans (next (helpers.press scans request))
  | .unpack _ card next => run helpers scans (next (helpers.unpack scans card))

/-- The work as part of something larger. -/
def map {σ τ α β : Type} (state : σ → τ) (result : α → β) : Work σ α → Work τ β
  | .done s a => .done (state s) (result a)
  | .scan s data next => .scan (state s) data fun answer => map state result (next answer)
  | .press s request next => .press (state s) request fun answer => map state result (next answer)
  | .unpack s card next => .unpack (state s) card fun answer => map state result (next answer)

theorem run_map {σ τ α β : Type} (helpers : Helpers) (f : σ → τ) (g : α → β) (w : Work σ α)
    (scans : Nat) :
    (w.map f g).run helpers scans =
      ⟨f (w.run helpers scans).state, g (w.run helpers scans).result,
        (w.run helpers scans).scans⟩ := by
  induction w generalizing scans with
  | done s a => rfl
  | scan s data next ih => exact ih _ _
  | press s request next ih => exact ih _ _
  | unpack s card next ih => exact ih _ _

/-- Work without a wait; when it fails the session keeps what it held. -/
def atOnce {σ α : Type} (state : σ) (outcome : Except Fault (α × σ)) : Work σ (Except Fault α) :=
  match outcome with
  | .ok (result, after) => .done after (.ok result)
  | .error fault => .done state (.error fault)

end Work

/-- Only a clean verdict lets data pass. -/
def passed : Antivirus.Scan → Except Fault Unit
  | .ok .clean => .ok ()
  | .ok (.infected reply) => .error (.notClean reply)
  | .error fault => .error (.notScanned fault.message)

/-- Work that has data scanned while the session holds `state`, and goes on from whether it
passed. -/
def Work.screen {σ α : Type} (state : σ) (data : Bytes) (next : Except Fault Unit → Work σ α) :
    Work σ α :=
  .scan state data fun answer => next (passed answer)

end DocumentCard.Session
