import DocumentCard.Proofs.Rpc.Course
set_option autoImplicit false

/-!
# The history of a session

Uses of one session, one after another, make up its history: an episode for each of them tells what the
session was, what helpers did for the use, what it gave, and what the session has become.

What a session promises is said of an episode and those before it.  To prove it of every history it is
enough to know what one use does to a session of which the past tells the truth (`throughout_history`).
-/

namespace DocumentCard.Rpc

open Session (Act Fault Helpers)

/-- A use of a session that has been made. -/
structure Episode where
  before : Session
  use : Use
  /-- what helpers did for the use -/
  acts : List Act
  result : Except Fault Yield
  after : Session

/-- The episode that comes of a use when so many scans have been made before. -/
def Use.episode (u : Use) (helpers : Helpers) (scans : Nat) (s : Session) : Episode where
  before := s
  use := u
  acts := (u.work s).acts helpers scans
  result := ((u.work s).run helpers scans).result
  after := ((u.work s).run helpers scans).state

/-- The reply to the one who has made the use. -/
def Episode.reply (e : Episode) : Reply := .ofResult e.use.kind e.result

/-- The episodes of uses one after another. -/
def history (helpers : Helpers) : Nat → Session → List Use → List Episode
  | _, _, [] => []
  | scans, s, u :: rest =>
      let ran := (u.work s).run helpers scans
      u.episode helpers scans s :: history helpers ran.scans ran.state rest

/-- A history in which every episode bears such a relation to those before it. -/
def Throughout (relation : List Episode → Episode → Prop) (episodes : List Episode) : Prop :=
  ∀ past e later, episodes = past ++ e :: later → relation past e

/-- What the past tells of a session is true in the end when it is true at first and every use keeps it
so. -/
theorem throughout_history {helpers : Helpers} {tells : List Episode → Session → Prop}
    {relation : List Episode → Episode → Prop}
    (step : ∀ past s (u : Use) scans, tells past s →
      relation past (u.episode helpers scans s) ∧
        tells (past ++ [u.episode helpers scans s]) (u.episode helpers scans s).after)
    {s : Session} (start : tells [] s) (scans : Nat) (uses : List Use) :
    Throughout relation (history helpers scans s uses) := by
  suffices later : ∀ past, tells past s → ∀ between e rest,
      history helpers scans s uses = between ++ e :: rest → relation (past ++ between) e by
    intro past e rest h
    simpa using later [] start past e rest h
  clear start
  induction uses generalizing scans s with
  | nil =>
      intro past _ between e rest h
      simp [history] at h
  | cons u uses ih =>
      intro past told between e rest h
      obtain ⟨here, kept⟩ := step past s u scans told
      cases between with
      | nil =>
          obtain ⟨rfl, -⟩ := List.cons.inj h
          simpa using here
      | cons first between =>
          obtain ⟨rfl, hrest⟩ := List.cons.inj h
          have hlater := ih _ _ kept between e rest hrest
          simpa using hlater

end DocumentCard.Rpc
