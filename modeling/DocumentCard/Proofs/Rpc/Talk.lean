import DocumentCard.Proofs.Rpc.Concurrent
import DocumentCard.Proofs.Session.Registry
set_option autoImplicit false

/-!
# Talking to one session

A service is asked many things by many callers.  Of all that, the uses of one session with the replies
to them make up the talk with that session (`Service.exchanges`).  As long as nobody drops the session
and it does not outlive its time, the talk is one that could be had with the session alone, from what it
was when the talk began (`Talk`): no other session, and no sweep, has a part in it.

Helpers may answer the same question in different ways, so a session alone does not fix its replies.

Main statement: the exchanges with a session make up a talk (`Service.talk_of_find?`).
-/

namespace DocumentCard.Rpc

open Session (Helpers Record Registry Work Fault)

/-- A use of a session, and the reply to it. -/
abbrev Exchange : Type := Use × Reply

/-- A talk with a session that is one thing at first and another in the end.  The work of a use may
begin after any number of scans. -/
inductive Talk (helpers : Helpers) : Session → List Exchange → Session → Prop where
  | nil (session : Session) : Talk helpers session [] session
  /-- a use that asks for what cannot be does nothing -/
  | refused {session last : Session} {u : Use} {fault : Fault} {rest : List Exchange}
      (asks : u.fault? = some fault) (talk : Talk helpers session rest last) :
      Talk helpers session ((u, .ofResult u.kind (.error fault)) :: rest) last
  | used {session last : Session} {u : Use} {rest : List Exchange} (may : u.fault? = none)
      (scans : Nat) (talk : Talk helpers ((u.work session).run helpers scans).state rest last) :
      Talk helpers session
        ((u, .ofResult u.kind ((u.work session).run helpers scans).result) :: rest) last

/-- A turn that does not drop the session of an id, and comes before the session outlives its time. -/
def Turn.Spares (id : String) (created : Int) (lifetime : Nat) : Turn → Prop
  | .call _ m c => c ≠ .drop id ∧ m.now - created ≤ lifetime
  | .sweep now => now - created ≤ lifetime

namespace Service

variable {helpers : Helpers} {id : String} {created : Int} {session : Session}

/-- The service after a turn. -/
def after (s : Service) (helpers : Helpers) : Turn → Service
  | .call _ m c => (s.call helpers m c).1
  | .sweep now => s.sweep now

/-- The exchange with a session that a turn is, if it is one. -/
def exchange? (s : Service) (helpers : Helpers) (id : String) : Turn → Option Exchange
  | .call _ m (.use other u) =>
      if other = id then some (u, (s.call helpers m (.use other u)).2) else none
  | _ => none

/-- The exchanges with a session in the course of several turns. -/
def exchanges (helpers : Helpers) (id : String) : Service → List Turn → List Exchange
  | _, [] => []
  | s, t :: rest =>
      (s.exchange? helpers id t).toList ++ exchanges helpers id (s.after helpers t) rest

/-- No turn changes for how long sessions live. -/
theorem lifetime_after (s : Service) (helpers : Helpers) (t : Turn) :
    (s.after helpers t).registry.lifetime = s.registry.lifetime := by
  cases t with
  | sweep now => rfl
  | call caller m c =>
      cases c with
      | start session => rfl
      | drop id => rfl
      | use id u =>
          simp only [after, call, use]
          cases u.fault? with
          | some fault => rfl
          | none =>
              simp only
              cases s.registry.live? m.now id with
              | none => rfl
              | some record => rfl

/-- A session that has not outlived its time is found alive. -/
theorem live?_of_find? {s : Service} {now : Int}
    (found : s.registry.find? id = some ⟨id, created, session⟩)
    (alive : now - created ≤ s.registry.lifetime) :
    s.registry.live? now id = some ⟨id, created, session⟩ := by
  refine Registry.live?_eq_some_iff.mpr ⟨found, ?_⟩
  simp only [Record.expired, decide_eq_false_iff_not]
  omega

/-- A turn that is none of a session's business leaves the session as it is. -/
theorem find?_after_of_other {s : Service} {t : Turn}
    (found : s.registry.find? id = some ⟨id, created, session⟩)
    (spares : t.Spares id created s.registry.lifetime)
    (other : ∀ caller m u, t ≠ .call caller m (.use id u)) :
    (s.after helpers t).registry.find? id = some ⟨id, created, session⟩ := by
  cases t with
  | sweep now =>
      have hlive := live?_of_find? found spares
      rw [Registry.live?_eq_some_iff] at hlive
      simp [after, sweep, Registry.sweep, Registry.find?_keep, found, hlive.2]
  | call caller m c =>
      cases c with
      | start new =>
          have hid : m.ids.fresh s.registry.ids ≠ id := by
            intro e
            refine m.ids.fresh_not_mem s.registry.ids ?_
            rw [e]
            exact List.mem_map.mpr ⟨_, Registry.mem_of_find? found, rfl⟩
          simp [after, call, Registry.create, Registry.find?_add, hid, found]
      | drop dropped =>
          have hid : id ≠ dropped := by
            rintro rfl
            exact spares.1 rfl
          simp [after, call, Registry.delete, Registry.find?_keep, found, hid]
      | use used u =>
          have hid : id ≠ used := by
            rintro rfl
            exact other caller m u rfl
          simp only [after, call, use]
          cases u.fault? with
          | some fault => exact found
          | none =>
              simp only
              cases s.registry.live? m.now used with
              | none => exact found
              | some record => simp [Registry.find?_put, hid, found]

/-- A use of a session that is there and alive. -/
theorem call_use_of_find? (helpers : Helpers) {s : Service} {m : Moment} {u : Use} (may : u.fault? = none)
    (found : s.registry.find? id = some ⟨id, created, session⟩)
    (alive : m.now - created ≤ s.registry.lifetime) :
    let ran := (u.work session).run helpers s.scans
    s.call helpers m (.use id u)
      = (⟨s.registry.put id ran.state, ran.scans⟩, .ofResult u.kind ran.result) := by
  simp [call, use, may, live?_of_find? found alive, Call.kind]

/-- The exchanges with a session make up a talk with it. -/
theorem talk_of_find? {s : Service} {turns : List Turn}
    (found : s.registry.find? id = some ⟨id, created, session⟩)
    (spared : ∀ t ∈ turns, t.Spares id created s.registry.lifetime) :
    ∃ last, Talk helpers session (exchanges helpers id s turns) last := by
  induction turns generalizing s session with
  | nil => exact ⟨session, .nil session⟩
  | cons t rest ih =>
      rw [List.forall_mem_cons] at spared
      obtain ⟨spares, later⟩ := spared
      rw [← s.lifetime_after helpers t] at later
      by_cases hown : ∃ caller m u, t = .call caller m (.use id u)
      · obtain ⟨caller, m, u, rfl⟩ := hown
        cases hfault : u.fault? with
        | some fault =>
            have hcall : s.call helpers m (.use id u) = (s, .ofResult u.kind (.error fault)) := by
              simp [call, use, hfault, Call.kind]
            have hafter : s.after helpers (.call caller m (.use id u)) = s := congrArg Prod.fst hcall
            rw [hafter] at later
            obtain ⟨last, talk⟩ := ih found later
            refine ⟨last, ?_⟩
            simp only [exchanges, exchange?, hcall, hafter, if_pos]
            exact .refused hfault talk
        | none =>
            have hcall := call_use_of_find? helpers hfault found spares.2
            have hfound : (s.after helpers (.call caller m (.use id u))).registry.find? id
                = some ⟨id, created, ((u.work session).run helpers s.scans).state⟩ := by
              simp [after, hcall, Registry.find?_put, found]
            obtain ⟨last, talk⟩ := ih hfound later
            refine ⟨last, ?_⟩
            simp only [exchanges, exchange?, hcall, if_pos]
            exact .used hfault s.scans talk
      · have other : ∀ caller m u, t ≠ .call caller m (.use id u) :=
          fun caller m u e => hown ⟨caller, m, u, e⟩
        have hnone : s.exchange? helpers id t = none := by
          unfold exchange?
          split
          · rename_i caller m used u
            apply if_neg
            rintro rfl
            exact other caller m u rfl
          · rfl
        obtain ⟨last, talk⟩ := ih (find?_after_of_other found spares other) later
        exact ⟨last, by simpa [exchanges, hnone] using talk⟩

/-- The exchanges with a session from its start on make up a talk with what was started. -/
theorem talk_of_start {s started : Service} {m : Moment} {turns : List Turn}
    (start : s.call helpers m (.start session) = (started, .ofResult .newId (.ok (.newId id))))
    (spared : ∀ t ∈ turns, t.Spares id m.now s.registry.lifetime) :
    ∃ last, Talk helpers session (exchanges helpers id started turns) last := by
  simp only [call, Registry.create, Reply.ofResult, Prod.mk.injEq, Reply.mk.injEq,
    Yield.newId.injEq, and_true] at start
  obtain ⟨rfl, rfl⟩ := start
  refine talk_of_find? ?_ spared
  simp [Registry.find?_add]

end Service

end DocumentCard.Rpc
