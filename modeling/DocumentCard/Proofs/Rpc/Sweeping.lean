import DocumentCard.Proofs.Rpc.Course
import DocumentCard.Proofs.Rpc.Serial
import DocumentCard.Proofs.Rpc.Traffic
import DocumentCard.Proofs.Session.Lifetime
set_option autoImplicit false

/-!
# Sweeping makes room, and no difference

Two runs are compared that differ in nothing but their sweeps.  A registry that has been swept holds
fewer sessions than the other, but from now on every id stands for the same in both
(`Registry.Within`).  A sweep could show in one other way: it frees ids, which might be given again.  As
long as no id is given twice, the ids that are given are the same too (`IdSupply.fresh_of_subset`).

Main statement: whether a session can be locked, and what calls are told, depends on when sessions are
started and dropped, and not on when they are used or swept out (`lifetimes_are_absolute`).
-/

namespace DocumentCard.Session.IdSupply

/-- All ids before the fresh one are taken. -/
theorem exists_first (s : IdSupply) (taken : List String) :
    ∃ k, s.fresh taken = s.id k ∧ ∀ j < k, s.id j ∈ taken := by
  unfold fresh
  cases hfind : (List.range (taken.length + 1)).find? fun k => !taken.contains (s.id k) with
  | some k => exact ⟨k, rfl, by simpa using (List.find?_range_eq_some.mp hfind).2.2⟩
  | none => exact ⟨0, rfl, nofun⟩

/-- An id that is fresh is the first that is not taken. -/
theorem fresh_eq_of_first {s : IdSupply} {taken : List String} {k : Nat} (free : s.id k ∉ taken)
    (first : ∀ j < k, s.id j ∈ taken) : s.fresh taken = s.id k := by
  obtain ⟨i, hi, hfirst⟩ := s.exists_first taken
  have hfree := s.fresh_not_mem taken
  rw [hi] at hfree ⊢
  rcases Nat.lt_trichotomy i k with hlt | rfl | hgt
  · exact absurd (first i hlt) hfree
  · rfl
  · exact absurd (hfirst k hgt) free

/-- The id that is fresh when few are taken is so when more are, unless it is one of those. -/
theorem fresh_of_subset {s : IdSupply} {taken more : List String} (subset : ∀ id ∈ taken, id ∈ more)
    (free : s.fresh taken ∉ more) : s.fresh more = s.fresh taken := by
  obtain ⟨k, hk, hfirst⟩ := s.exists_first taken
  rw [hk] at free ⊢
  exact fresh_eq_of_first free fun j hj => subset _ (hfirst j hj)

end DocumentCard.Session.IdSupply

namespace DocumentCard.Rpc

open Session (Helpers Registry LockTable LockStep Client)

/-! ## Calls one after another -/

namespace Service

/-- The service differs from the other in nothing but sessions that the other still has though they
have outlived their time. -/
structure Like (now : Int) (s u : Service) : Prop where
  registry : s.registry.Within now u.registry
  scans : s.scans = u.scans

namespace Like

variable {now : Int} {s u : Service}

theorem refl (now : Int) (s : Service) : Like now s s := ⟨.refl now s.registry, rfl⟩

/-- A sweep of the one service makes no difference. -/
theorem sweep (h : Like now s u) (read : Int) : Like (max now read) (s.sweep read) u :=
  ⟨(h.registry.mono (Int.le_max_left now read)).sweep (Int.le_max_right now read), h.scans⟩

/-- A session is started in both services alike. -/
theorem start (helpers : Helpers) (h : Like now s u) (m : Moment) (session : Session)
    (new : m.ids.fresh s.registry.ids ∉ u.registry.ids) :
    (s.call helpers m (.start session)).2 = (u.call helpers m (.start session)).2 ∧
      Like now (s.call helpers m (.start session)).1 (u.call helpers m (.start session)).1 := by
  have hfresh := Session.IdSupply.fresh_of_subset h.registry.ids new
  refine ⟨by simp only [call, Registry.create, hfresh], ?_, h.scans⟩
  simp only [call, Registry.create, hfresh]
  exact h.registry.add _ _ _

/-- A session is used in both services alike. -/
theorem use (helpers : Helpers) (h : Like now s u) {m : Moment} (hle : now ≤ m.now) (id : String)
    (how : Use) :
    (s.call helpers m (.use id how)).2 = (u.call helpers m (.use id how)).2 ∧
      Like now (s.call helpers m (.use id how)).1 (u.call helpers m (.use id how)).1 := by
  simp only [call, Service.use]
  cases how.fault? with
  | some fault => exact ⟨rfl, h⟩
  | none =>
      simp only [(h.registry.agree id).live m.now hle, h.scans]
      cases u.registry.live? m.now id with
      | none => exact ⟨rfl, h⟩
      | some record => exact ⟨rfl, h.registry.put id _, rfl⟩

/-- A text is answered by both services alike. -/
theorem answer (helpers : Helpers) (h : Like now s u) {m : Moment} (hle : now ≤ m.now) (text : Bytes)
    (new : ∀ id, (s.answer helpers m text).2.newId? = some id → id ∉ u.registry.ids) :
    (s.answer helpers m text).2 = (u.answer helpers m text).2 ∧
      Like now (s.answer helpers m text).1 (u.answer helpers m text).1 := by
  cases hcall : Call.ofText? text with
  | none =>
      obtain ⟨_, _, hanswer⟩ := answer_of_none hcall
      rw [hanswer, hanswer]
      exact ⟨rfl, h⟩
  | some c =>
      obtain ⟨_, hanswer⟩ := answer_of_call hcall
      rw [hanswer] at new ⊢
      rw [hanswer]
      suffices hboth : (s.call helpers m c).2 = (u.call helpers m c).2 ∧
          Like now (s.call helpers m c).1 (u.call helpers m c).1 by
        exact ⟨by rw [hboth.1], hboth.2⟩
      cases c with
      | start session => exact h.start helpers m session (new _ rfl)
      | drop id => exact ⟨rfl, h.registry.delete id, h.scans⟩
      | use id how => exact h.use helpers hle id how

end Like

/-- An id that is in use after a text was so before, or has been given in the answer. -/
theorem mem_ids_answer {helpers : Helpers} {u : Service} {m : Moment} {text : Bytes} {id : String}
    (h : id ∈ (u.answer helpers m text).1.registry.ids) :
    id ∈ u.registry.ids ∨ (u.answer helpers m text).2.newId? = some id := by
  cases hcall : Call.ofText? text with
  | none =>
      obtain ⟨_, _, hanswer⟩ := answer_of_none hcall
      rw [hanswer] at h
      exact .inl h
  | some c =>
      obtain ⟨_, hanswer⟩ := answer_of_call hcall
      rw [hanswer] at h ⊢
      cases c with
      | start session =>
          rcases List.mem_cons.mp h with rfl | hold
          · exact .inr rfl
          · exact .inl hold
      | drop dropped => exact .inl (Registry.mem_ids_of_keep h)
      | use used how =>
          rcases u.use_cases helpers m.now used how with
            ⟨fault, huse, -⟩ | ⟨record, after, result, scans, -, -, -, huse⟩
          · simp only [call, huse] at h
            exact .inl h
          · simp only [call, huse, Registry.ids_put] at h
            exact .inl h

/-- Without its sweeps a run of arrivals is answered as it is with them. -/
theorem answers_filter (helpers : Helpers) {now : Int} {s u : Service} {arrivals : List Arrival}
    (h : Like now s u) (later : ∀ a ∈ arrivals, a.isPost = true → now ≤ a.time)
    (onward : Arrival.Onward arrivals) (distinct : (s.newIds helpers arrivals).Nodup)
    (new : ∀ id ∈ s.newIds helpers arrivals, id ∉ u.registry.ids) :
    s.answers helpers arrivals = u.answers helpers (arrivals.filter (·.isPost)) := by
  induction arrivals generalizing s u now with
  | nil => rfl
  | cons a rest ih =>
      rw [List.forall_mem_cons] at later
      obtain ⟨hnow, later⟩ := later
      obtain ⟨hfirst, hrest⟩ := List.pairwise_cons.mp onward
      rw [newIds_cons] at distinct new
      have hnew := fun id hmem => new id (List.mem_append_right _ hmem)
      cases a with
      | sweep read =>
          exact ih (h.sweep read)
            (fun b hb hpost => Int.max_le.mpr ⟨later b hb hpost, hfirst b hb hpost⟩) hrest
            distinct.of_append_right hnew
      | post m text =>
          obtain ⟨hanswer, hlike⟩ := h.answer helpers (hnow rfl) text fun id hid =>
            new id (List.mem_append_left _ (by simp [answer?, hid]))
          have hanswers := ih hlike later hrest distinct.of_append_right fun id hmem hused => by
            rcases mem_ids_answer hused with hold | hid
            · exact hnew id hmem hold
            · rw [← hanswer] at hid
              exact List.disjoint_of_nodup_append distinct (by simp [answer?, hid]) hmem
          rw [List.filter_cons_of_pos rfl]
          simp only [answers, answersTo, if_true, answer?, hanswer]
          exact congrArg _ hanswers

end Service

/-! ## Calls at the same time -/

namespace World

/-- The id that the event gives to a new session, if it does. -/
def newId? (w : World) : Event → Option String
  | .call caller m (.start _) =>
      match w.progress caller with
      | .due => some (m.ids.fresh w.table.registry.ids)
      | _ => none
  | _ => none

/-- The ids that are given to new sessions in the course of several events. -/
def newIds (tools : Tools) : World → List Event → List String
  | _, [] => []
  | w, e :: rest => (w.newId? e).toList ++ newIds tools (w.step tools e) rest

end World

/-- Whether sessions are swept out. -/
def Event.isSweep : Event → Bool
  | .sweep _ => true
  | _ => false

/-- An event that does not set the clock back, and does not sweep by a time that is still to come. -/
def Event.Onward (now : Int) : Event → Prop
  | .clock later => now ≤ later
  | .sweep read => read.getD now ≤ now
  | _ => True

namespace World

/-- In the course of the events the clock is not set back. -/
def Onward (tools : Tools) (w : World) : List Event → Prop
  | [] => True
  | e :: rest => e.Onward w.table.now ∧ Onward tools (w.step tools e) rest

/-- The callers are as far in the one world as in the other, and the table differs in nothing but
sessions that have outlived their time. -/
structure Like (w v : World) : Prop where
  table : w.table.Like v.table
  progress : w.progress = v.progress

section Registry

variable (w : World) (caller : Client) (id : String) (u : Use)

theorem registry_settle (work : Session.Work Session (Except Session.Fault Yield)) :
    (w.settle caller id u work).table.registry = w.table.registry := by
  unfold settle
  cases given? work <;> simp [LockTable.registry_attempt]

theorem registry_letIn : (w.letIn caller id u).table.registry = w.table.registry := by
  unfold letIn
  dsimp only
  split
  · simp [registry_settle, LockTable.registry_attempt]
  · simp [refuse, LockTable.registry_attempt]

end Registry

/-- An id that is in use after a call was so before, or has been given by the call. -/
theorem mem_ids_call {w : World} {caller : Client} {m : Moment} {c : Call} {id : String}
    (due : w.progress caller = .due) (h : id ∈ (w.call caller m c).table.registry.ids) :
    id ∈ w.table.registry.ids ∨ w.newId? (.call caller m c) = some id := by
  cases c with
  | start session =>
      rcases Session.LockTable.mem_ids_attempt h with hold | hid
      · exact .inl hold
      · exact .inr (by simpa [newId?, due, LockStep.newId?] using hid)
  | drop dropped =>
      rcases Session.LockTable.mem_ids_attempt h with hold | hid
      · exact .inl hold
      · cases hid
  | use used how =>
      simp only [call] at h
      cases hfault : how.fault? with
      | some fault =>
          simp only [hfault] at h
          exact .inl h
      | none =>
          simp only [hfault] at h
          split at h <;>
            exact .inl (by simpa [refuse, LockTable.registry_attempt] using h)

/-- An id that is in use after an event was so before, or has been given by the event. -/
theorem mem_ids_step {tools : Tools} {w : World} {e : Event} {id : String}
    (h : id ∈ (w.step tools e).table.registry.ids) :
    id ∈ w.table.registry.ids ∨ w.newId? e = some id := by
  cases e with
  | grant caller => exact .inl (by simpa [step, LockTable.registry_attempt] using h)
  | clock now => exact .inl h
  | sweep read =>
      rcases Session.LockTable.mem_ids_attempt h with hold | hid
      · exact .inl hold
      · cases hid
  | confirm caller =>
      simp only [step] at h
      split at h
      · exact .inl (registry_letIn w caller _ _ ▸ h)
      · exact .inl h
  | resume caller =>
      simp only [step] at h
      split at h
      · exact .inl (registry_settle w caller _ _ _ ▸ h)
      · exact .inl h
  | call caller m c =>
      simp only [step] at h
      split at h
      · rename_i due
        exact mem_ids_call due h
      · exact .inl h

namespace Like

variable {w v : World}

theorem onTable (h : Like w v) {s : LockStep Session} {client : Client}
    (step : s.client? = some client) : Like (w.onTable s) (v.onTable s) :=
  ⟨h.table.attempt_client step, h.progress⟩

theorem advance (h : Like w v) (caller : Client) (p : Progress) :
    Like (w.advance caller p) (v.advance caller p) :=
  ⟨h.table, by simp only [World.advance, h.progress]⟩

theorem turn (h : Like w v) (t t' : Turn) : Like (w.turn t) (v.turn t') := ⟨h.table, h.progress⟩

/-- A new session gets the same id in both worlds. -/
theorem newId?_eq (h : Like w v) {e : Event}
    (new : ∀ id, w.newId? e = some id → id ∉ v.table.registry.ids) : v.newId? e = w.newId? e := by
  cases e with
  | call caller m c =>
      cases c with
      | start session =>
          simp only [newId?, ← h.progress] at new ⊢
          cases hdue : w.progress caller with
          | due =>
              simp only [hdue] at new ⊢
              exact congrArg some (Session.IdSupply.fresh_of_subset h.table.registry.ids (new _ rfl))
          | _ => rfl
      | _ => rfl
  | _ => rfl

theorem content?_eq (h : Like w v) (caller : Client) :
    w.table.content? caller = v.table.content? caller := by
  simp only [LockTable.content?, LockTable.held?, h.table.place, h.table.contents]

/-- Work comes to a wait or to its end in both worlds alike. -/
theorem settle (h : Like w v) (caller : Client) (id : String) (u : Use)
    (work : Session.Work Session (Except Session.Fault Yield)) :
    Like (w.settle caller id u work) (v.settle caller id u work) := by
  have hput : Like (w.onTable (.put caller (held work))) (v.onTable (.put caller (held work))) :=
    h.onTable rfl
  unfold World.settle
  cases given? work with
  | none => exact hput.advance _ _
  | some result =>
      have hreleased := hput.onTable (s := .release caller) rfl
      exact hreleased.advance _ _

/-- The second lookup comes out alike in both worlds. -/
theorem letIn (h : Like w v) (caller : Client) (id : String) (u : Use) :
    Like (w.letIn caller id u) (v.letIn caller id u) := by
  have hconfirm := h.onTable (s := .confirm caller) rfl
  unfold World.letIn
  simp only [hconfirm.content?_eq caller]
  cases (v.onTable (.confirm caller)).table.content? caller with
  | none => exact hconfirm.advance _ _
  | some session => exact (hconfirm.settle caller id u _).turn _ _

/-- A call is made in both worlds alike. -/
theorem call (h : Like w v) {caller : Client} (due : w.progress caller = .due) (m : Moment) (c : Call)
    (new : ∀ id, w.newId? (.call caller m c) = some id → id ∉ v.table.registry.ids) :
    Like (w.call caller m c) (v.call caller m c) := by
  cases c with
  | start session =>
      have hnew := new (m.ids.fresh w.table.registry.ids) (by simp [newId?, due])
      have hfresh := Session.IdSupply.fresh_of_subset h.table.registry.ids hnew
      simp only [World.call, hfresh]
      have hcreate : Like (w.onTable (.create _ session (some m.now)))
          (v.onTable (.create _ session (some m.now))) :=
        ⟨h.table.create hnew session (some m.now), h.progress⟩
      exact (hcreate.advance _ _).turn _ _
  | drop id =>
      have hdelete : Like (w.onTable (.delete id)) (v.onTable (.delete id)) :=
        ⟨h.table.delete id, h.progress⟩
      exact (hdelete.advance _ _).turn _ _
  | use id u =>
      simp only [World.call, h.table.cell?_eq id]
      cases u.fault? with
      | some fault => exact (h.advance _ _).turn _ _
      | none =>
          have hrequest := h.onTable (s := .request caller id) rfl
          cases v.table.cell? id with
          | none => exact hrequest.advance _ _
          | some cell => exact hrequest.advance _ _

/-- An event happens in both worlds alike. -/
theorem step (tools : Tools) (h : Like w v) {e : Event} (other : e.isSweep = false)
    (onward : e.Onward w.table.now)
    (new : ∀ id, w.newId? e = some id → id ∉ v.table.registry.ids) :
    Like (w.step tools e) (v.step tools e) := by
  cases e with
  | sweep read => cases other
  | grant caller => exact h.onTable rfl
  | clock now => exact ⟨h.table.clock onward, h.progress⟩
  | confirm caller =>
      simp only [World.step, ← h.progress, ← h.table.place]
      cases w.progress caller with
      | locking id u =>
          cases w.table.place caller with
          | checking id' cell => exact h.letIn caller id u
          | _ => exact h
      | _ => exact h
  | resume caller =>
      simp only [World.step, ← h.progress]
      cases w.progress caller with
      | working id u work => exact h.settle caller id u _
      | _ => exact h
  | call caller m c =>
      simp only [World.step, ← h.progress]
      cases hdue : w.progress caller with
      | due => exact h.call hdue m c new
      | _ => exact h

/-- Without its sweeps a run of events leaves all callers where they are with them. -/
theorem run (tools : Tools) (h : Like w v) {events : List Event} (onward : w.Onward tools events)
    (distinct : (w.newIds tools events).Nodup)
    (new : ∀ id ∈ w.newIds tools events, id ∉ v.table.registry.ids) :
    Like (w.run tools events) (v.run tools (events.filter (!·.isSweep))) := by
  induction events generalizing w v with
  | nil => exact h
  | cons e rest ih =>
      obtain ⟨first, onward⟩ := onward
      rw [newIds] at distinct new
      have later := fun id hmem => new id (List.mem_append_right _ hmem)
      cases he : e.isSweep with
      | true =>
          rw [List.filter_cons_of_neg (by simp [he])]
          refine ih ?_ onward distinct.of_append_right later
          cases e with
          | sweep read => exact ⟨h.table.sweep first, h.progress⟩
          | _ => cases he
      | false =>
          rw [List.filter_cons_of_pos (by simp [he])]
          have hnew : ∀ id, w.newId? e = some id → id ∉ v.table.registry.ids := fun id hid =>
            new id (List.mem_append_left _ (by simp [hid]))
          refine ih (h.step tools he first hnew) onward distinct.of_append_right ?_
          intro id hmem hused
          rcases mem_ids_step hused with hold | hid
          · exact later id hmem hold
          · rw [h.newId?_eq hnew] at hid
            exact List.disjoint_of_nodup_append distinct (by simp [hid]) hmem

end Like

end World

/-! ## How long sessions live -/

/-- Sessions live for a fixed time from their start, whatever is done with them, and it does not show when
they are swept out.  All this goes for runs in which the clock is not set back and no id is given twice. -/
structure LifetimesAbsolute (α : Type) (lifetime : Nat) (start : Int) : Prop where
  /-- whoever locks a session without anyone in the way is let in when the id was given not longer ago
  than sessions live and has not been removed since, and is refused otherwise -/
  lock : ∀ (steps : List (LockStep α)) (client : Client) (id : String),
    let t := (LockTable.empty lifetime start).run steps
    let entitled := ∃ created, LockTable.StandsSince lifetime start steps id created ∧
      t.now - created ≤ lifetime
    (LockTable.empty lifetime start).Onward steps → (steps.filterMap LockStep.newId?).Nodup →
    t.Uncontended client id →
      ((∃ cell, (t.lock client id).place client = .holding id cell) ↔ entitled) ∧
      ((t.lock client id).place client = .refused ↔ ¬ entitled)
  /-- where someone was refused everyone is refused later on -/
  refused : ∀ (steps more : List (LockStep α)) (client later : Client) (id : String),
    let t := (LockTable.empty lifetime start).run steps
    let t' := (LockTable.empty lifetime start).run (steps ++ more)
    (LockTable.empty lifetime start).Onward (steps ++ more) →
    ((steps ++ more).filterMap LockStep.newId?).Nodup → id ∈ steps.filterMap LockStep.newId? →
    t.Uncontended client id → (t.lock client id).place client = .refused →
    t'.Uncontended later id → (t'.lock later id).place later = .refused
  /-- sweeps do not show to those who lock sessions -/
  places : ∀ steps steps' : List (LockStep α),
    let t := (LockTable.empty lifetime start).run steps
    let t' := (LockTable.empty lifetime start).run steps'
    (LockTable.empty lifetime start).Onward steps → (LockTable.empty lifetime start).Onward steps' →
    (steps.filterMap LockStep.newId?).Nodup →
    steps.filter (!·.isSweep) = steps'.filter (!·.isSweep) →
      t.contents = t'.contents ∧ t.place = t'.place ∧
        ∀ client id, (t.lock client id).place = (t'.lock client id).place
  /-- sweeps do not show in the replies to calls that are made one after another -/
  answers : ∀ (helpers : Helpers) (arrivals arrivals' : List Arrival),
    let s := Service.empty lifetime
    Arrival.Onward arrivals → Arrival.Onward arrivals' →
    (s.newIds helpers arrivals).Nodup → (s.newIds helpers arrivals').Nodup →
    arrivals.filter (·.isPost) = arrivals'.filter (·.isPost) →
      s.answers helpers arrivals = s.answers helpers arrivals'
  /-- sweeps do not show in the replies to calls that are made at the same time -/
  progress : ∀ (tools : Tools) (events events' : List Event),
    let w := World.empty lifetime start
    w.Onward tools events → w.Onward tools events' →
    (w.newIds tools events).Nodup → (w.newIds tools events').Nodup →
    events.filter (!·.isSweep) = events'.filter (!·.isSweep) →
      (w.run tools events).progress = (w.run tools events').progress

theorem Service.answers_filter_empty (helpers : Helpers) (lifetime : Nat) {arrivals : List Arrival}
    (onward : Arrival.Onward arrivals)
    (distinct : ((Service.empty lifetime).newIds helpers arrivals).Nodup) :
    (Service.empty lifetime).answers helpers arrivals
      = (Service.empty lifetime).answers helpers (arrivals.filter (·.isPost)) := by
  obtain ⟨first, hfirst⟩ := onward.exists_le
  exact answers_filter helpers (.refl first _) hfirst onward distinct fun _ _ => nofun

/-- Sessions live for a fixed time from their start, and it does not show when they are swept out. -/
theorem lifetimes_are_absolute (α : Type) (lifetime : Nat) (start : Int) :
    LifetimesAbsolute α lifetime start where
  lock steps client id := by
    intro t entitled onward distinct free
    have hcell : (∃ cell, t.cell? id = some cell) ↔ entitled :=
      LockTable.cell?_run onward distinct id
    rw [LockTable.place_lock free, ← hcell]
    cases t.cell? id <;> simp
  refused steps more client later id := by
    intro t t' onward distinct given free refused free'
    have gone : t.cell? id = none := by
      rw [LockTable.place_lock free] at refused
      cases hcell : t.cell? id with
      | none => rfl
      | some cell => simp [hcell] at refused
    rw [LockTable.place_lock free', LockTable.cell?_run_append onward distinct given gone]
  places steps steps' onward onward' distinct same :=
    LockTable.Like.of_filter_eq onward onward' distinct same
  answers helpers arrivals arrivals' := by
    intro s onward onward' distinct distinct' same
    rw [Service.answers_filter_empty helpers lifetime onward distinct, same,
      Service.answers_filter_empty helpers lifetime onward' distinct']
  progress tools events events' := by
    intro w onward onward' distinct distinct' same
    have hlike : World.Like w w := ⟨.refl w.table, rfl⟩
    have hrun := hlike.run tools onward distinct fun _ _ => nofun
    have hrun' := hlike.run tools onward' distinct' fun _ _ => nofun
    rw [← same] at hrun'
    exact hrun.progress.trans hrun'.progress.symm

namespace Aging

/-- A session is started, and a sweep comes at the end of its time. -/
def inTime : List (LockStep Unit) := [.create "a" (), .clock 10, .sweep]

/-- Another sweep comes a moment later. -/
def tooLate : List (LockStep Unit) := inTime ++ [.clock 11, .sweep]

/-- The same without the sweeps. -/
def unswept : List (LockStep Unit) := [.create "a" (), .clock 10, .clock 11]

/-- Helpers who have nothing to do. -/
def helpers : Helpers where
  scan _ _ := .ok .clean
  press _ _ := .crashed "no cards here"
  unpack _ _ := .crashed "no cards here"

/-- A text that starts an extractor. -/
def register : Bytes := .ascii "[\"Extractor.Register\",[[]],1]"

/-- A text that asks the first session for the next signature. -/
def ask : Bytes :=
  .ascii "[\"Extractor.GetSignature\",[[\"00000000-0000-4000-8000-000000000000\"]],2]"

/-- A session is started and asked in time and too late, and both times there was a sweep before. -/
def arrivals : List Arrival :=
  [.post ⟨0, .numbered 0⟩ register, .sweep 10, .post ⟨10, .numbered 0⟩ ask, .sweep 11,
   .post ⟨11, .numbered 0⟩ ask]

end Aging

/-- A session survives a sweep at the end of its time and can be locked then, but not a moment later; and it
makes no difference whether there were sweeps. -/
theorem lifetimes_are_absolute_at_end :
    (∃ cell, (((LockTable.empty 10 0).run Aging.inTime).lock 0 "a").place 0 = .holding "a" cell) ∧
      (((LockTable.empty 10 0).run Aging.tooLate).lock 0 "a").place 0 = .refused ∧
      (∀ client id, (((LockTable.empty 10 0).run Aging.tooLate).lock client id).place
        = (((LockTable.empty 10 0).run Aging.unswept).lock client id).place) ∧
      (Service.empty 10).answers Aging.helpers Aging.arrivals
        = (Service.empty 10).answers Aging.helpers (Aging.arrivals.filter (·.isPost)) := by
  have absolute := lifetimes_are_absolute Unit 10 0
  have onward : (LockTable.empty 10 0).Onward Aging.inTime :=
    ⟨trivial, (by decide : (0 : Int) ≤ 10), Int.le_refl 10, trivial⟩
  have onward' : (LockTable.empty 10 0).Onward Aging.tooLate :=
    LockTable.onward_append.mpr ⟨onward, (by decide : (10 : Int) ≤ 11), Int.le_refl 11, trivial⟩
  have unsweptOnward : (LockTable.empty 10 0).Onward Aging.unswept :=
    ⟨trivial, (by decide : (0 : Int) ≤ 10), (by decide : (10 : Int) ≤ 11), trivial⟩
  refine ⟨?_, ?_, ?_, ?_⟩
  · have free : ((LockTable.empty 10 0).run Aging.inTime).Uncontended 0 "a" :=
      ⟨by decide, fun _ _ => rfl⟩
    refine (absolute.lock Aging.inTime 0 "a" onward (by decide) free).1.mpr ⟨0, ?_, by decide⟩
    exact ⟨[], (), none, [.clock 10, .sweep], rfl, rfl, by simp⟩
  · have free : ((LockTable.empty 10 0).run Aging.tooLate).Uncontended 0 "a" :=
      ⟨by decide, fun _ _ => rfl⟩
    refine (absolute.lock Aging.tooLate 0 "a" onward' (by decide) free).2.mpr ?_
    rintro ⟨created, ⟨before, content, read, after, hsteps, rfl, -⟩, hage⟩
    cases before with
    | nil =>
        obtain ⟨-, -, rfl⟩ := LockStep.create.inj (List.cons.inj hsteps).1
        exact absurd hage (by decide)
    | cons first before =>
        have hmem : LockStep.create "a" content read ∈ Aging.tooLate.tail := by
          rw [hsteps]
          simp
        simp [Aging.tooLate, Aging.inTime] at hmem
  · exact (absolute.places Aging.tooLate Aging.unswept onward' unsweptOnward (by decide) rfl).2.2
  · have arrive : Arrival.Onward Aging.arrivals := by
      simp [Arrival.Onward, Aging.arrivals, Arrival.isPost, Arrival.time]
    exact absolute.answers Aging.helpers Aging.arrivals (Aging.arrivals.filter (·.isPost)) arrive
      (arrive.filter _) (by decide +kernel) (by decide +kernel) rfl

end DocumentCard.Rpc
