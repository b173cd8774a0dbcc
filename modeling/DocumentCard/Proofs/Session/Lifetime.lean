import DocumentCard.Proofs.Session.Locking
import Mathlib.Data.List.Induction
set_option autoImplicit false

/-!
# How long a session can be locked

A session can be locked from its creation until its time is over, unless it is removed before; how
often it is used, and when sessions are swept out, has no part in it.

A sweep goes by a time that was read before the table was free, and a lookup by the time of the clock.
As the clock is not set back (`Onward`), what a sweep takes out has outlived its time for every lookup
that comes after, so a table and the table that has not been swept cannot be told apart (`Like`).

Main statements: an id stands for a live session exactly when it was given to one not longer ago than
sessions live, and has not been removed since (`live?_run`); without its sweeps a run of steps leaves all
clients where they are with them (`Like.run`).
-/

namespace DocumentCard.Session

variable {α : Type}

namespace LockStep

/-- The id that the step gives to a new session, if it does. -/
def newId? : LockStep α → Option String
  | .create id _ _ => some id
  | _ => none

/-- Whether sessions are swept out. -/
def isSweep : LockStep α → Bool
  | .sweep _ => true
  | _ => false

/-- The client whose step it is, if it is a client's. -/
def client? : LockStep α → Option Client
  | .request client _ | .grant client | .confirm client | .put client _ | .release client => some client
  | _ => none

/-- A step that does not set the clock back, and does not sweep by a time that is still to come. -/
def Onward (now : Int) : LockStep α → Prop
  | .clock later => now ≤ later
  | .sweep read => read.getD now ≤ now
  | _ => True

end LockStep

namespace LockTable

/-! ## What a step does to the registry and the clock -/

theorem registry_attempt (t : LockTable α) (s : LockStep α) :
    (t.attempt s).registry =
      match s with
      | .create id _ read =>
          if unused : id ∉ t.registry.ids then
            t.registry.add ⟨id, read.getD t.now, t.contents.length⟩ unused
          else t.registry
      | .delete id => t.registry.delete id
      | .sweep read => t.registry.sweep (read.getD t.now)
      | _ => t.registry := by
  cases s with
  | create id content read =>
      simp only [attempt, step]
      split <;> rfl
  | delete id => rfl
  | sweep read => rfl
  | _ =>
      rcases t.attempt_cases _ with h | h
      · exact congrArg registry h
      · generalize LockTable.attempt t _ = after at h
        cases h <;> rfl

theorem now_attempt (t : LockTable α) (s : LockStep α) :
    (t.attempt s).now = match s with
      | .clock now => now
      | _ => t.now := by
  cases s with
  | clock now => rfl
  | _ =>
      rcases t.attempt_cases _ with h | h
      · exact congrArg now h
      · generalize LockTable.attempt t _ = after at h
        cases h <;> rfl

/-- An id that is in use after a step was so before, or has been given by the step. -/
theorem mem_ids_attempt {t : LockTable α} {s : LockStep α} {id : String}
    (h : id ∈ (t.attempt s).registry.ids) : id ∈ t.registry.ids ∨ s.newId? = some id := by
  rw [registry_attempt] at h
  cases s with
  | create given content read =>
      simp only at h
      split at h
      · rcases List.mem_cons.mp h with rfl | hold
        · exact Or.inr rfl
        · exact Or.inl hold
      · exact Or.inl h
  | delete gone => exact Or.inl (Registry.mem_ids_of_keep h)
  | sweep read => exact Or.inl (Registry.mem_ids_of_keep h)
  | _ => exact Or.inl h

/-- In the course of the steps the clock is not set back. -/
def Onward (t : LockTable α) : List (LockStep α) → Prop
  | [] => True
  | s :: rest => s.Onward t.now ∧ Onward (t.attempt s) rest

theorem onward_append {t : LockTable α} {first second : List (LockStep α)} :
    t.Onward (first ++ second) ↔ t.Onward first ∧ (t.run first).Onward second := by
  induction first generalizing t with
  | nil => simp [Onward, run]
  | cons s rest ih =>
      simp only [List.cons_append, Onward, ih, and_assoc]
      rfl

theorem now_le_of_onward {t : LockTable α} {s : LockStep α} (onward : s.Onward t.now) :
    t.now ≤ (t.attempt s).now := by
  rw [now_attempt]
  cases s with
  | clock later => exact onward
  | _ => exact Int.le_refl _

theorem now_le_run {t : LockTable α} {steps : List (LockStep α)} (onward : t.Onward steps) :
    t.now ≤ (t.run steps).now := by
  induction steps generalizing t with
  | nil => exact Int.le_refl _
  | cons s rest ih => exact Int.le_trans (now_le_of_onward onward.1) (ih onward.2)

/-! ## When an id stands for a live session -/

variable {lifetime : Nat} {start : Int} {steps : List (LockStep α)} {s : LockStep α} {id : String}

/-- In the course of the steps the id was given to a session, which counts as created at this time, and
has not been removed since. -/
def StandsSince (lifetime : Nat) (start : Int) (steps : List (LockStep α)) (id : String)
    (created : Int) : Prop :=
  ∃ before content read after, steps = before ++ .create id content read :: after ∧
    created = read.getD ((empty lifetime start : LockTable α).run before).now ∧ .delete id ∉ after

theorem StandsSince.mem {created : Int} (h : StandsSince lifetime start steps id created) :
    id ∈ steps.filterMap LockStep.newId? := by
  obtain ⟨before, content, read, after, rfl, -, -⟩ := h
  exact List.mem_filterMap.mpr ⟨_, List.mem_append_right _ List.mem_cons_self, rfl⟩

/-- An id stands after one more step if it stood before and is not removed, or is given now. -/
theorem standsSince_concat {created : Int} :
    StandsSince lifetime start (steps ++ [s]) id created ↔
      (StandsSince lifetime start steps id created ∧ s ≠ .delete id) ∨
        ∃ content read, s = .create id content read ∧
          created = read.getD ((empty lifetime start : LockTable α).run steps).now := by
  constructor
  · rintro ⟨before, content, read, after, heq, hcreated, hkept⟩
    rcases after.eq_nil_or_concat with rfl | ⟨after, last, rfl⟩
    · obtain ⟨rfl, hs⟩ := List.append_inj' heq rfl
      exact Or.inr ⟨content, read, (List.cons.inj hs).1, hcreated⟩
    · rw [List.concat_eq_append, ← List.cons_append, ← List.append_assoc] at heq
      obtain ⟨rfl, hs⟩ := List.append_inj' heq rfl
      obtain rfl : s = last := (List.cons.inj hs).1
      rw [List.concat_eq_append, List.mem_append, List.mem_singleton, not_or] at hkept
      exact Or.inl ⟨⟨before, content, read, after, rfl, hcreated, hkept.1⟩, Ne.symm hkept.2⟩
  · rintro (⟨⟨before, content, read, after, rfl, hcreated, hkept⟩, hs⟩ | ⟨content, read, rfl, hcreated⟩)
    · refine ⟨before, content, read, after ++ [s], by simp, hcreated, ?_⟩
      rw [List.mem_append, List.mem_singleton, not_or]
      exact ⟨hkept, Ne.symm hs⟩
    · exact ⟨steps, content, read, [], rfl, hcreated, by simp⟩

/-- Only ids that have been given are in use. -/
theorem mem_newIds_of_mem_ids (h : id ∈ ((empty lifetime start : LockTable α).run steps).registry.ids) :
    id ∈ steps.filterMap LockStep.newId? := by
  induction steps using List.reverseRecOn with
  | nil => cases h
  | append_singleton steps s ih =>
      rw [List.filterMap_append, List.mem_append]
      rw [run_append] at h
      rcases mem_ids_attempt h with hold | hnew
      · exact Or.inl (ih hold)
      · exact Or.inr (by simp [hnew])

/-- After a step an id stands for a live session if it stood for it before and is not removed, or if the
step gives it to one whose time is not over. -/
theorem live?_attempt {t : LockTable α} (onward : s.Onward t.now)
    (new : ∀ given, s.newId? = some given → given ∉ t.registry.ids) (id : String) {later : Int}
    (hlater : (t.attempt s).now ≤ later) (created : Int) :
    ((t.attempt s).registry.live? later id).map (·.created) = some created ↔
      ((t.registry.live? later id).map (·.created) = some created ∧ s ≠ .delete id) ∨
        (∃ content read, s = .create id content read ∧ created = read.getD t.now) ∧
          later - created ≤ t.registry.lifetime := by
  have hnow := now_le_of_onward onward
  rw [registry_attempt]
  cases s with
  | create given content read =>
      have unused : given ∉ t.registry.ids := new given rfl
      simp only [dif_pos unused, Registry.live?_add]
      by_cases hid : given = id
      · subst hid
        rw [Registry.live?_eq_none_of_not_mem unused]
        simp only [if_true, Option.filter_some, Bool.not_eq_true', Record.expired_eq_false_iff]
        constructor
        · intro h
          split at h
          · rename_i hage
            obtain rfl := Option.some.inj h
            exact .inr ⟨⟨content, read, rfl, rfl⟩, hage⟩
          · cases h
        · rintro (⟨h, -⟩ | ⟨⟨content', read', heq, rfl⟩, hage⟩)
          · cases h
          · obtain ⟨-, -, rfl⟩ := LockStep.create.inj heq
            rw [if_pos hage]
            rfl
      · simp [hid]
  | delete gone =>
      rw [Registry.live?_delete]
      by_cases hid : id = gone
      · simp [hid]
      · simp [hid, Ne.symm hid]
  | sweep read =>
      rw [Registry.live?_sweep_of_le _ (Int.le_trans onward (Int.le_trans hnow hlater))]
      simp
  | _ => simp

/-- At any time from the end of the steps on, an id stands for a live session exactly when it has been
given to one not longer ago than sessions live, and has not been removed since. -/
theorem live?_run (onward : (empty lifetime start : LockTable α).Onward steps)
    (distinct : (steps.filterMap LockStep.newId?).Nodup) (id : String) {later : Int}
    (hlater : ((empty lifetime start : LockTable α).run steps).now ≤ later) (created : Int) :
    (((empty lifetime start : LockTable α).run steps).registry.live? later id).map (·.created)
        = some created ↔
      StandsSince lifetime start steps id created ∧ later - created ≤ lifetime := by
  induction steps using List.reverseRecOn with
  | nil =>
      have hnever : ¬ StandsSince lifetime start ([] : List (LockStep α)) id created :=
        fun h => List.not_mem_nil h.mem
      simp [hnever, run, empty, Registry.empty, Registry.live?, Registry.find?]
  | append_singleton steps s ih =>
      rw [List.filterMap_append] at distinct
      rw [onward_append] at onward
      rw [run_append] at hlater ⊢
      have hnow := now_le_of_onward onward.2.1
      have new (given : String) (hgiven : s.newId? = some given) :
          given ∉ ((empty lifetime start : LockTable α).run steps).registry.ids := fun hmem =>
        List.disjoint_of_nodup_append distinct (mem_newIds_of_mem_ids hmem) (by simp [hgiven])
      have hlifetime : ((empty lifetime start : LockTable α).run steps).registry.lifetime = lifetime :=
        (later_run (empty lifetime start : LockTable α) steps).lifetime
      have hstep := live?_attempt onward.2.1 new id hlater created
      rw [ih onward.1 distinct.of_append_left (Int.le_trans hnow hlater), hlifetime] at hstep
      refine hstep.trans ?_
      rw [standsSince_concat]
      grind

/-- An id stands for a cell now exactly when it has been given to a session not longer ago than sessions
live, and has not been removed since. -/
theorem cell?_run (onward : (empty lifetime start : LockTable α).Onward steps)
    (distinct : (steps.filterMap LockStep.newId?).Nodup) (id : String) :
    let t := (empty lifetime start : LockTable α).run steps
    (∃ cell, t.cell? id = some cell) ↔
      ∃ created, StandsSince lifetime start steps id created ∧ t.now - created ≤ lifetime := by
  intro t
  have hlive := live?_run onward distinct id (Int.le_refl t.now)
  constructor
  · rintro ⟨cell, hcell⟩
    obtain ⟨record, hrecord, -⟩ := Option.map_eq_some_iff.mp hcell
    exact ⟨record.created, (hlive record.created).mp (by rw [hrecord]; rfl)⟩
  · rintro ⟨created, hstands⟩
    obtain ⟨record, hrecord, -⟩ := Option.map_eq_some_iff.mp ((hlive created).mpr hstands)
    exact ⟨record.content, Option.map_eq_some_iff.mpr ⟨record, hrecord, rfl⟩⟩

/-- An id that stands after further steps which do not give it has stood before them. -/
theorem StandsSince.of_append {more : List (LockStep α)} {created : Int}
    (h : StandsSince lifetime start (steps ++ more) id created)
    (ungiven : id ∉ more.filterMap LockStep.newId?) : StandsSince lifetime start steps id created := by
  induction more using List.reverseRecOn with
  | nil => simpa using h
  | append_singleton more s ih =>
      rw [List.filterMap_append, List.mem_append, not_or] at ungiven
      rw [← List.append_assoc, standsSince_concat] at h
      rcases h with ⟨hstood, -⟩ | ⟨content, read, rfl, -⟩
      · exact ih hstood ungiven.1
      · exact absurd (by simp [LockStep.newId?]) ungiven.2

/-- An id that has been given and stands for nothing will not stand for anything again. -/
theorem cell?_run_append {more : List (LockStep α)}
    (onward : (empty lifetime start : LockTable α).Onward (steps ++ more))
    (distinct : ((steps ++ more).filterMap LockStep.newId?).Nodup)
    (given : id ∈ steps.filterMap LockStep.newId?)
    (gone : ((empty lifetime start : LockTable α).run steps).cell? id = none) :
    ((empty lifetime start : LockTable α).run (steps ++ more)).cell? id = none := by
  rw [Option.eq_none_iff_forall_ne_some]
  intro cell hcell
  obtain ⟨created, hstands, hage⟩ := (cell?_run onward distinct id).mp ⟨cell, hcell⟩
  rw [List.filterMap_append] at distinct
  obtain ⟨hbefore, hafter⟩ := onward_append.mp onward
  have hnow := now_le_run hafter
  rw [← run_append] at hnow
  have hstood := hstands.of_append (List.disjoint_of_nodup_append distinct given)
  obtain ⟨was, hwas⟩ := (cell?_run hbefore distinct.of_append_left id).mpr
    ⟨created, hstood, by omega⟩
  rw [gone] at hwas
  cases hwas

/-! ## Locking without anyone in the way -/

/-- The client does not wait for a session and has none, and nobody has the session of the id. -/
def Uncontended (t : LockTable α) (client : Client) (id : String) : Prop :=
  (t.place client).aim? = none ∧ ∀ cell, t.cell? id = some cell → t.holder cell = none

/-- A client that neither waits nor has a cell looks up an id. -/
theorem attempt_request {t : LockTable α} {client : Client} (free : (t.place client).aim? = none)
    {place : Place}
    (next : (match t.cell? id with
      | some cell => Place.waiting id cell
      | none => .refused) = place) :
    t.attempt (.request client id) = t.move client place := by
  subst next
  cases hplace : t.place client <;> rw [hplace] at free <;> try cases free
  all_goals
    simp only [attempt, step, hplace]
    cases t.cell? id <;> rfl

/-- Whoever locks an id without anyone in the way is let in if the id stands for a live session, and is
refused if it does not. -/
theorem place_lock {t : LockTable α} {client : Client} (free : t.Uncontended client id) :
    (t.lock client id).place client =
      match t.cell? id with
      | some cell => .holding id cell
      | none => .refused := by
  cases hcell : t.cell? id with
  | none =>
      have requested : t.attempt (.request client id) = t.move client .refused :=
        attempt_request free.1 (by rw [hcell])
      simp only [lock, run, List.foldl_cons, List.foldl_nil, requested]
      simp [attempt, step]
  | some cell =>
      have requested : t.attempt (.request client id) = t.move client (.waiting id cell) :=
        attempt_request free.1 (by rw [hcell])
      have granted : (t.move client (.waiting id cell)).attempt (.grant client)
          = ((t.move client (.waiting id cell)).hand cell (some client)).move client
              (.checking id cell) := by
        simp [attempt, step, free.2 cell hcell]
      have stands : (((t.move client (.waiting id cell)).hand cell (some client)).move client
          (.checking id cell)).cell? id = some cell := hcell
      simp only [lock, run, List.foldl_cons, List.foldl_nil, requested, granted]
      simp [attempt, step, stands]

/-! ## Sweeps do not show -/

/-- The table differs from the other in nothing but records that the other still has though they have
outlived their time. -/
structure Like (t u : LockTable α) : Prop where
  now : t.now = u.now
  contents : t.contents = u.contents
  holder : t.holder = u.holder
  place : t.place = u.place
  registry : t.registry.Within t.now u.registry

theorem Like.refl (t : LockTable α) : t.Like t := ⟨rfl, rfl, rfl, rfl, .refl t.now t.registry⟩

namespace Like

variable {t u : LockTable α}

theorem cell?_eq (h : t.Like u) (id : String) : t.cell? id = u.cell? id := by
  unfold cell?
  rw [(h.registry.agree id).live t.now (Int.le_refl _), ← h.now]

theorem eq_withRegistry (h : t.Like u) : u = { t with registry := u.registry } := by
  obtain ⟨now, registry, contents, holder, place⟩ := u
  obtain ⟨rfl, rfl, rfl, rfl, -⟩ := h
  rfl

end Like

/-- What a client's step does depends on the registry by way of lookups alone. -/
theorem attempt_withRegistry {t : LockTable α} {s : LockStep α} {client : Client}
    (step : s.client? = some client) {registry : Registry CellId}
    (same : ∀ id, { t with registry }.cell? id = t.cell? id) :
    { t with registry }.attempt s = { t.attempt s with registry } := by
  cases s with
  | request client id =>
      simp only [attempt, LockTable.step, same]
      cases t.place client <;> cases t.cell? id <;> rfl
  | grant client =>
      simp only [attempt, LockTable.step]
      cases t.place client with
      | waiting id cell => simp only; cases t.holder cell <;> rfl
      | _ => rfl
  | confirm client =>
      simp only [attempt, LockTable.step, same]
      cases t.place client with
      | checking id cell => simp only; split <;> rfl
      | _ => rfl
  | put client content =>
      simp only [attempt, LockTable.step]
      cases t.place client <;> rfl
  | release client =>
      simp only [attempt, LockTable.step]
      cases t.place client <;> rfl
  | _ => cases step

namespace Like

variable {t u : LockTable α}

/-- A client takes its step in both tables alike. -/
theorem attempt_client (h : t.Like u) {s : LockStep α} {client : Client}
    (step : s.client? = some client) : (t.attempt s).Like (u.attempt s) := by
  have same (id : String) : { t with registry := u.registry }.cell? id = t.cell? id := by
    rw [← h.eq_withRegistry]
    exact (h.cell?_eq id).symm
  have hregistry : (t.attempt s).registry = t.registry := by
    rw [registry_attempt]
    cases s <;> first | rfl | cases step
  have hnow : (t.attempt s).now = t.now := by
    rw [now_attempt]
    cases s <;> first | rfl | cases step
  rw [h.eq_withRegistry, attempt_withRegistry step same]
  refine ⟨rfl, rfl, rfl, rfl, ?_⟩
  rw [hregistry, hnow]
  exact h.registry

/-- A session is added to both tables alike. -/
theorem create (h : t.Like u) {id : String} (unused : id ∉ u.registry.ids) (content : α)
    (read : Option Int) :
    (t.attempt (.create id content read)).Like (u.attempt (.create id content read)) := by
  have unused' : id ∉ t.registry.ids := fun hmem => unused (h.registry.ids id hmem)
  have ht : t.attempt (.create id content read) = { t with
      registry := t.registry.add ⟨id, read.getD t.now, t.contents.length⟩ unused'
      contents := t.contents ++ [content] } := by
    simp [LockTable.attempt, step, unused']
  have hu : u.attempt (.create id content read) = { u with
      registry := u.registry.add ⟨id, read.getD u.now, u.contents.length⟩ unused
      contents := u.contents ++ [content] } := by
    simp [LockTable.attempt, step, unused]
  rw [ht, hu]
  refine ⟨h.now, by rw [h.contents], h.holder, h.place, ?_⟩
  simp only [← h.now, ← h.contents]
  exact h.registry.add _ unused' unused

/-- A session is removed from both tables alike. -/
theorem delete (h : t.Like u) (id : String) :
    (t.attempt (.delete id)).Like (u.attempt (.delete id)) :=
  ⟨h.now, h.contents, h.holder, h.place, h.registry.delete id⟩

/-- The clock is set on in both tables alike. -/
theorem clock (h : t.Like u) {later : Int} (onward : t.now ≤ later) :
    (t.attempt (.clock later)).Like (u.attempt (.clock later)) :=
  ⟨rfl, h.contents, h.holder, h.place, h.registry.mono onward⟩

/-- Tables that are alike stay so when the same step is taken in both. -/
theorem attempt (h : t.Like u) {s : LockStep α} (other : s.isSweep = false)
    (onward : s.Onward t.now) (new : ∀ id, s.newId? = some id → id ∉ u.registry.ids) :
    (t.attempt s).Like (u.attempt s) := by
  cases s with
  | create id content read => exact h.create (new id rfl) content read
  | delete id => exact h.delete id
  | sweep read => cases other
  | clock later => exact h.clock onward
  | _ => exact h.attempt_client rfl

/-- A sweep of the one table makes no difference. -/
theorem sweep (h : t.Like u) {read : Option Int} (onward : read.getD t.now ≤ t.now) :
    (t.attempt (.sweep read)).Like u :=
  ⟨h.now, h.contents, h.holder, h.place, h.registry.sweep onward⟩

/-- A client locks a session in both tables alike. -/
theorem lock (h : t.Like u) (client : Client) (id : String) :
    (t.lock client id).Like (u.lock client id) :=
  ((h.attempt_client (s := .request client id) rfl).attempt_client (s := .grant client)
    rfl).attempt_client (s := .confirm client) rfl

/-- Tables that are alike stay so when all steps are taken in the one, and in the other all but the
sweeps. -/
theorem run (h : t.Like u) {steps : List (LockStep α)} (onward : t.Onward steps)
    (distinct : (steps.filterMap LockStep.newId?).Nodup)
    (new : ∀ id ∈ steps.filterMap LockStep.newId?, id ∉ u.registry.ids) :
    (t.run steps).Like (u.run (steps.filter (!·.isSweep))) := by
  induction steps generalizing t u with
  | nil => exact h
  | cons s rest ih =>
      obtain ⟨first, onward⟩ := onward
      have hids : (s :: rest).filterMap LockStep.newId?
          = s.newId?.toList ++ rest.filterMap LockStep.newId? := by
        cases hid : s.newId? <;> simp [hid]
      rw [hids] at distinct new
      have later := fun id hmem => new id (List.mem_append_right _ hmem)
      cases hs : s.isSweep with
      | true =>
          rw [List.filter_cons_of_neg (by simp [hs])]
          refine ih ?_ onward distinct.of_append_right later
          cases s with
          | sweep read => exact h.sweep first
          | _ => cases hs
      | false =>
          rw [List.filter_cons_of_pos (by simp [hs])]
          refine ih (h.attempt hs first ?_) onward distinct.of_append_right ?_
          · intro id hid
            exact new id (List.mem_append_left _ (by simp [hid]))
          · intro id hmem hused
            rcases mem_ids_attempt hused with hold | hid
            · exact later id hmem hold
            · exact List.disjoint_of_nodup_append distinct (by simp [hid]) hmem

/-- Two runs of steps that are the same but for sweeps lead to tables in which all clients are in the same
places, whoever locks a session is, and all cells hold the same. -/
theorem of_filter_eq {lifetime : Nat} {start : Int} {steps steps' : List (LockStep α)}
    (onward : (empty lifetime start : LockTable α).Onward steps)
    (onward' : (empty lifetime start : LockTable α).Onward steps')
    (distinct : (steps.filterMap LockStep.newId?).Nodup)
    (same : steps.filter (!·.isSweep) = steps'.filter (!·.isSweep)) :
    let t := (empty lifetime start : LockTable α).run steps
    let t' := (empty lifetime start : LockTable α).run steps'
    t.contents = t'.contents ∧ t.place = t'.place ∧
      ∀ client id, (t.lock client id).place = (t'.lock client id).place := by
  have hids (steps : List (LockStep α)) :
      (steps.filter (!·.isSweep)).filterMap LockStep.newId? = steps.filterMap LockStep.newId? := by
    rw [List.filterMap_filter]
    refine List.filterMap_congr fun s _ => ?_
    cases s <;> rfl
  have distinct' : (steps'.filterMap LockStep.newId?).Nodup := by
    rw [← hids, ← same, hids]
    exact distinct
  have hlike := (refl (empty lifetime start : LockTable α)).run onward distinct fun _ _ => nofun
  have hlike' := (refl (empty lifetime start : LockTable α)).run onward' distinct' fun _ _ => nofun
  rw [← same] at hlike'
  exact ⟨hlike.contents.trans hlike'.contents.symm, hlike.place.trans hlike'.place.symm,
    fun client id => (hlike.lock client id).place.trans (hlike'.lock client id).place.symm⟩

end Like

end LockTable

end DocumentCard.Session
