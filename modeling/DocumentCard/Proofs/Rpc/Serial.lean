import DocumentCard.Proofs.Rpc.Concurrent
import DocumentCard.Proofs.Session.Locking
set_option autoImplicit false

/-!
# Calls at the same time are as good as calls in turn

A world is compared with a service that makes the same calls whole and one after another, each in its
turn (`Agrees`).  While a caller works, the service is ahead: its registry holds already what the
session will be when the work is done, and its reply is the one that the work will give.  So the
session that the service has is not the content of a cell but what the cell will hold eventually
(`World.eventual`), and for a cell on which nobody works these are the same.

What makes it true is that a caller works on a cell only while it has the cell, that helpers answer
the same at any time (`Tools.finish_resume`), and that a session removed during the work leaves the
work its cell.

Main statement: every reply, and every session that nobody is working on, is as if the calls had been
made whole in the order of their turns; who is let in meets no session in the middle of another's work;
and who is refused has had no turn (`calls_are_serial`).
-/

namespace DocumentCard.Rpc

open Session (Client CellId LockTable Record Registry Place Work Fault)

variable {tools : Tools}

/-! ## The table under a world -/

namespace World

@[simp] theorem table_advance (w : World) (caller : Client) (p : Progress) :
    (w.advance caller p).table = w.table := rfl

@[simp] theorem progress_advance (w : World) (caller other : Client) (p : Progress) :
    (w.advance caller p).progress other = if other = caller then p else w.progress other := rfl

@[simp] theorem turns_advance (w : World) (caller : Client) (p : Progress) :
    (w.advance caller p).turns = w.turns := rfl

@[simp] theorem table_onTable (w : World) (s : Session.LockStep Session) :
    (w.onTable s).table = w.table.attempt s := rfl

@[simp] theorem progress_onTable (w : World) (s : Session.LockStep Session) :
    (w.onTable s).progress = w.progress := rfl

@[simp] theorem turns_onTable (w : World) (s : Session.LockStep Session) :
    (w.onTable s).turns = w.turns := rfl

@[simp] theorem table_turn (w : World) (t : Turn) : (w.turn t).table = w.table := rfl

@[simp] theorem progress_turn (w : World) (t : Turn) : (w.turn t).progress = w.progress := rfl

@[simp] theorem turns_turn (w : World) (t : Turn) : (w.turn t).turns = w.turns ++ [t] := rfl

/-- What a cell will hold when the work on it, if there is any, is done. -/
def eventual (tools : Tools) (w : World) (cell : CellId) : Option Session :=
  match (w.table.holder cell).map w.progress with
  | some (.working _ _ work) => some (tools.finish work).1
  | _ => w.table.contents[cell]?

/-- Without work on it a cell will hold what it holds. -/
theorem eventual_of_quiet {w : World} {cell : CellId}
    (quiet : ∀ caller, w.table.holder cell = some caller →
      ∀ id u work, w.progress caller ≠ .working id u work) :
    w.eventual tools cell = w.table.contents[cell]? := by
  unfold eventual
  cases hholder : w.table.holder cell with
  | none => rfl
  | some caller =>
      simp only [Option.map_some]
      split
      · rename_i id u work hprogress
        exact absurd (Option.some.inj hprogress) (quiet caller hholder id u work)
      · rfl

theorem eventual_of_working {w : World} {cell : CellId} {caller : Client} {id : String} {u : Use}
    {work : Work Session (Except Fault Yield)} (holds : w.table.holder cell = some caller)
    (works : w.progress caller = .working id u work) :
    w.eventual tools cell = some (tools.finish work).1 := by
  simp [eventual, holds, works]

/-- Two worlds in which a cell has the same holder, who is as far, and holds the same agree on what it
will hold. -/
theorem eventual_congr {w after : World} {cell : CellId}
    (holder : after.table.holder cell = w.table.holder cell)
    (progress : ∀ other, w.table.holder cell = some other → after.progress other = w.progress other)
    (contents : after.table.contents[cell]? = w.table.contents[cell]?) :
    after.eventual tools cell = w.eventual tools cell := by
  unfold eventual
  rw [holder, contents]
  cases hholder : w.table.holder cell with
  | none => rfl
  | some other => simp only [Option.map_some, progress other hholder]

end World

/-! ## Agreement -/

/-- Where a caller stands in the table, and what the service has answered it, as far as it is. -/
def Stands (tools : Tools) (t : LockTable Session) (answer : Option (Call × Reply))
    (caller : Client) : Progress → Prop
  | .due => t.place caller = .idle ∧ answer = none
  | .locking id u => u.fault? = none ∧ (∃ cell, t.Queued caller id cell) ∧ answer = none
  | .working id u work =>
      (∃ cell, t.place caller = .holding id cell ∧ t.contents[cell]? = some (held work)) ∧
        answer = some (.use id u, .ofResult u.kind (tools.finish work).2)
  | .answered c reply =>
      (t.place caller = .idle ∧ answer = some (c, reply)) ∨
        (t.place caller = .refused ∧ answer = none ∧
          ∃ id u, c = .use id u ∧ reply = .ofResult u.kind (.error .unknownId))

/-- The world agrees with a service that takes its turns. -/
structure Agrees (tools : Tools) (w : World) (s : Serial) : Prop where
  sound : w.table.Sound
  stands : ∀ caller, Stands tools w.table (s.answer? caller) caller (w.progress caller)
  /-- the service has the sessions as they will be -/
  sessions : s.service.registry.map some = w.table.registry.map (w.eventual tools)

namespace Agrees

variable {w : World} {s : Serial}

theorem ids_eq (h : Agrees tools w s) : s.service.registry.ids = w.table.registry.ids := by
  have hids := congrArg Registry.ids h.sessions
  simpa using hids

theorem lifetime_eq (h : Agrees tools w s) :
    s.service.registry.lifetime = w.table.registry.lifetime :=
  congrArg Registry.lifetime h.sessions

/-- The record of an id in the table, with what its cell will hold, is the service's record. -/
theorem find?_eq (h : Agrees tools w s) (id : String) :
    (s.service.registry.find? id).map (Record.map some)
      = (w.table.registry.find? id).map (Record.map (w.eventual tools)) := by
  rw [← Registry.find?_map, h.sessions, Registry.find?_map]

/-- An entry in the list of turns is none of the service's business. -/
theorem turn (h : Agrees tools w s) (t : Turn) : Agrees tools (w.turn t) s :=
  ⟨h.sound, h.stands, h.sessions⟩

end Agrees

/-- Nobody who works, waits or is answered is disturbed when others move: its place and the content of
its cell are all that counts. -/
theorem Stands.frame {t after : LockTable Session} {answer : Option (Call × Reply)}
    {caller : Client} {p : Progress} (h : Stands tools t answer caller p)
    (place : after.place caller = t.place caller)
    (contents : ∀ cell, (t.place caller).had? = some cell →
      after.contents[cell]? = t.contents[cell]?) :
    Stands tools after answer caller p := by
  cases p with
  | due => exact ⟨place.trans h.1, h.2⟩
  | locking id u =>
      obtain ⟨hfault, ⟨cell, hqueued⟩, hanswer⟩ := h
      refine ⟨hfault, ⟨cell, ?_⟩, hanswer⟩
      rwa [LockTable.Queued, place]
  | working id u work =>
      obtain ⟨⟨cell, hplace, hcontent⟩, hanswer⟩ := h
      refine ⟨⟨cell, place.trans hplace, ?_⟩, hanswer⟩
      rw [contents cell (by rw [hplace]; rfl), hcontent]
  | answered c reply =>
      rcases h with ⟨hplace, hanswer⟩ | ⟨hplace, hrest⟩
      · exact Or.inl ⟨place.trans hplace, hanswer⟩
      · exact Or.inr ⟨place.trans hplace, hrest⟩

/-! ## Sessions started and dropped, and calls refused for what they ask -/

namespace Agrees

variable {w : World} {s : Serial} {caller : Client}

/-- A caller that has not called stands nowhere and has no answer. -/
theorem of_due (h : Agrees tools w s) (due : w.progress caller = .due) :
    w.table.place caller = .idle ∧ s.answer? caller = none := by
  have hstands := h.stands caller
  rwa [due] at hstands

/-- A cell that somebody else has is not had by a caller that has not called. -/
theorem ne_of_due (h : Agrees tools w s) (due : w.progress caller = .due) {cell : CellId}
    {other : Client} (holds : w.table.holder cell = some other) : other ≠ caller := by
  rintro rfl
  have hhad := (h.sound.tied other cell).mp holds
  rw [(h.of_due due).1] at hhad
  cases hhad

/-- A caller that is answered at once, with nothing done. -/
theorem advance_answered (h : Agrees tools w s) (due : w.progress caller = .due) (c : Call)
    (reply : Reply) :
    Agrees tools (w.advance caller (.answered c reply)) (s.answer caller c reply) where
  sound := h.sound
  stands other := by
    by_cases hother : other = caller
    · subst hother
      rw [World.progress_advance, if_pos rfl]
      exact Or.inl ⟨(h.of_due due).1, if_pos rfl⟩
    · simpa [Serial.answer, hother] using h.stands other
  sessions := by
    show s.service.registry.map some = _
    rw [h.sessions]
    apply Registry.map_congr
    intro record _
    refine Eq.symm (World.eventual_congr rfl ?_ rfl)
    intro other holds
    simp [h.ne_of_due due holds]

/-- A caller's cell has been made. -/
theorem lt_of_had? (h : Agrees tools w s) {cell : CellId}
    (had : (w.table.place caller).had? = some cell) : cell < w.table.contents.length := by
  have haim : ∃ id, (w.table.place caller).aim? = some (id, cell) := by
    cases hplace : w.table.place caller <;> simp_all [Place.had?, Place.aim?]
  obtain ⟨id, haim⟩ := haim
  exact h.sound.aimed caller id cell haim

/-- A session is started on both sides under the same id. -/
theorem create (h : Agrees tools w s) (m : Moment) (session : Session) :
    Agrees tools
      (w.onTable (.create (m.ids.fresh w.table.registry.ids) session (some m.now)))
      { s with service := { s.service with
          registry := (s.service.registry.create m.now m.ids session).2 } } := by
  have unused := m.ids.fresh_not_mem w.table.registry.ids
  have created : w.table.attempt (.create (m.ids.fresh w.table.registry.ids) session (some m.now))
      = { w.table with
          registry := w.table.registry.add
            ⟨m.ids.fresh w.table.registry.ids, m.now, w.table.contents.length⟩ unused
          contents := w.table.contents ++ [session] } := by
    simp [LockTable.attempt, LockTable.step, unused]
  refine ⟨h.sound.attempt _, ?_, ?_⟩
  · intro other
    apply (h.stands other).frame
    · rw [World.table_onTable, created]
    · intro cell had
      rw [World.table_onTable, created]
      exact List.getElem?_append_left (h.lt_of_had? had)
  · have old : ∀ record ∈ w.table.registry.records,
        w.eventual tools record.content
          = (w.onTable (.create (m.ids.fresh w.table.registry.ids) session
              (some m.now))).eventual tools record.content := by
      intro record hmem
      refine Eq.symm (World.eventual_congr ?_ (fun _ _ => rfl) ?_)
      · rw [World.table_onTable, created]
      · rw [World.table_onTable, created]
        exact List.getElem?_append_left (h.sound.recorded record hmem)
    have new : (w.onTable (.create (m.ids.fresh w.table.registry.ids) session
        (some m.now))).eventual tools w.table.contents.length = some session := by
      rw [World.eventual_of_quiet]
      · rw [World.table_onTable, created]
        simp
      · intro caller holds
        rw [World.table_onTable, created] at holds
        exact absurd (h.lt_of_had? ((h.sound.tied caller _).mp holds)) (Nat.lt_irrefl _)
    rw [World.table_onTable, created]
    refine Registry.ext_of_records h.lifetime_eq (List.cons_eq_cons.mpr ⟨?_, ?_⟩)
    · simp [Record.map, new, h.ids_eq]
    · have hrecords := congrArg Registry.records (h.sessions.trans (Registry.map_congr old))
      exact hrecords

/-- A session is removed on both sides; whoever works on it keeps its cell. -/
theorem delete (h : Agrees tools w s) (id : String) :
    Agrees tools (w.onTable (.delete id))
      { s with service := { s.service with registry := s.service.registry.delete id } } where
  sound := h.sound.attempt (.delete id)
  stands other := (h.stands other).frame rfl fun _ _ => rfl
  sessions := by
    show (s.service.registry.delete id).map some = (w.table.registry.delete id).map (w.eventual tools)
    rw [Registry.map_delete, Registry.map_delete, h.sessions]

/-- Sessions are swept out on both sides. -/
theorem sweep (h : Agrees tools w s) (read : Option Int) :
    Agrees tools (w.onTable (.sweep read))
      { s with service := s.service.sweep (read.getD w.table.now) } where
  sound := h.sound.attempt (.sweep read)
  stands other := (h.stands other).frame rfl fun _ _ => rfl
  sessions := by
    show (s.service.registry.sweep _).map some = (w.table.registry.sweep _).map (w.eventual tools)
    rw [Registry.map_sweep, Registry.map_sweep, h.sessions]

/-- The service does not see the clock. -/
theorem clock (h : Agrees tools w s) (now : Int) : Agrees tools (w.onTable (.clock now)) s :=
  ⟨h.sound.attempt (.clock now), fun other => (h.stands other).frame rfl fun _ _ => rfl,
    h.sessions⟩

end Agrees

/-! ## Locking -/

namespace Agrees

variable {w after : World} {s : Serial} {caller : Client}

/-- One caller has moved on, to where its answer fits, and for the cells of sessions nothing has
changed by it. -/
theorem moved (h : Agrees tools w s) (caller : Client) (sound : after.table.Sound)
    (registry : after.table.registry = w.table.registry)
    (places : ∀ other, other ≠ caller → after.table.place other = w.table.place other)
    (progress : ∀ other, other ≠ caller → after.progress other = w.progress other)
    (contents : ∀ other, other ≠ caller → ∀ cell, (w.table.place other).had? = some cell →
      after.table.contents[cell]? = w.table.contents[cell]?)
    (self : Stands tools after.table (s.answer? caller) caller (after.progress caller))
    (eventual : ∀ cell, after.eventual tools cell = w.eventual tools cell) :
    Agrees tools after s where
  sound := sound
  stands other := by
    by_cases hother : other = caller
    · exact hother ▸ self
    · rw [progress other hother]
      exact (h.stands other).frame (places other hother) (contents other hother)
  sessions := by
    rw [registry, h.sessions]
    exact Registry.map_congr fun record _ => (eventual record.content).symm

/-- A caller that is not at work, neither before nor after, changes nothing about what any cell will
hold, wherever it moves. -/
theorem eventual_of_aside (caller : Client) (before : w.table.Sound) (sound : after.table.Sound)
    (contents : after.table.contents = w.table.contents)
    (places : ∀ other, other ≠ caller → after.table.place other = w.table.place other)
    (progress : ∀ other, other ≠ caller → after.progress other = w.progress other)
    (rests : ∀ id u work, w.progress caller ≠ .working id u work)
    (rests' : ∀ id u work, after.progress caller ≠ .working id u work) (cell : CellId) :
    after.eventual tools cell = w.eventual tools cell := by
  have same (other : Client) (hother : other ≠ caller) :
      after.table.holder cell = some other ↔ w.table.holder cell = some other := by
    rw [sound.tied, before.tied, places other hother]
  by_cases taken : ∃ other, other ≠ caller ∧ w.table.holder cell = some other
  · obtain ⟨other, hother, holds⟩ := taken
    apply World.eventual_congr
    · rw [holds]
      exact (same other hother).mpr holds
    · intro third holds'
      obtain rfl : other = third := Option.some.inj (holds.symm.trans holds')
      exact progress other hother
    · rw [contents]
  · have alone (other : Client) (holds : w.table.holder cell = some other) : other = caller :=
      of_not_not fun hother => taken ⟨other, hother, holds⟩
    have alone' (other : Client) (holds : after.table.holder cell = some other) :
        other = caller :=
      of_not_not fun hother => taken ⟨other, hother, (same other hother).mp holds⟩
    rw [World.eventual_of_quiet, World.eventual_of_quiet, contents]
    · intro other holds
      rw [alone other holds]
      exact rests
    · intro other holds
      rw [alone' other holds]
      exact rests'

/-- One caller has moved on in the table, to where its answer fits, and is not at work before or
after. -/
theorem moved_aside (h : Agrees tools w s) (caller : Client) (sound : after.table.Sound)
    (registry : after.table.registry = w.table.registry)
    (contents : after.table.contents = w.table.contents)
    (places : ∀ other, other ≠ caller → after.table.place other = w.table.place other)
    (progress : ∀ other, other ≠ caller → after.progress other = w.progress other)
    (self : Stands tools after.table (s.answer? caller) caller (after.progress caller))
    (rests : ∀ id u work, w.progress caller ≠ .working id u work)
    (rests' : ∀ id u work, after.progress caller ≠ .working id u work) :
    Agrees tools after s := by
  refine h.moved caller sound registry places progress ?_ self ?_
  · intro other _ cell _
    rw [contents]
  · exact eventual_of_aside caller h.sound sound contents places progress rests rests'

/-- A caller that waits or looks up again is locking, and has no answer. -/
theorem locking_of_queued (h : Agrees tools w s) {id : String} {cell : CellId}
    (queued : w.table.Queued caller id cell) :
    ∃ u, w.progress caller = .locking id u ∧ u.fault? = none ∧ s.answer? caller = none := by
  have hidle : w.table.place caller ≠ .idle := by
    rcases queued with e | e <;> rw [e] <;> exact Place.noConfusion
  have hrefused : w.table.place caller ≠ .refused := by
    rcases queued with e | e <;> rw [e] <;> exact Place.noConfusion
  have hholding (id' : String) (cell' : CellId) : w.table.place caller ≠ .holding id' cell' := by
    rcases queued with e | e <;> rw [e] <;> exact Place.noConfusion
  have haim : (w.table.place caller).aim? = some (id, cell) := by
    rcases queued with e | e <;> rw [e] <;> rfl
  have hstands := h.stands caller
  cases hprogress : w.progress caller with
  | locking id' u =>
      rw [hprogress] at hstands
      obtain ⟨may, ⟨cell', hqueued⟩, hanswer⟩ := hstands
      have haim' : (w.table.place caller).aim? = some (id', cell') := by
        rcases hqueued with e | e <;> rw [e] <;> rfl
      obtain ⟨rfl, -⟩ := Prod.mk.inj (Option.some.inj (haim.symm.trans haim'))
      exact ⟨u, rfl, may, hanswer⟩
  | due =>
      rw [hprogress] at hstands
      exact absurd hstands.1 hidle
  | working id' u work =>
      rw [hprogress] at hstands
      obtain ⟨⟨cell', hplace, -⟩, -⟩ := hstands
      exact absurd hplace (hholding id' cell')
  | answered c reply =>
      rw [hprogress] at hstands
      rcases hstands with ⟨hplace, -⟩ | ⟨hplace, -⟩
      · exact absurd hplace hidle
      · exact absurd hplace hrefused

/-- The first lookup, of an id that stands for a cell. -/
theorem request (h : Agrees tools w s) (due : w.progress caller = .due) {id : String} {u : Use}
    (may : u.fault? = none) {cell : CellId} (stands : w.table.cell? id = some cell) :
    Agrees tools ((w.onTable (.request caller id)).advance caller (.locking id u)) s := by
  obtain ⟨hplace, hanswer⟩ := h.of_due due
  have moved_to : w.table.attempt (.request caller id)
      = w.table.move caller (.waiting id cell) := by
    simp [LockTable.attempt, LockTable.step, hplace, stands]
  apply h.moved_aside caller
  · exact h.sound.attempt (.request caller id)
  · simp [moved_to]
  · simp [moved_to]
  · intro other hother
    simp [moved_to, hother]
  · intro other hother
    simp [hother]
  · rw [World.progress_advance, if_pos rfl]
    exact ⟨may, ⟨cell, Or.inl (by simp [moved_to])⟩, hanswer⟩
  · simp [due]
  · simp

/-- The first lookup, of an id that stands for no cell. -/
theorem request_refused (h : Agrees tools w s) (due : w.progress caller = .due) {id : String}
    {u : Use} (absent : w.table.cell? id = none) :
    Agrees tools ((w.onTable (.request caller id)).refuse caller id u) s := by
  obtain ⟨hplace, hanswer⟩ := h.of_due due
  have moved_to : w.table.attempt (.request caller id) = w.table.move caller .refused := by
    simp [LockTable.attempt, LockTable.step, hplace, absent]
  apply h.moved_aside caller
  · exact h.sound.attempt (.request caller id)
  · simp [World.refuse, moved_to]
  · simp [World.refuse, moved_to]
  · intro other hother
    simp [World.refuse, moved_to, hother]
  · intro other hother
    simp [World.refuse, hother]
  · rw [World.refuse, World.progress_advance, if_pos rfl]
    exact Or.inr ⟨by simp [moved_to], hanswer, id, u, rfl, rfl⟩
  · simp [due]
  · simp [World.refuse]

/-- A caller gets the cell that it waits for. -/
theorem grant (h : Agrees tools w s) (caller : Client) :
    Agrees tools (w.onTable (.grant caller)) s := by
  rcases LockTable.attempt_cases w.table (.grant caller) with same | took
  · rw [World.onTable, same]
    exact h
  have sound := h.sound.attempt (.grant caller)
  generalize hafter : w.table.attempt (.grant caller) = after at took sound
  rw [World.onTable, hafter]
  cases took with
  | @granted _ id cell waits free =>
      obtain ⟨u, hprogress, may, hanswer⟩ := h.locking_of_queued (Or.inl waits)
      refine h.moved_aside caller sound rfl rfl ?_ (fun _ _ => rfl) ?_ ?_ ?_
      · intro other hother
        simp [hother]
      · show Stands tools _ (s.answer? caller) caller (w.progress caller)
        rw [hprogress]
        exact ⟨may, ⟨cell, Or.inr (by simp)⟩, hanswer⟩
      · simp [hprogress]
      · simp [hprogress]

/-- The second lookup, of an id that does not stand for the cell any more. -/
theorem confirm_refused (h : Agrees tools w s) {id : String} {u : Use} {cell : CellId}
    (locks : w.progress caller = .locking id u) (checks : w.table.place caller = .checking id cell)
    (lost : w.table.cell? id ≠ some cell) :
    Agrees tools ((w.onTable (.confirm caller)).refuse caller id u) s := by
  have moved_to : w.table.attempt (.confirm caller)
      = (w.table.hand cell none).move caller .refused := by
    simp [LockTable.attempt, LockTable.step, checks, lost]
  obtain ⟨-, -, -, hanswer⟩ := h.locking_of_queued (Or.inr checks)
  apply h.moved_aside caller
  · exact h.sound.attempt (.confirm caller)
  · simp [World.refuse, moved_to]
  · simp [World.refuse, moved_to]
  · intro other hother
    simp [World.refuse, moved_to, hother]
  · intro other hother
    simp [World.refuse, hother]
  · rw [World.refuse, World.progress_advance, if_pos rfl]
    exact Or.inr ⟨by simp [moved_to], hanswer, id, u, rfl, rfl⟩
  · simp [locks]
  · simp [World.refuse]

end Agrees

/-! ## Working -/

namespace World

variable {w : World} {caller : Client} {id : String} {cell : CellId} {u : Use}
  {work : Work Session (Except Fault Yield)}

/-- Work that comes to a wait leaves what the session holds in the cell. -/
theorem settle_of_wait (holds : w.table.place caller = .holding id cell)
    (waits : given? work = none) :
    w.settle caller id u work =
      World.advance { w with table.contents := w.table.contents.set cell (held work) } caller
        (.working id u work) := by
  simp [settle, waits, onTable, LockTable.attempt, LockTable.step, holds]

/-- Work that comes to its end leaves the session in the cell, and the caller lets go of it. -/
theorem settle_of_end (holds : w.table.place caller = .holding id cell)
    {result : Except Fault Yield} (gives : given? work = some result) :
    w.settle caller id u work =
      World.advance
        { w with
          table := ({ w.table with
            contents := w.table.contents.set cell (held work) }.hand cell none).move caller .idle }
        caller (.answered (.use id u) (.ofResult u.kind result)) := by
  simp [settle, gives, onTable, LockTable.attempt, LockTable.step, holds]

/-- Work takes no turn. -/
theorem turns_settle : (w.settle caller id u work).turns = w.turns := by
  simp only [settle]
  split <;> rfl

/-- A caller whose cell the id does not stand for any more is refused. -/
theorem letIn_of_lost (checks : w.table.place caller = .checking id cell)
    (lost : w.table.cell? id ≠ some cell) :
    w.letIn caller id u = (w.onTable (.confirm caller)).refuse caller id u := by
  have hnone : (w.onTable (.confirm caller)).table.content? caller = none := by
    simp [LockTable.attempt, LockTable.step, checks, lost, LockTable.content?, LockTable.held?]
  simp only [letIn, hnone]

/-- Done work ends with what it holds and gives. -/
theorem finish_of_given {result : Except Fault Yield} (gives : given? work = some result) :
    tools.finish work = (held work, result) := by
  cases work with
  | done state result' =>
      obtain rfl : result' = result := Option.some.inj gives
      rfl
  | _ => cases gives

/-- What a world is like after a caller's work has come to a wait or to its end. -/
structure Settled (tools : Tools) (w after : World) (caller : Client) (id : String) (cell : CellId)
    (u : Use) (work : Work Session (Except Fault Yield)) : Prop where
  sound : after.table.Sound
  registry : after.table.registry = w.table.registry
  contents : after.table.contents = w.table.contents.set cell (held work)
  places : ∀ other, other ≠ caller → after.table.place other = w.table.place other
  progress : ∀ other, other ≠ caller → after.progress other = w.progress other
  /-- the caller stands where the reply of the whole work fits -/
  self : Stands tools after.table (some (.use id u, .ofResult u.kind (tools.finish work).2)) caller
    (after.progress caller)
  /-- the cell will hold what the whole work leaves behind -/
  left : after.eventual tools cell = some (tools.finish work).1
  apart : ∀ k, k ≠ cell → after.eventual tools k = w.eventual tools k

theorem settled (sound : w.table.Sound) (holds : w.table.place caller = .holding id cell)
    (made : cell < w.table.contents.length) :
    Settled tools w (w.settle caller id u work) caller id cell u work := by
  have hholder : w.table.holder cell = some caller :=
    (sound.tied caller cell).mpr (by rw [holds]; rfl)
  have hother (k : CellId) (hk : k ≠ cell) (other : Client) (h : w.table.holder k = some other) :
      other ≠ caller := by
    rintro rfl
    have hhad := (sound.tied other k).mp h
    rw [holds] at hhad
    exact hk (Option.some.inj hhad).symm
  have hsound : (w.settle caller id u work).table.Sound := by
    unfold settle
    split
    · exact (sound.attempt _).attempt _
    · exact sound.attempt _
  cases hgives : given? work with
  | none =>
      rw [settle_of_wait holds hgives] at hsound ⊢
      refine ⟨hsound, rfl, rfl, fun _ _ => rfl, ?_, ?_, ?_, ?_⟩
      · intro other hother
        simp [hother]
      · rw [progress_advance, if_pos rfl]
        exact ⟨⟨cell, holds, List.getElem?_set_self made⟩, rfl⟩
      · exact eventual_of_working hholder (if_pos rfl)
      · intro k hk
        refine eventual_congr rfl ?_ (List.getElem?_set_ne (Ne.symm hk))
        intro other h
        simp [hother k hk other h]
  | some result =>
      have hfinish : tools.finish work = (held work, result) := finish_of_given hgives
      rw [settle_of_end holds hgives] at hsound ⊢
      refine ⟨hsound, rfl, rfl, ?_, ?_, ?_, ?_, ?_⟩
      · intro other hother
        simp [hother]
      · intro other hother
        simp [hother]
      · rw [progress_advance, if_pos rfl, hfinish]
        exact Or.inl ⟨by simp, rfl⟩
      · rw [eventual_of_quiet, hfinish]
        · exact List.getElem?_set_self made
        · simp
      · intro k hk
        refine eventual_congr (by simp [hk]) ?_ (List.getElem?_set_ne (Ne.symm hk))
        intro other h
        simp [hother k hk other h]

end World

namespace Agrees

variable {w : World} {s : Serial} {caller : Client}

/-- What others have is not touched when a caller's work settles. -/
theorem contents_of_settled {after : World} {id : String} {cell : CellId} {u : Use}
    {work : Work Session (Except Fault Yield)} (h : w.table.Sound)
    (holds : w.table.place caller = .holding id cell)
    (done : World.Settled tools w after caller id cell u work) {other : Client}
    (hother : other ≠ caller) {k : CellId} (had : (w.table.place other).had? = some k) :
    after.table.contents[k]? = w.table.contents[k]? := by
  have hk : cell ≠ k := by
    rintro rfl
    exact hother (h.eq_of_had? had (by rw [holds]; rfl))
  rw [done.contents, List.getElem?_set_ne hk]

/-- A caller gets what it waits for, and works on. -/
theorem resume (h : Agrees tools w s) {id : String} {u : Use}
    {work : Work Session (Except Fault Yield)} (works : w.progress caller = .working id u work) :
    Agrees tools (w.settle caller id u (tools.resume work)) s := by
  have hstands := h.stands caller
  rw [works] at hstands
  obtain ⟨⟨cell, holds, -⟩, hanswer⟩ := hstands
  have had : (w.table.place caller).had? = some cell := by
    rw [holds]
    rfl
  have done : World.Settled tools w (w.settle caller id u (tools.resume work)) caller id cell u
      (tools.resume work) := World.settled h.sound holds (h.lt_of_had? had)
  refine h.moved caller done.sound done.registry done.places done.progress
    (fun other hother k => contents_of_settled h.sound holds done hother) ?_ ?_
  · rw [hanswer, ← Tools.finish_resume]
    exact done.self
  · intro k
    by_cases hk : k = cell
    · subst hk
      rw [done.left, Tools.finish_resume,
        World.eventual_of_working ((h.sound.tied caller k).mpr had) works]
    · exact done.apart k hk

/-- Whoever is about to be let in finds in the cell the session that the service has. -/
theorem live?_of_checking (h : Agrees tools w s) {id : String} {cell : CellId}
    (checks : w.table.place caller = .checking id cell) (stands : w.table.cell? id = some cell) :
    ∃ record, s.service.registry.live? w.table.now id = some record ∧
      w.table.contents[cell]? = some record.content := by
  obtain ⟨u, locks, -, -⟩ := h.locking_of_queued (Or.inr checks)
  have hquiet : w.eventual tools cell = w.table.contents[cell]? := by
    apply World.eventual_of_quiet
    intro other holds
    obtain rfl : caller = other := by
      have hhad : w.table.holder cell = some caller :=
        (h.sound.tied caller cell).mpr (by rw [checks]; rfl)
      exact Option.some.inj (hhad.symm.trans holds)
    simp [locks]
  obtain ⟨record, hfind, rfl, hlive⟩ := LockTable.cell?_eq_some_iff.mp stands
  have hfound := h.find?_eq id
  rw [hfind, Option.map_some, Option.map_eq_some_iff] at hfound
  obtain ⟨served, hserved, hsame⟩ := hfound
  refine ⟨served, Registry.live?_eq_some_iff.mpr ⟨hserved, ?_⟩, ?_⟩
  · rw [h.lifetime_eq, ← Record.expired_map some, hsame, Record.expired_map]
    exact hlive
  · rw [← hquiet]
    exact (congrArg Record.content hsame).symm

/-- A use of a session that the service has, with all its work. -/
theorem take_use (tools : Tools) (s : Serial) (caller : Client) {now : Int} {id : String} {u : Use} (may : u.fault? = none)
    {record : Record Session} (live : s.service.registry.live? now id = some record) :
    let done := s.take tools (.call caller (.at now) (.use id u))
    done.service.registry
        = s.service.registry.put id (tools.finish (u.work record.content)).1 ∧
      ∀ k, done.answer? k = if k = caller then
          some (.use id u, .ofResult u.kind (tools.finish (u.work record.content)).2)
        else s.answer? k := by
  obtain ⟨hstate, hresult⟩ := tools.run_helpers (u.work record.content) s.service.scans
  simp only [Serial.take, Service.call, Service.use, Moment.at, may, live, Call.kind]
  rw [hstate, hresult]
  exact ⟨rfl, fun _ => rfl⟩

/-- A caller is let in: its turn has come, and the service does all its work at once. -/
theorem letIn (h : Agrees tools w s) {id : String} {u : Use} {cell : CellId}
    (locks : w.progress caller = .locking id u) (checks : w.table.place caller = .checking id cell)
    (stands : w.table.cell? id = some cell) :
    let t := Turn.call caller (.at w.table.now) (.use id u)
    (w.letIn caller id u).turns = w.turns ++ [t] ∧
      Agrees tools (w.letIn caller id u) (s.take tools t) := by
  obtain ⟨served, hlive, hcontent⟩ := h.live?_of_checking checks stands
  obtain ⟨u', locks', may, -⟩ := h.locking_of_queued (Or.inr checks)
  obtain ⟨-, rfl⟩ := Progress.locking.inj (locks.symm.trans locks')
  have had : (w.table.place caller).had? = some cell := by
    rw [checks]
    rfl
  have hholder : w.table.holder cell = some caller := (h.sound.tied caller cell).mpr had
  have let_in : (w.onTable (.confirm caller)).table = w.table.move caller (.holding id cell) := by
    simp [LockTable.attempt, LockTable.step, checks, stands]
  have holds : (w.onTable (.confirm caller)).table.place caller = .holding id cell := by
    rw [let_in]
    simp
  have done : World.Settled tools (w.onTable (.confirm caller))
      ((w.onTable (.confirm caller)).settle caller id u (u.work served.content)) caller id cell u
      (u.work served.content) := by
    refine World.settled (h.sound.attempt (.confirm caller)) holds ?_
    rw [let_in]
    exact h.lt_of_had? had
  have hletIn : w.letIn caller id u
      = ((w.onTable (.confirm caller)).settle caller id u (u.work served.content)).turn
          (.call caller (.at w.table.now) (.use id u)) := by
    have hseen : (w.onTable (.confirm caller)).table.content? caller = some served.content := by
      rw [let_in]
      simp [LockTable.content?, LockTable.held?, hcontent]
    simp only [World.letIn, hseen]
  obtain ⟨hregistry, hanswer⟩ := take_use tools s caller may hlive
  intro t
  rw [hletIn]
  refine ⟨by rw [World.turns_turn, World.turns_settle]; rfl, Agrees.turn ⟨done.sound, ?_, ?_⟩ t⟩
  · intro other
    rw [hanswer]
    by_cases hother : other = caller
    · subst hother
      rw [if_pos rfl]
      exact done.self
    · rw [if_neg hother, done.progress other hother]
      apply (h.stands other).frame
      · rw [done.places other hother, let_in]
        simp [hother]
      · intro k hk
        have had' : ((w.onTable (.confirm caller)).table.place other).had? = some k := by
          rw [let_in]
          simpa [hother] using hk
        rw [contents_of_settled (h.sound.attempt (.confirm caller)) holds done hother had', let_in]
        rfl
  · obtain ⟨record, hfind, rfl, -⟩ := LockTable.cell?_eq_some_iff.mp stands
    have mem := Registry.mem_of_find? hfind
    rw [hregistry, Registry.map_put, h.sessions, done.registry, let_in]
    obtain rfl := Registry.id_of_find? hfind
    refine Eq.symm (Registry.map_eq_put mem done.left ?_)
    intro other hmem hne
    have hcell : other.content ≠ record.content := by
      intro e
      exact hne (congrArg Record.id (List.inj_on_of_nodup_map h.sound.distinct hmem mem e))
    rw [done.apart _ hcell]
    exact World.eventual_congr (by rw [let_in]; rfl) (fun _ _ => rfl) (by rw [let_in]; rfl)

end Agrees

/-! ## Events -/

/-- The world has gone on to another that agrees again: either no turn has come, or the turn of a call
that had no answer, or of a sweep. -/
def Follows (tools : Tools) (w : World) (s : Serial) (after : World) : Prop :=
  (after.turns = w.turns ∧ Agrees tools after s) ∨
    ∃ t : Turn, after.turns = w.turns ++ [t] ∧ Agrees tools after (s.take tools t) ∧
      ∀ caller, t.caller? = some caller → s.answer? caller = none

namespace Agrees

variable {w : World} {s : Serial}

/-- A caller calls. -/
theorem call (h : Agrees tools w s) {caller : Client} (due : w.progress caller = .due) (m : Moment)
    (c : Call) : Follows tools w s (w.call caller m c) := by
  obtain ⟨-, hanswer⟩ := h.of_due due
  have alone : ∀ other, (Turn.call caller m c).caller? = some other → s.answer? other = none := by
    intro other hother
    obtain rfl : caller = other := Option.some.inj hother
    exact hanswer
  cases c with
  | start session =>
      refine Or.inr ⟨_, rfl, ?_, alone⟩
      have hserved : s.take tools (.call caller m (.start session))
          = Serial.answer
              { s with service := { s.service with
                  registry := (s.service.registry.create m.now m.ids session).2 } }
              caller (.start session)
              (.ofResult .newId (.ok (.newId (m.ids.fresh w.table.registry.ids)))) := by
        rw [← h.ids_eq]
        rfl
      rw [hserved]
      exact ((h.create m session).advance_answered due _ _).turn _
  | drop id =>
      refine Or.inr ⟨_, rfl, ?_, alone⟩
      exact ((h.delete id).advance_answered due _ _).turn _
  | use id u =>
      simp only [World.call]
      cases hfault : u.fault? with
      | some fault =>
          refine Or.inr ⟨_, rfl, ?_, alone⟩
          have hserved : s.take tools (.call caller m (.use id u))
              = s.answer caller (.use id u) (.ofResult u.kind (.error fault)) := by
            simp [Serial.take, Service.call, Service.use, hfault, Call.kind]
          rw [hserved]
          exact (h.advance_answered due _ _).turn _
      | none =>
          cases hcell : w.table.cell? id with
          | some cell => exact Or.inl ⟨rfl, h.request due hfault hcell⟩
          | none => exact Or.inl ⟨rfl, h.request_refused due hcell⟩

/-- Whatever happens, the world follows. -/
theorem step (h : Agrees tools w s) (e : Event) : Follows tools w s (w.step tools e) := by
  have same : Follows tools w s w := Or.inl ⟨rfl, h⟩
  cases e with
  | call caller m c =>
      simp only [World.step]
      split
      · rename_i due
        exact h.call due m c
      · exact same
  | grant caller => exact Or.inl ⟨rfl, h.grant caller⟩
  | confirm caller =>
      simp only [World.step]
      split
      · rename_i id u id' cell locks checks
        obtain ⟨u', locks', -, hanswer⟩ := h.locking_of_queued (Or.inr checks)
        obtain ⟨rfl, rfl⟩ := Progress.locking.inj (locks.symm.trans locks')
        by_cases stands : w.table.cell? id = some cell
        · obtain ⟨hturns, hagrees⟩ := h.letIn locks checks stands
          refine Or.inr ⟨_, hturns, hagrees, ?_⟩
          intro other hother
          obtain rfl : caller = other := Option.some.inj hother
          exact hanswer
        · rw [World.letIn_of_lost checks stands]
          exact Or.inl ⟨rfl, h.confirm_refused locks checks stands⟩
      · exact same
  | resume caller =>
      simp only [World.step]
      split
      · rename_i id u work works
        exact Or.inl ⟨World.turns_settle, h.resume works⟩
      · exact same
  | sweep read => exact Or.inr ⟨_, rfl, (h.sweep read).turn _, fun _ hnone => nomatch hnone⟩
  | clock now => exact Or.inl ⟨rfl, h.clock now⟩

end Agrees

/-- A turn answers its caller and nobody else. -/
theorem Serial.answer?_take_eq_none_iff (s : Serial) (t : Turn) (k : Client) :
    (s.take tools t).answer? k = none ↔ t.caller? ≠ some k ∧ s.answer? k = none := by
  cases t with
  | call caller m c =>
      simp only [Serial.take, Serial.answer, Turn.caller?, ne_eq, Option.some.injEq]
      by_cases hk : k = caller
      · simp [hk]
      · simp [hk, Ne.symm hk]
  | sweep now => simp [Serial.take, Turn.caller?]

theorem agrees_empty (tools : Tools) (lifetime : Nat) (start : Int) :
    Agrees tools (World.empty lifetime start) (Serial.empty lifetime) :=
  ⟨LockTable.sound_empty lifetime start, fun _ => ⟨rfl, rfl⟩, rfl⟩

/-- However the events follow each other, the world agrees with the service that takes its turns, and
nobody has more than one. -/
theorem Agrees.run {w : World} {s : Serial} (h : Agrees tools w s) (events : List Event) :
    ∃ more : List Turn, (w.run tools events).turns = w.turns ++ more ∧
      Agrees tools (w.run tools events) (s.run tools more) ∧
      (more.filterMap Turn.caller?).Nodup ∧
      ∀ caller ∈ more.filterMap Turn.caller?, s.answer? caller = none := by
  induction events generalizing w s with
  | nil => exact ⟨[], by simp [World.run], h, List.nodup_nil, by simp⟩
  | cons e rest ih =>
      rcases h.step e with ⟨hturns, hagrees⟩ | ⟨t, hturns, hagrees, alone⟩
      · obtain ⟨more, hmore, hrun, honce, hnew⟩ := ih hagrees
        exact ⟨more, by rw [← hturns]; exact hmore, hrun, honce, hnew⟩
      · obtain ⟨more, hmore, hrun, honce, hnew⟩ := ih hagrees
        have hlater (caller : Client) (hmem : caller ∈ more.filterMap Turn.caller?) :
            t.caller? ≠ some caller ∧ s.answer? caller = none :=
          (s.answer?_take_eq_none_iff t caller).mp (hnew caller hmem)
        refine ⟨t :: more, ?_, hrun, ?_, ?_⟩
        · rw [hturns, List.append_assoc] at hmore
          exact hmore
        · cases hcaller : t.caller? with
          | none => rwa [List.filterMap_cons_none hcaller]
          | some caller =>
              rw [List.filterMap_cons_some hcaller, List.nodup_cons]
              exact ⟨fun hmem => (hlater caller hmem).1 hcaller, honce⟩
        · cases hcaller : t.caller? with
          | none =>
              rw [List.filterMap_cons_none hcaller]
              exact fun caller hmem => (hlater caller hmem).2
          | some first =>
              rw [List.filterMap_cons_some hcaller, List.forall_mem_cons]
              exact ⟨alone first hcaller, fun caller hmem => (hlater caller hmem).2⟩

/-- Where nobody works on the cell of a session, the service has that session as it stands there. -/
theorem Agrees.find?_of_quiet {w : World} {s : Serial} (h : Agrees tools w s)
    {record : Record CellId} (mem : record ∈ w.table.registry.records)
    (quiet : ∀ caller id, w.table.place caller ≠ .holding id record.content) :
    ∃ session, w.table.contents[record.content]? = some session ∧
      s.service.registry.find? record.id = some ⟨record.id, record.created, session⟩ := by
  have hquiet : w.eventual tools record.content = w.table.contents[record.content]? := by
    apply World.eventual_of_quiet
    intro caller holds id u work works
    have hstands := h.stands caller
    rw [works] at hstands
    obtain ⟨⟨cell, hplace, -⟩, -⟩ := hstands
    have hhad := (h.sound.tied caller record.content).mp holds
    rw [hplace] at hhad
    obtain rfl : cell = record.content := Option.some.inj hhad
    exact quiet caller id hplace
  have hfound := h.find?_eq record.id
  rw [Registry.find?_of_mem mem, Option.map_some, Option.map_eq_some_iff] at hfound
  obtain ⟨⟨id, created, session⟩, hserved, hsame⟩ := hfound
  obtain ⟨rfl, rfl, hcontent⟩ := Record.mk.inj hsame
  exact ⟨session, hquiet.symm.trans hcontent.symm, hserved⟩

/-- Calls made at the same time are as good as calls made one after another.  For any callers and any
calls, and in every order of the events that the locks allow, let the same calls be made whole in the
order of their turns.  Every caller that is answered has had one turn with the same reply there, or it
was refused the session, is told that the id is unknown, and has had no turn.  There are the same
sessions, and one that nobody works on is the same session.  And whoever is about to be let in finds in
the cell just what the session is then, not what another has left there for the time of a wait. -/
theorem calls_are_serial (tools : Tools) (lifetime : Nat) (start : Int) (events : List Event) :
    let w := (World.empty lifetime start).run tools events
    let serial := (Serial.empty lifetime).run tools w.turns
    (w.turns.filterMap Turn.caller?).Nodup ∧
    (∀ caller c reply, w.progress caller = .answered c reply →
      serial.answer? caller = some (c, reply) ∨
        (serial.answer? caller = none ∧ w.table.place caller = .refused ∧
          ∃ id u, c = .use id u ∧ reply = .ofResult u.kind (.error .unknownId))) ∧
    serial.service.registry.ids = w.table.registry.ids ∧
    (∀ record ∈ w.table.registry.records,
      (∀ caller id, w.table.place caller ≠ .holding id record.content) →
      ∃ session, w.table.contents[record.content]? = some session ∧
        serial.service.registry.find? record.id = some ⟨record.id, record.created, session⟩) ∧
    (∀ caller id cell, w.table.place caller = .checking id cell → w.table.cell? id = some cell →
      ∃ record, serial.service.registry.live? w.table.now id = some record ∧
        w.table.contents[cell]? = some record.content) := by
  intro w serial
  obtain ⟨turns, hturns, hagrees, honce, -⟩ := (agrees_empty tools lifetime start).run events
  have hturns : w.turns = turns := hturns.trans (List.nil_append turns)
  have agrees : Agrees tools w serial := by
    rw [← hturns] at hagrees
    exact hagrees
  refine ⟨?_, ?_, agrees.ids_eq, ?_, ?_⟩
  · rw [hturns]
    exact honce
  · intro caller c reply hanswered
    have hstands := agrees.stands caller
    rw [hanswered] at hstands
    rcases hstands with ⟨-, hanswer⟩ | ⟨hplace, hnone, hrefusal⟩
    · exact Or.inl hanswer
    · exact Or.inr ⟨hnone, hplace, hrefusal⟩
  · intro record mem quiet
    exact agrees.find?_of_quiet mem quiet
  · intro caller id cell checks stands
    exact agrees.live?_of_checking checks stands

end DocumentCard.Rpc
