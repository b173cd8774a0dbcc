import DocumentCard.Proofs.Session.Registry
import DocumentCard.Session.LockTable
set_option autoImplicit false

/-!
# Locks keep clients apart

What a step of the lock table can do is said once (`Took`); everything else follows from it.  Cells
are had by those who stand in the place for it and by nobody else, and no cell is used twice
(`Sound`).  As a cell is never entered a second time, an id that has lost a cell never stands for it
again (`Later.cell?_ne`), and that is what the second lookup of a waiting client rests on.

Main statement: however the steps of the clients follow each other, one client at a time has a cell,
whoever is let in holds the live session of the id, and a client whose session went away while it
waited is refused (`locks_are_safe`).
-/

namespace DocumentCard.Session

variable {α : Type}

namespace Place

/-- The cell that a client in this place has. -/
def had? : Place → Option CellId
  | .checking _ cell | .holding _ cell => some cell
  | _ => none

/-- The id and the cell that a client in this place waits for or has. -/
def aim? : Place → Option (String × CellId)
  | .waiting id cell | .checking id cell | .holding id cell => some (id, cell)
  | _ => none

theorem had?_of_aim? {place : Place} (h : place.aim? = none) : place.had? = none := by
  cases place <;> simp_all [aim?, had?]

end Place

namespace LockTable

/-! ## What a step does -/

/-- Every way in which a step can be possible, with what it leaves. -/
inductive Took (t : LockTable α) : LockStep α → LockTable α → Prop where
  | found {client : Client} {id : String} {cell : CellId}
      (free : (t.place client).aim? = none) (stands : t.cell? id = some cell) :
      Took t (.request client id) (t.move client (.waiting id cell))
  | missed {client : Client} {id : String}
      (free : (t.place client).aim? = none) (absent : t.cell? id = none) :
      Took t (.request client id) (t.move client .refused)
  | granted {client : Client} {id : String} {cell : CellId}
      (waits : t.place client = .waiting id cell) (free : t.holder cell = none) :
      Took t (.grant client) ((t.hand cell (some client)).move client (.checking id cell))
  | confirmed {client : Client} {id : String} {cell : CellId}
      (checks : t.place client = .checking id cell) (stands : t.cell? id = some cell) :
      Took t (.confirm client) (t.move client (.holding id cell))
  | refused {client : Client} {id : String} {cell : CellId}
      (checks : t.place client = .checking id cell) (lost : t.cell? id ≠ some cell) :
      Took t (.confirm client) ((t.hand cell none).move client .refused)
  | put {client : Client} {id : String} {cell : CellId} (content : α)
      (holds : t.place client = .holding id cell) :
      Took t (.put client content) { t with contents := t.contents.set cell content }
  | released {client : Client} {id : String} {cell : CellId}
      (holds : t.place client = .holding id cell) :
      Took t (.release client) ((t.hand cell none).move client .idle)
  | created (id : String) (content : α) (read : Option Int) (unused : id ∉ t.registry.ids) :
      Took t (.create id content read)
        { t with
          registry := t.registry.add ⟨id, read.getD t.now, t.contents.length⟩ unused
          contents := t.contents ++ [content] }
  | deleted (id : String) : Took t (.delete id) { t with registry := t.registry.delete id }
  | swept (read : Option Int) :
      Took t (.sweep read) { t with registry := t.registry.sweep (read.getD t.now) }
  | timed (now : Int) : Took t (.clock now) { t with now }

/-- A lookup by a client that is after no cell finds a cell or none. -/
theorem took_of_lookup {t after : LockTable α} {client : Client} {id : String}
    (free : (t.place client).aim? = none)
    (h : (match t.cell? id with
      | some cell => some (t.move client (.waiting id cell))
      | none => some (t.move client .refused)) = some after) :
    Took t (.request client id) after := by
  cases hcell : t.cell? id with
  | some cell =>
      simp only [hcell, Option.some.injEq] at h
      exact h ▸ .found free hcell
  | none =>
      simp only [hcell, Option.some.injEq] at h
      exact h ▸ .missed free hcell

/-- A possible step does one of the things that steps do. -/
theorem took_of_step {t after : LockTable α} {s : LockStep α} (h : t.step s = some after) :
    Took t s after := by
  cases s with
  | request client id =>
      simp only [step] at h
      split at h
      · rename_i hplace
        exact took_of_lookup (by rw [hplace]; rfl) h
      · rename_i hplace
        exact took_of_lookup (by rw [hplace]; rfl) h
      · cases h
  | grant client =>
      simp only [step] at h
      split at h
      · rename_i id cell hplace
        split at h
        · rename_i hfree
          exact Option.some.inj h ▸ .granted hplace hfree
        · cases h
      · cases h
  | confirm client =>
      simp only [step] at h
      split at h
      · rename_i id cell hplace
        split at h
        · rename_i hstands
          exact Option.some.inj h ▸ .confirmed hplace hstands
        · rename_i hlost
          exact Option.some.inj h ▸ .refused hplace hlost
      · cases h
  | put client content =>
      simp only [step] at h
      split at h
      · rename_i id cell hplace
        exact Option.some.inj h ▸ .put content hplace
      · cases h
  | release client =>
      simp only [step] at h
      split at h
      · rename_i id cell hplace
        exact Option.some.inj h ▸ .released hplace
      · cases h
  | create id content read =>
      simp only [step] at h
      split at h
      · rename_i hunused
        exact Option.some.inj h ▸ .created id content read hunused
      · cases h
  | delete id => exact Option.some.inj h ▸ .deleted id
  | sweep read => exact Option.some.inj h ▸ .swept read
  | clock now => exact Option.some.inj h ▸ .timed now

/-- An attempted step does one of the things that steps do, or nothing. -/
theorem attempt_cases (t : LockTable α) (s : LockStep α) :
    t.attempt s = t ∨ Took t s (t.attempt s) := by
  unfold attempt
  cases h : t.step s with
  | none => exact Or.inl rfl
  | some after => exact Or.inr (took_of_step h)

theorem run_append (t : LockTable α) (first second : List (LockStep α)) :
    t.run (first ++ second) = (t.run first).run second := List.foldl_append

/-! ## Soundness -/

@[simp] theorem place_move (t : LockTable α) (client other : Client) (place : Place) :
    (t.move client place).place other = if other = client then place else t.place other := rfl

@[simp] theorem holder_move (t : LockTable α) (client : Client) (place : Place) :
    (t.move client place).holder = t.holder := rfl

@[simp] theorem registry_move (t : LockTable α) (client : Client) (place : Place) :
    (t.move client place).registry = t.registry := rfl

@[simp] theorem contents_move (t : LockTable α) (client : Client) (place : Place) :
    (t.move client place).contents = t.contents := rfl

@[simp] theorem now_move (t : LockTable α) (client : Client) (place : Place) :
    (t.move client place).now = t.now := rfl

@[simp] theorem holder_hand (t : LockTable α) (cell other : CellId) (client : Option Client) :
    (t.hand cell client).holder other = if other = cell then client else t.holder other := rfl

@[simp] theorem place_hand (t : LockTable α) (cell : CellId) (client : Option Client) :
    (t.hand cell client).place = t.place := rfl

@[simp] theorem registry_hand (t : LockTable α) (cell : CellId) (client : Option Client) :
    (t.hand cell client).registry = t.registry := rfl

@[simp] theorem contents_hand (t : LockTable α) (cell : CellId) (client : Option Client) :
    (t.hand cell client).contents = t.contents := rfl

@[simp] theorem now_hand (t : LockTable α) (cell : CellId) (client : Option Client) :
    (t.hand cell client).now = t.now := rfl

/-- Those who have cells are those who stand in the place for it. -/
def Tied (t : LockTable α) : Prop :=
  ∀ client cell, t.holder cell = some client ↔ (t.place client).had? = some cell

/-- What holds of a table whatever its steps were. -/
structure Sound (t : LockTable α) : Prop where
  /-- the cells of records have been made -/
  recorded : ∀ record ∈ t.registry.records, record.content < t.contents.length
  /-- no two records have one cell -/
  distinct : (t.registry.records.map (·.content)).Nodup
  /-- the cells that clients look at have been made -/
  aimed : ∀ client id cell, (t.place client).aim? = some (id, cell) → cell < t.contents.length
  tied : t.Tied

theorem cell?_eq_some_iff {t : LockTable α} {id : String} {cell : CellId} :
    t.cell? id = some cell ↔ ∃ record, t.registry.find? id = some record ∧ record.content = cell ∧
      record.expired t.registry.lifetime t.now = false := by
  simp only [cell?, Option.map_eq_some_iff, Registry.live?_eq_some_iff]
  constructor
  · rintro ⟨record, ⟨hfind, hlive⟩, hcell⟩
    exact ⟨record, hfind, hcell, hlive⟩
  · rintro ⟨record, hfind, hcell, hlive⟩
    exact ⟨record, ⟨hfind, hlive⟩, hcell⟩

theorem sound_empty (lifetime : Nat) (now : Int) : (empty lifetime now : LockTable α).Sound where
  recorded := by simp [empty, Registry.empty]
  distinct := by simp [empty, Registry.empty]
  aimed := by simp [empty, Place.aim?]
  tied := by simp [Tied, empty, Place.had?]

/-- No step makes cells disappear. -/
theorem contents_le_of_took {t after : LockTable α} {s : LockStep α} (h : Took t s after) :
    t.contents.length ≤ after.contents.length := by
  cases h <;> simp

/-- A record of the table after a step was there before, or has the next cell. -/
theorem mem_of_took {t after : LockTable α} {s : LockStep α} (h : Took t s after)
    {record : Record CellId} (hmem : record ∈ after.registry.records) :
    record ∈ t.registry.records ∨
      (record.content = t.contents.length ∧ t.contents.length < after.contents.length) := by
  cases h with
  | created id content read unused =>
      rcases List.mem_cons.mp hmem with rfl | hold
      · exact Or.inr ⟨rfl, by simp⟩
      · exact Or.inl hold
  | deleted id => exact Or.inl (List.mem_filter.mp hmem).1
  | swept read => exact Or.inl (List.mem_filter.mp hmem).1
  | _ => exact Or.inl hmem

theorem recorded_of_took {t after : LockTable α} {s : LockStep α} (sound : t.Sound)
    (h : Took t s after) : ∀ record ∈ after.registry.records,
      record.content < after.contents.length := by
  intro record hmem
  have hle := contents_le_of_took h
  rcases mem_of_took h hmem with hold | ⟨hnew, hlt⟩
  · exact Nat.lt_of_lt_of_le (sound.recorded record hold) hle
  · exact hnew ▸ hlt

theorem distinct_of_took {t after : LockTable α} {s : LockStep α} (sound : t.Sound)
    (h : Took t s after) : (after.registry.records.map (·.content)).Nodup := by
  cases h with
  | created id content read unused =>
      refine List.nodup_cons.mpr ⟨?_, sound.distinct⟩
      intro hmem
      obtain ⟨record, hrecord, hcell⟩ := List.mem_map.mp hmem
      have hlt := sound.recorded record hrecord
      rw [hcell] at hlt
      exact Nat.lt_irrefl _ hlt
  | deleted id => exact sound.distinct.sublist (List.filter_sublist.map _)
  | swept read => exact sound.distinct.sublist (List.filter_sublist.map _)
  | _ => exact sound.distinct

/-- What a client looks at after a step it looked at before, or the id stood for it. -/
theorem aim?_of_took {t after : LockTable α} {s : LockStep α} (h : Took t s after)
    {client : Client} {id : String} {cell : CellId}
    (haim : (after.place client).aim? = some (id, cell)) :
    (t.place client).aim? = some (id, cell) ∨ t.cell? id = some cell := by
  cases h with
  | @found other id' cell' free stands =>
      simp only [place_move] at haim
      split at haim
      · simp only [Place.aim?, Option.some.injEq, Prod.mk.injEq] at haim
        obtain ⟨rfl, rfl⟩ := haim
        exact Or.inr stands
      · exact Or.inl haim
  | @missed other id' free absent =>
      simp only [place_move] at haim
      split at haim
      · simp [Place.aim?] at haim
      · exact Or.inl haim
  | @granted other id' cell' waits free =>
      simp only [place_move, place_hand] at haim
      split at haim
      · rename_i heq
        exact Or.inl (by rw [heq, waits]; exact haim)
      · exact Or.inl haim
  | @confirmed other id' cell' checks stands =>
      simp only [place_move] at haim
      split at haim
      · rename_i heq
        exact Or.inl (by rw [heq, checks]; exact haim)
      · exact Or.inl haim
  | @refused other id' cell' checks lost =>
      simp only [place_move, place_hand] at haim
      split at haim
      · simp [Place.aim?] at haim
      · exact Or.inl haim
  | @released other id' cell' holds =>
      simp only [place_move, place_hand] at haim
      split at haim
      · simp [Place.aim?] at haim
      · exact Or.inl haim
  | _ => exact Or.inl haim

/-- A client that goes to a place with the same cell, or again with none, keeps the tie. -/
theorem Tied.move {t : LockTable α} (tied : t.Tied) {client : Client} {place : Place}
    (same : place.had? = (t.place client).had?) : (t.move client place).Tied := by
  intro other cell
  by_cases ho : other = client
  · subst ho
    simpa [same] using tied other cell
  · simpa [ho] using tied other cell

/-- A free cell may be handed to a client that has none. -/
theorem Tied.handOver {t : LockTable α} (tied : t.Tied) {client : Client} {place : Place}
    {cell : CellId} (free : t.holder cell = none) (without : (t.place client).had? = none)
    (gets : place.had? = some cell) : ((t.hand cell (some client)).move client place).Tied := by
  intro other k
  have hold := tied other k
  by_cases ho : other = client
  · subst ho
    by_cases hk : k = cell
    · simp [gets, hk]
    · have hk' : ¬ cell = k := fun e => hk e.symm
      simpa [gets, hk, hk', without] using hold
  · have ho' : ¬ client = other := fun e => ho e.symm
    by_cases hk : k = cell
    · subst hk
      simpa [ho, ho', free] using hold
    · simpa [ho, hk] using hold

/-- A client may let go of its cell. -/
theorem Tied.handBack {t : LockTable α} (tied : t.Tied) {client : Client} {place : Place}
    {cell : CellId} (had : (t.place client).had? = some cell) (gives : place.had? = none) :
    ((t.hand cell none).move client place).Tied := by
  intro other k
  have hold := tied other k
  have hcell : t.holder cell = some client := (tied client cell).mpr had
  by_cases ho : other = client
  · subst ho
    by_cases hk : k = cell
    · simp [gives, hk]
    · have hk' : ¬ cell = k := fun e => hk e.symm
      simpa [gives, hk, hk', had] using hold
  · have ho' : ¬ client = other := fun e => ho e.symm
    by_cases hk : k = cell
    · subst hk
      simpa [ho, ho', hcell] using hold
    · simpa [ho, hk] using hold

theorem tied_of_took {t after : LockTable α} {s : LockStep α} (tied : t.Tied)
    (h : Took t s after) : after.Tied := by
  cases h with
  | found free stands => exact tied.move (by rw [Place.had?_of_aim? free]; rfl)
  | missed free absent => exact tied.move (by rw [Place.had?_of_aim? free]; rfl)
  | granted waits free => exact tied.handOver free (by rw [waits]; rfl) rfl
  | confirmed checks stands => exact tied.move (by rw [checks]; rfl)
  | refused checks lost => exact tied.handBack (by rw [checks]; rfl) rfl
  | released holds => exact tied.handBack (by rw [holds]; rfl) rfl
  | _ => exact tied

/-- A step keeps a table sound. -/
theorem Sound.took {t after : LockTable α} {s : LockStep α} (sound : t.Sound)
    (h : Took t s after) : after.Sound where
  recorded := recorded_of_took sound h
  distinct := distinct_of_took sound h
  aimed client id cell haim := by
    refine Nat.lt_of_lt_of_le ?_ (contents_le_of_took h)
    rcases aim?_of_took h haim with hold | hstands
    · exact sound.aimed client id cell hold
    · obtain ⟨record, hfind, hcell, -⟩ := cell?_eq_some_iff.mp hstands
      exact hcell ▸ sound.recorded record (Registry.mem_of_find? hfind)
  tied := tied_of_took sound.tied h

theorem Sound.attempt {t : LockTable α} (sound : t.Sound) (s : LockStep α) :
    (t.attempt s).Sound := by
  rcases attempt_cases t s with h | h
  · rw [h]
    exact sound
  · exact sound.took h

/-- No run of steps makes a table unsound. -/
theorem Sound.run {t : LockTable α} (sound : t.Sound) (steps : List (LockStep α)) :
    (t.run steps).Sound := by
  induction steps generalizing t with
  | nil => exact sound
  | cons s rest ih => exact ih (sound.attempt s)

/-- A cell is had by one client at most. -/
theorem Sound.eq_of_had? {t : LockTable α} (sound : t.Sound) {a b : Client} {cell : CellId}
    (ha : (t.place a).had? = some cell) (hb : (t.place b).had? = some cell) : a = b := by
  have h : some a = some b := by
    rw [← (sound.tied a cell).mpr ha, (sound.tied b cell).mpr hb]
  exact Option.some.inj h

/-! ## Sessions that go away -/

/-- How a table is related to a later one: cells stay made, and a record with an old cell is not
entered anew. -/
structure Later (t after : LockTable α) : Prop where
  made : t.contents.length ≤ after.contents.length
  lifetime : after.registry.lifetime = t.registry.lifetime
  old : ∀ id record, after.registry.find? id = some record → record.content < t.contents.length →
    t.registry.find? id = some record

theorem Later.refl (t : LockTable α) : t.Later t := ⟨Nat.le_refl _, rfl, fun _ _ h _ => h⟩

theorem Later.trans {a b c : LockTable α} (hab : a.Later b) (hbc : b.Later c) : a.Later c where
  made := Nat.le_trans hab.made hbc.made
  lifetime := hbc.lifetime.trans hab.lifetime
  old id record hfind hold :=
    hab.old id record (hbc.old id record hfind (Nat.lt_of_lt_of_le hold hab.made)) hold

theorem later_of_took {t after : LockTable α} {s : LockStep α} (h : Took t s after) :
    t.Later after := by
  refine ⟨contents_le_of_took h, by cases h <;> rfl, ?_⟩
  intro id record hfind hold
  cases h with
  | created id' content read unused =>
      simp only [Registry.find?_add] at hfind
      split at hfind
      · rw [← Option.some.inj hfind] at hold
        exact absurd hold (Nat.lt_irrefl _)
      · exact hfind
  | deleted id' => exact Registry.find?_of_keep hfind
  | swept read => exact Registry.find?_of_keep hfind
  | _ => exact hfind

theorem later_attempt (t : LockTable α) (s : LockStep α) : t.Later (t.attempt s) := by
  rcases attempt_cases t s with h | h
  · rw [h]
    exact .refl t
  · exact later_of_took h

theorem later_run (t : LockTable α) (steps : List (LockStep α)) : t.Later (t.run steps) := by
  induction steps generalizing t with
  | nil => exact .refl t
  | cons s rest ih => exact (later_attempt t s).trans (ih (t.attempt s))

/-- The table in the middle of a run is followed by the one at its end. -/
theorem later_run_take (t : LockTable α) (steps : List (LockStep α)) (k : Nat) :
    (t.run (steps.take k)).Later (t.run steps) := by
  have h := later_run (t.run (steps.take k)) (steps.drop k)
  rwa [← run_append, List.take_append_drop] at h

/-- The id stands for no record, or for one with another cell. -/
def Lacks (t : LockTable α) (id : String) (cell : CellId) : Prop :=
  ∀ record, t.registry.find? id = some record → record.content ≠ cell

/-- The id stands for a record that has outlived its time. -/
def Outlived (t : LockTable α) (id : String) : Prop :=
  ∃ record, t.registry.find? id = some record ∧
    record.expired t.registry.lifetime t.now = true

/-- A cell that its id has lost once is not found again by a second lookup; nor is one whose record
was too old once, unless the clock has been set back. -/
theorem Later.cell?_ne {t after : LockTable α} (later : t.Later after) {id : String}
    {cell : CellId} (made : cell < t.contents.length)
    (gone : t.Lacks id cell ∨ (t.Outlived id ∧ t.now ≤ after.now)) :
    after.cell? id ≠ some cell := by
  intro hcell
  obtain ⟨record, hfind, rfl, hlive⟩ := cell?_eq_some_iff.mp hcell
  have hbefore := later.old id record hfind made
  rcases gone with hlacks | ⟨⟨other, hother, hexpired⟩, hle⟩
  · exact hlacks record hbefore rfl
  · obtain rfl : other = record := Option.some.inj (hother.symm.trans hbefore)
    rw [later.lifetime, Record.expired_of_le hexpired hle] at hlive
    cases hlive

/-! ## Waiting -/

/-- The client waits for the cell, or has it and is to look the id up again. -/
def Queued (t : LockTable α) (client : Client) (id : String) (cell : CellId) : Prop :=
  t.place client = .waiting id cell ∨ t.place client = .checking id cell

/-- Nothing but its own second lookup ends a client's wait. -/
theorem queued_of_took {t after : LockTable α} {s : LockStep α} (h : Took t s after)
    {client : Client} {id : String} {cell : CellId} (queued : t.Queued client id cell)
    (other : s ≠ .confirm client) : after.Queued client id cell := by
  have busy : (t.place client).aim? = some (id, cell) := by
    rcases queued with e | e <;> rw [e] <;> rfl
  have idle {c : Client} (e : (t.place c).aim? = none) : client ≠ c := by
    rintro rfl
    rw [busy] at e
    cases e
  have apart {c : Client} {place : Place} (e : t.place c = place)
      (hw : place ≠ .waiting id cell) (hc : place ≠ .checking id cell) : client ≠ c := by
    rintro rfl
    rcases queued with q | q
    · exact hw (e.symm.trans q)
    · exact hc (e.symm.trans q)
  cases h with
  | found free stands => simpa [Queued, idle free] using queued
  | missed free absent => simpa [Queued, idle free] using queued
  | @granted c id' cell' waits free =>
      by_cases hc : client = c
      · subst hc
        rw [waits] at busy
        simp only [Place.aim?, Option.some.injEq, Prod.mk.injEq] at busy
        simp [Queued, busy.1, busy.2]
      · simpa [Queued, hc] using queued
  | @confirmed c id' cell' checks stands =>
      have hc : client ≠ c := fun e => other (by rw [e])
      simpa [Queued, hc] using queued
  | @refused c id' cell' checks lost =>
      have hc : client ≠ c := fun e => other (by rw [e])
      simpa [Queued, hc] using queued
  | released holds =>
      have hc := apart holds Place.noConfusion Place.noConfusion
      simpa [Queued, hc] using queued
  | _ => exact queued

theorem queued_of_run {t : LockTable α} {client : Client} {id : String} {cell : CellId}
    (queued : t.Queued client id cell) {steps : List (LockStep α)}
    (others : .confirm client ∉ steps) : (t.run steps).Queued client id cell := by
  induction steps generalizing t with
  | nil => exact queued
  | cons s rest ih =>
      rw [List.mem_cons, not_or] at others
      refine ih ?_ others.2
      rcases attempt_cases t s with h | h
      · rw [h]
        exact queued
      · exact queued_of_took h queued (Ne.symm others.1)

/-- The second lookup of a client whose cell the id does not stand for refuses it. -/
theorem attempt_confirm_of_ne {t : LockTable α} {client : Client} {id : String} {cell : CellId}
    (checks : t.place client = .checking id cell) (lost : t.cell? id ≠ some cell) :
    (t.attempt (.confirm client)).place client = .refused := by
  simp [attempt, step, checks, lost]

/-- A client that is not where a move has put somebody was there before. -/
theorem place_of_move {t : LockTable α} {mover client : Client} {target place : Place}
    (h : (t.move mover target).place client = place) (hne : target ≠ place) :
    t.place client = place := by
  rw [place_move] at h
  split at h
  · exact absurd h hne
  · exact h

/-- Only a second lookup lets a client in, and only to the live session of the id. -/
theorem confirmed_of_holding {t after : LockTable α} {s : LockStep α} (h : Took t s after)
    {client : Client} {id : String} {cell : CellId}
    (holding : after.place client = .holding id cell) :
    t.place client = .holding id cell ∨ (s = .confirm client ∧ after.cell? id = some cell) := by
  cases h with
  | @confirmed c id' cell' checks stands =>
      by_cases hc : client = c
      · subst hc
        simp only [place_move, if_true, Place.holding.injEq] at holding
        exact Or.inr ⟨rfl, holding.1 ▸ holding.2 ▸ stands⟩
      · exact Or.inl (by simpa [hc] using holding)
  | found free stands => exact Or.inl (place_of_move holding Place.noConfusion)
  | missed free absent => exact Or.inl (place_of_move holding Place.noConfusion)
  | granted waits free => exact Or.inl (place_of_move holding Place.noConfusion)
  | refused checks lost => exact Or.inl (place_of_move holding Place.noConfusion)
  | released holds => exact Or.inl (place_of_move holding Place.noConfusion)
  | _ => exact Or.inl holding

/-! ## Safety -/

/-- Locks are safe in every order of the steps of any number of clients.  One client at a time has a
cell.  A client is let in by its second lookup alone, and then the id stands for its cell in a record
that has not outlived its time.  A client that waits while its record goes away, or gets too old with
the clock not set back since, is not let in: when its turn comes it is refused and has no cell. -/
theorem locks_are_safe (lifetime : Nat) (start : Int) (steps : List (LockStep α)) :
    let t : LockTable α := (empty lifetime start).run steps
    (∀ a b cell, (t.place a).had? = some cell → (t.place b).had? = some cell → a = b) ∧
    (∀ s client id cell, (t.attempt s).place client = .holding id cell →
      t.place client = .holding id cell ∨
        (s = .confirm client ∧ ∃ record, (t.attempt s).registry.find? id = some record ∧
          record.content = cell ∧ record.expired lifetime (t.attempt s).now = false)) ∧
    (∀ client id cell during, t.place client = .waiting id cell → .confirm client ∉ during →
      (∃ k, let between := t.run (during.take k)
        between.Lacks id cell ∨ (between.Outlived id ∧ between.now ≤ (t.run during).now)) →
      (t.run during).place client = .waiting id cell ∨
        (((t.run during).attempt (.confirm client)).place client = .refused ∧
          ∀ other, ((t.run during).attempt (.confirm client)).holder other ≠ some client)) := by
  intro t
  have sound : t.Sound := (sound_empty lifetime start).run steps
  have hlifetime : t.registry.lifetime = lifetime := (later_run _ steps).lifetime
  refine ⟨?_, ?_, ?_⟩
  · intro a b cell
    exact sound.eq_of_had?
  · intro s client id cell holding
    rcases attempt_cases t s with h | h
    · exact Or.inl (h ▸ holding)
    · rcases confirmed_of_holding h holding with hold | ⟨hs, hcell⟩
      · exact Or.inl hold
      · refine Or.inr ⟨hs, ?_⟩
        have := cell?_eq_some_iff.mp hcell
        rwa [(later_attempt t s).lifetime, hlifetime] at this
  · rintro client id cell during waits others ⟨k, gone⟩
    have made : cell < (t.run (during.take k)).contents.length :=
      Nat.lt_of_lt_of_le (sound.aimed client id cell (by rw [waits]; rfl))
        (later_run t (during.take k)).made
    have lost : (t.run during).cell? id ≠ some cell :=
      (later_run_take t during k).cell?_ne made gone
    rcases queued_of_run (Or.inl waits) others with hwaits | hchecks
    · exact Or.inl hwaits
    · have hrefused := attempt_confirm_of_ne hchecks lost
      refine Or.inr ⟨hrefused, ?_⟩
      intro other hhas
      have had := (((sound.run during).attempt (.confirm client)).tied client other).mp hhas
      rw [hrefused] at had
      cases had

namespace Waiting

/-- A client locks a session, and another comes to wait for it. -/
def steps : List (LockStep Unit) :=
  [.create "a" (), .request 1 "a", .grant 1, .confirm 1, .request 2 "a"]

/-- The table while the other waits. -/
def table : LockTable Unit := (empty 10 0).run steps

/-- Another session takes the id over, and then the cell of the first becomes free. -/
def replaced : List (LockStep Unit) := [.delete "a", .create "a" (), .release 1, .grant 2]

/-- The session outlives its time, and then its cell becomes free. -/
def outlived : List (LockStep Unit) := [.clock 11, .release 1, .grant 2]

end Waiting

/-- A client that waits while another session takes the id over is let into neither of the two. -/
theorem locks_are_safe_replaced :
    Waiting.table.place 2 = .waiting "a" 0 ∧
      (Waiting.table.run Waiting.replaced).cell? "a" = some 1 ∧
      ((Waiting.table.run Waiting.replaced).attempt (.confirm 2)).place 2 = .refused ∧
      ∀ other, ((Waiting.table.run Waiting.replaced).attempt (.confirm 2)).holder other ≠ some 2 := by
  have waits : Waiting.table.place 2 = .waiting "a" 0 := by decide
  have lacks : (Waiting.table.run (Waiting.replaced.take 2)).Lacks "a" 0 := by
    intro record hrecord
    obtain rfl := Option.some.inj hrecord
    decide
  obtain ⟨-, -, refused⟩ := locks_are_safe 10 0 Waiting.steps
  rcases refused 2 "a" 0 Waiting.replaced waits (by simp [Waiting.replaced]) ⟨2, .inl lacks⟩ with
    hwaits | hrefused
  · exact absurd hwaits (by decide)
  · exact ⟨waits, by decide, hrefused⟩

/-- That the clock has not been set back is needed: a client that gets the cell of a session that has
outlived its time is let in all the same if the clock is set back before its second lookup. -/
theorem clock_set_back_lets_in :
    Waiting.table.place 2 = .waiting "a" 0 ∧
      (Waiting.table.run Waiting.outlived).place 2 = .checking "a" 0 ∧
      (Waiting.table.run Waiting.outlived).Outlived "a" ∧
      ((Waiting.table.run Waiting.outlived).run [.clock 0, .confirm 2]).place 2 = .holding "a" 0 := by
  have outlived : (Waiting.table.run Waiting.outlived).Outlived "a" :=
    ⟨⟨"a", 0, 0⟩, by decide, by decide⟩
  exact ⟨by decide, by decide, outlived, by decide⟩

end LockTable

end DocumentCard.Session
