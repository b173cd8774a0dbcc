import DocumentCard.Session.Registry
import Mathlib.Data.List.Nodup
set_option autoImplicit false

/-!
# Registries of different contents and histories

A registry may hold sessions, or cells in which the sessions stand.  Whatever the contents are, the
registry treats them alike: each operation commutes with a change of all contents (`Registry.map`).

An id stands for its live record or for nothing.  Each operation shows on the id that it is about, and
a sweep shows on none (`Registry.AgreeOn`); so a registry may lack what has outlived its time without
anybody noticing (`Registry.Within`).
-/

namespace DocumentCard.Session

variable {α β : Type}

namespace Record

theorem expired_eq_false_iff {r : Record α} {lifetime : Nat} {now : Int} :
    r.expired lifetime now = false ↔ now - r.created ≤ lifetime := by
  simp only [Record.expired, decide_eq_false_iff_not]
  omega

/-- What has outlived its time at one moment has done so at every later one. -/
theorem expired_of_le {r : Record α} {lifetime : Nat} {now later : Int}
    (h : r.expired lifetime now = true) (hle : now ≤ later) : r.expired lifetime later = true := by
  simp only [Record.expired, decide_eq_true_eq] at h ⊢
  omega

/-- The record with other content. -/
def map (f : α → β) (r : Record α) : Record β := ⟨r.id, r.created, f r.content⟩

@[simp] theorem id_map (f : α → β) (r : Record α) : (r.map f).id = r.id := rfl

@[simp] theorem content_map (f : α → β) (r : Record α) : (r.map f).content = f r.content := rfl

@[simp] theorem expired_map (f : α → β) (r : Record α) (lifetime : Nat) (now : Int) :
    (r.map f).expired lifetime now = r.expired lifetime now := rfl

end Record

namespace Registry

theorem ext_of_records {r s : Registry α} (lifetime : r.lifetime = s.lifetime)
    (records : r.records = s.records) : r = s := by
  obtain ⟨rl, rr, rn⟩ := r
  obtain ⟨sl, sr, sn⟩ := s
  subst lifetime records
  rfl

theorem mem_of_find? {r : Registry α} {id : String} {record : Record α}
    (h : r.find? id = some record) : record ∈ r.records := List.mem_of_find?_eq_some h

/-- The records of a registry can be told apart by their ids. -/
theorem eq_of_id_eq {r : Registry α} {a b : Record α} (ha : a ∈ r.records) (hb : b ∈ r.records)
    (h : a.id = b.id) : a = b :=
  List.inj_on_of_nodup_map r.nodup ha hb h

theorem find?_of_mem {r : Registry α} {record : Record α} (mem : record ∈ r.records) :
    r.find? record.id = some record := by
  cases hfind : r.find? record.id with
  | none =>
      rw [find?, List.find?_eq_none] at hfind
      exact absurd (decide_eq_true rfl) (hfind record mem)
  | some found => rw [eq_of_id_eq (mem_of_find? hfind) mem (id_of_find? hfind)]

/-- A registry that has been cut down has no other record of an id than before. -/
theorem find?_of_keep {r : Registry α} {p : Record α → Bool} {id : String} {record : Record α}
    (h : (r.keep p).find? id = some record) : r.find? id = some record := by
  rw [find?_keep, Option.filter_eq_some_iff] at h
  exact h.1

/-- A live record is one that is there and has not outlived its time. -/
theorem live?_eq_some_iff {r : Registry α} {now : Int} {id : String} {record : Record α} :
    r.live? now id = some record ↔
      r.find? id = some record ∧ record.expired r.lifetime now = false := by
  rw [live?, Option.filter_eq_some_iff]
  simp

/-- The registry with the contents of all records changed. -/
def map (f : α → β) (r : Registry α) : Registry β :=
  ⟨r.lifetime, r.records.map (Record.map f), by
    have same : (r.records.map (Record.map f)).map (·.id) = r.records.map (·.id) := by
      simp [List.map_map, Function.comp_def]
    exact same ▸ r.nodup⟩

@[simp] theorem lifetime_map (f : α → β) (r : Registry α) : (r.map f).lifetime = r.lifetime := rfl

@[simp] theorem ids_map (f : α → β) (r : Registry α) : (r.map f).ids = r.ids := by
  simp [ids, map, List.map_map, Function.comp_def]

theorem find?_map (f : α → β) (r : Registry α) (id : String) :
    (r.map f).find? id = (r.find? id).map (Record.map f) := by
  unfold find? map
  rw [List.find?_map]
  rfl

theorem map_keep (f : α → β) (r : Registry α) {p : Record α → Bool} {q : Record β → Bool}
    (h : ∀ record, q (record.map f) = p record) : (r.keep p).map f = (r.map f).keep q := by
  refine ext_of_records rfl ?_
  have hq : q ∘ Record.map f = p := funext h
  simp [keep, map, List.filter_map, hq]

theorem map_delete (f : α → β) (r : Registry α) (id : String) :
    (r.delete id).map f = (r.map f).delete id := map_keep f r fun _ => rfl

theorem map_sweep (f : α → β) (r : Registry α) (now : Int) :
    (r.sweep now).map f = (r.map f).sweep now := map_keep f r fun _ => rfl

theorem map_put (f : α → β) (r : Registry α) (id : String) (content : α) :
    (r.put id content).map f = (r.map f).put id (f content) := by
  refine ext_of_records rfl ?_
  simp only [map, put, List.map_map]
  apply List.map_congr_left
  intro record _
  by_cases h : record.id = id <;> simp [Record.map, h]

theorem map_congr {f g : α → β} {r : Registry α}
    (h : ∀ record ∈ r.records, f record.content = g record.content) : r.map f = r.map g := by
  refine ext_of_records rfl (List.map_congr_left ?_)
  intro record hmem
  simp [Record.map, h record hmem]

/-- A change of all contents that touches those of one record alone puts something else into that
record. -/
theorem map_eq_put {f g : α → β} {r : Registry α} {record : Record α} {content : β}
    (mem : record ∈ r.records) (new : f record.content = content)
    (others : ∀ other ∈ r.records, other.id ≠ record.id → f other.content = g other.content) :
    r.map f = (r.map g).put record.id content := by
  refine ext_of_records rfl ?_
  simp only [map, put, List.map_map]
  apply List.map_congr_left
  intro other hmem
  by_cases h : other.id = record.id
  · obtain rfl := eq_of_id_eq hmem mem h
    simp [Record.map, new]
  · simp [Record.map, h, others other hmem h]

/-! ## Putting into a record -/

theorem find?_put (r : Registry α) (id other : String) (content : α) :
    (r.put id content).find? other =
      if other = id then (r.find? id).map fun record => { record with content }
      else r.find? other := by
  simp only [find?, put, List.find?_map]
  have same : ((fun record : Record α => decide (record.id = other)) ∘ fun record : Record α =>
      if record.id = id then { record with content } else record)
      = fun record => decide (record.id = other) := by
    funext record
    by_cases h : record.id = id <;> simp [h]
  rw [same]
  by_cases ho : other = id
  · subst ho
    cases hfind : r.records.find? (fun record => decide (record.id = other)) with
    | none => simp
    | some record =>
        have hid : record.id = other := by simpa using List.find?_some hfind
        simp [hid]
  · cases hfind : r.records.find? (fun record => decide (record.id = other)) with
    | none => simp [ho]
    | some record =>
        have hid : record.id = other := by simpa using List.find?_some hfind
        simp [hid, ho]

/-- Putting back what a record holds changes nothing. -/
theorem put_content {r : Registry α} {id : String} {record : Record α}
    (h : r.find? id = some record) : r.put id record.content = r := by
  refine ext_of_records rfl (Eq.trans (List.map_congr_left ?_) (List.map_id r.records))
  intro other hmem
  by_cases hid : other.id = id
  · obtain rfl := eq_of_id_eq hmem (mem_of_find? h) (hid.trans (id_of_find? h).symm)
    exact if_pos hid
  · exact if_neg hid

@[simp] theorem ids_put (r : Registry α) (id : String) (content : α) :
    (r.put id content).ids = r.ids := by
  simp only [ids, put, List.map_map]
  apply List.map_congr_left
  intro record _
  by_cases h : record.id = id <;> simp [h]

theorem mem_ids_of_keep {r : Registry α} {p : Record α → Bool} {id : String}
    (h : id ∈ (r.keep p).ids) : id ∈ r.ids := by
  obtain ⟨record, hmem, rfl⟩ := List.mem_map.mp h
  exact List.mem_map_of_mem (List.mem_filter.mp hmem).1

theorem mem_ids_delete {r : Registry α} {gone id : String} :
    id ∈ (r.delete gone).ids ↔ id ∈ r.ids ∧ id ≠ gone := by
  simp only [ids, delete, keep, List.mem_map, List.mem_filter, decide_eq_true_eq]
  constructor
  · rintro ⟨record, ⟨hmem, hne⟩, rfl⟩
    exact ⟨⟨record, hmem, rfl⟩, hne⟩
  · rintro ⟨⟨record, hmem, rfl⟩, hne⟩
    exact ⟨record, ⟨hmem, hne⟩, rfl⟩

/-- An id that is not in use stands for nothing. -/
theorem live?_eq_none_of_not_mem {r : Registry α} {id : String} (h : id ∉ r.ids) (now : Int) :
    r.live? now id = none := by
  cases hlive : r.live? now id with
  | none => rfl
  | some record =>
      obtain ⟨hfind, -⟩ := live?_eq_some_iff.mp hlive
      exact absurd (List.mem_map.mpr ⟨record, mem_of_find? hfind, id_of_find? hfind⟩) h

/-! ## What is alive -/

theorem live?_add (r : Registry α) (record : Record α) (unused : record.id ∉ r.ids) (now : Int)
    (id : String) :
    (r.add record unused).live? now id =
      if record.id = id then (some record).filter fun record => !record.expired r.lifetime now
      else r.live? now id := by
  simp only [live?, find?_add]
  split <;> rfl

theorem live?_delete (r : Registry α) (gone : String) (now : Int) (id : String) :
    (r.delete gone).live? now id = if id = gone then none else r.live? now id := by
  simp only [live?, delete, find?_keep]
  cases hfind : r.find? id with
  | none => simp
  | some record =>
      have hid : record.id = id := id_of_find? hfind
      by_cases hgone : id = gone
      · simp [hid, hgone, Option.filter]
      · simp [hid, hgone, Option.filter, keep]

theorem live?_put (r : Registry α) (id : String) (content : α) (now : Int) (other : String) :
    (r.put id content).live? now other =
      if other = id then (r.live? now id).map fun record => { record with content }
      else r.live? now other := by
  simp only [live?, find?_put]
  split
  · cases r.find? id with
    | none => rfl
    | some record =>
        by_cases h : record.expired r.lifetime now = true <;>
          simp_all [Option.filter, Record.expired, put]
  · rfl

/-- A sweep does not show at any later time. -/
theorem live?_sweep_of_le (r : Registry α) {read now : Int} (h : read ≤ now) (id : String) :
    (r.sweep read).live? now id = r.live? now id := by
  simp only [live?, sweep, find?_keep]
  cases hfind : r.find? id with
  | none => rfl
  | some record =>
      cases hread : record.expired r.lifetime read with
      | true => simp [Option.filter, hread, Record.expired_of_le hread h]
      | false => simp [Option.filter, hread, keep]

/-! ## Registries that cannot be told apart -/

/-- From this time on the id stands for the same in both registries: for the same live record, or for
none. -/
structure AgreeOn (now : Int) (id : String) (r s : Registry α) : Prop where
  lifetime : r.lifetime = s.lifetime
  live : ∀ later, now ≤ later → r.live? later id = s.live? later id

namespace AgreeOn

variable {now : Int} {id : String} {r s t : Registry α}

theorem refl (now : Int) (id : String) (r : Registry α) : r.AgreeOn now id r := ⟨rfl, fun _ _ => rfl⟩

theorem mono (h : r.AgreeOn now id s) {later : Int} (hle : now ≤ later) : r.AgreeOn later id s :=
  ⟨h.lifetime, fun time htime => h.live time (Int.le_trans hle htime)⟩

theorem trans (h : r.AgreeOn now id s) (h' : s.AgreeOn now id t) : r.AgreeOn now id t :=
  ⟨h.lifetime.trans h'.lifetime, fun time htime => (h.live time htime).trans (h'.live time htime)⟩

theorem add (h : r.AgreeOn now id s) (record : Record α) (hr : record.id ∉ r.ids)
    (hs : record.id ∉ s.ids) : (r.add record hr).AgreeOn now id (s.add record hs) := by
  refine ⟨h.lifetime, fun later hlater => ?_⟩
  rw [live?_add, live?_add, h.live later hlater, h.lifetime]

theorem delete (h : r.AgreeOn now id s) (gone : String) :
    (r.delete gone).AgreeOn now id (s.delete gone) := by
  refine ⟨h.lifetime, fun later hlater => ?_⟩
  rw [live?_delete, live?_delete, h.live later hlater]

theorem put (h : r.AgreeOn now id s) (changed : String) (content : α) :
    (r.put changed content).AgreeOn now id (s.put changed content) := by
  refine ⟨h.lifetime, fun later hlater => ?_⟩
  rw [live?_put, live?_put]
  split
  · rename_i hid
    rw [← hid, h.live later hlater]
  · exact h.live later hlater

end AgreeOn

/-- Adding a record shows on its own id alone. -/
theorem agreeOn_add (r : Registry α) {record : Record α} (unused : record.id ∉ r.ids) {id : String}
    (other : record.id ≠ id) (now : Int) : (r.add record unused).AgreeOn now id r := by
  refine ⟨rfl, fun later _ => ?_⟩
  rw [live?_add, if_neg other]

/-- Removing a record shows on its own id alone. -/
theorem agreeOn_delete (r : Registry α) {gone id : String} (other : id ≠ gone) (now : Int) :
    (r.delete gone).AgreeOn now id r := by
  refine ⟨rfl, fun later _ => ?_⟩
  rw [live?_delete, if_neg other]

/-- What is put into a record shows on its own id alone. -/
theorem agreeOn_put (r : Registry α) {changed id : String} (other : id ≠ changed) (content : α)
    (now : Int) : (r.put changed content).AgreeOn now id r := by
  refine ⟨rfl, fun later _ => ?_⟩
  rw [live?_put, if_neg other]

/-- A sweep does not show from its time on. -/
theorem agreeOn_sweep (r : Registry α) (read : Int) (id : String) :
    (r.sweep read).AgreeOn read id r := ⟨rfl, fun _ hle => live?_sweep_of_le r hle id⟩

/-- The registry has no more ids in use than the other, and from this time on none of them tells the two
apart: what it lacks has outlived its time. -/
structure Within (now : Int) (r s : Registry α) : Prop where
  agree : ∀ id, r.AgreeOn now id s
  ids : ∀ id ∈ r.ids, id ∈ s.ids

namespace Within

variable {now : Int} {r s : Registry α}

theorem refl (now : Int) (r : Registry α) : r.Within now r := ⟨fun id => .refl now id r, fun _ h => h⟩

theorem mono (h : r.Within now s) {later : Int} (hle : now ≤ later) : r.Within later s :=
  ⟨fun id => (h.agree id).mono hle, h.ids⟩

theorem add (h : r.Within now s) (record : Record α) (hr : record.id ∉ r.ids)
    (hs : record.id ∉ s.ids) : (r.add record hr).Within now (s.add record hs) := by
  refine ⟨fun id => (h.agree id).add record hr hs, fun id hmem => ?_⟩
  rcases List.mem_cons.mp hmem with rfl | hold
  · exact List.mem_cons_self
  · exact List.mem_cons_of_mem _ (h.ids id hold)

theorem delete (h : r.Within now s) (gone : String) :
    (r.delete gone).Within now (s.delete gone) := by
  refine ⟨fun id => (h.agree id).delete gone, fun id hmem => ?_⟩
  obtain ⟨hold, hne⟩ := mem_ids_delete.mp hmem
  exact mem_ids_delete.mpr ⟨h.ids id hold, hne⟩

theorem put (h : r.Within now s) (id : String) (content : α) :
    (r.put id content).Within now (s.put id content) := by
  refine ⟨fun other => (h.agree other).put id content, ?_⟩
  rw [ids_put, ids_put]
  exact h.ids

/-- A sweep of the one registry makes no difference from its time on. -/
theorem sweep (h : r.Within now s) {read : Int} (hle : read ≤ now) : (r.sweep read).Within now s :=
  ⟨fun id => ((r.agreeOn_sweep read id).mono hle).trans (h.agree id),
    fun id hmem => h.ids id (mem_ids_of_keep hmem)⟩

end Within

end Registry

end DocumentCard.Session
