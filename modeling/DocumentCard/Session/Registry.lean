import DocumentCard.Session.Fault
import DocumentCard.Session.IdSupply
set_option autoImplicit false

/-!
# The registry of sessions

Sessions are kept under their ids.  A session lives for a fixed time from its creation, however it is
used: a record that has outlived its time counts as absent, whether it has been swept out yet or not
(`live?`).  If the clock has gone back behind the creation of a record, the record is not old.

What a record holds is left open: here it matters only that it stays with its id.  No two records
have one id.
-/

namespace DocumentCard.Session

/-- A session's record. -/
structure Record (α : Type) where
  id : String
  /-- when the session was created -/
  created : Int
  content : α
  deriving DecidableEq, Repr

/-- Whether a record has outlived its time. -/
def Record.expired {α : Type} (lifetime : Nat) (now : Int) (r : Record α) : Bool :=
  (lifetime : Int) < now - r.created

/-- The records of all sessions. -/
structure Registry (α : Type) where
  /-- for how many milliseconds a session lives -/
  lifetime : Nat
  records : List (Record α)
  nodup : (records.map (·.id)).Nodup

namespace Registry

variable {α β : Type}

/-- The time for which sessions live: half an hour. -/
def halfHour : Nat := 30 * 60 * 1000

/-- A registry without records. -/
def empty (lifetime : Nat) : Registry α := ⟨lifetime, [], List.nodup_nil⟩

/-- The number of records, expired ones included. -/
def size (r : Registry α) : Nat := r.records.length

/-- The ids in use. -/
def ids (r : Registry α) : List String := r.records.map (·.id)

/-- The record of an id, expired or not. -/
def find? (r : Registry α) (id : String) : Option (Record α) :=
  r.records.find? fun record => record.id = id

/-- The record of an id, unless it has outlived its time. -/
def live? (r : Registry α) (now : Int) (id : String) : Option (Record α) :=
  (r.find? id).filter fun record => !record.expired r.lifetime now

/-- The registry with only those records that pass a test. -/
def keep (r : Registry α) (p : Record α → Bool) : Registry α :=
  ⟨r.lifetime, r.records.filter p, r.nodup.sublist (List.filter_sublist.map _)⟩

/-- Adds a record under an id that is not in use. -/
def add (r : Registry α) (record : Record α) (unused : record.id ∉ r.ids) : Registry α :=
  ⟨r.lifetime, record :: r.records, List.nodup_cons.mpr ⟨unused, r.nodup⟩⟩

/-- Adds a session under a fresh id, and tells the id. -/
def create (r : Registry α) (now : Int) (supply : IdSupply) (content : α) : String × Registry α :=
  (supply.fresh r.ids, r.add ⟨supply.fresh r.ids, now, content⟩ (supply.fresh_not_mem r.ids))

/-- Removes the record of an id, if there is one. -/
def delete (r : Registry α) (id : String) : Registry α := r.keep fun record => record.id ≠ id

/-- Removes the records that have outlived their time. -/
def sweep (r : Registry α) (now : Int) : Registry α :=
  r.keep fun record => !record.expired r.lifetime now

/-- Puts something else into the record of an id. -/
def put (r : Registry α) (id : String) (content : α) : Registry α :=
  let after (record : Record α) : Record α :=
    if record.id = id then { record with content } else record
  have same (record : Record α) : (after record).id = record.id := by
    simp only [after]
    split <;> rfl
  ⟨r.lifetime, r.records.map after, by
    have : (r.records.map after).map (·.id) = r.records.map (·.id) := by
      simp [List.map_map, Function.comp_def, same]
    exact this ▸ r.nodup⟩

/-! ## Looking a record up -/

theorem find?_keep (r : Registry α) (p : Record α → Bool) (id : String) :
    (r.keep p).find? id = (r.find? id).filter p := by
  unfold find? keep
  have go : ∀ l : List (Record α), (l.map (·.id)).Nodup →
      (l.filter p).find? (fun record => decide (record.id = id))
        = (l.find? fun record => decide (record.id = id)).filter p := by
    intro l hl
    induction l with
    | nil => rfl
    | cons a rest ih =>
        rw [List.map_cons, List.nodup_cons] at hl
        have ih := ih hl.2
        by_cases ha : a.id = id
        · by_cases hp : p a = true
          · simp [hp, ha, Option.filter]
          · have none_left : rest.find? (fun record => decide (record.id = id)) = none := by
              rw [List.find?_eq_none]
              intro x hx e
              have e : x.id = id := by simpa using e
              exact hl.1 (List.mem_map.mpr ⟨x, hx, e.trans ha.symm⟩)
            simp only [Bool.not_eq_true] at hp
            rw [none_left] at ih
            simp [hp, ha, Option.filter, ih]
        · by_cases hp : p a = true
          · simp [hp, ha, ih]
          · simp only [Bool.not_eq_true] at hp
            simp [hp, ha, ih]
  exact go r.records r.nodup

theorem id_of_find? {r : Registry α} {id : String} {record : Record α}
    (h : r.find? id = some record) : record.id = id := by
  have := List.find?_some h
  simpa using this

theorem find?_add (r : Registry α) (record : Record α) (unused : record.id ∉ r.ids)
    (id : String) :
    (r.add record unused).find? id = if record.id = id then some record else r.find? id := by
  unfold add find?
  by_cases h : record.id = id <;> simp [h]

end Registry

end DocumentCard.Session
