import DocumentCard.Pdf.Object
import DocumentCard.Pdf.Fault
import Std.Data.TreeMap.Lemmas
set_option autoImplicit false

/-!
# Documents

A document is a trailer and objects by number.  References are followed from object to object, and a
chain of references may have only so many steps.

Main statement: objects that are put in order are found as before (`Objects.get?_ordered`).
-/

namespace DocumentCard.Pdf

/-- Objects by number. -/
abbrev Objects : Type := List (ObjId × Obj)

namespace Objects

/-- The object with the given number and generation. -/
def get? (os : Objects) (id : ObjId) : Option Obj := (os.find? fun (i, _) => i = id).map Prod.snd

/-- Enters an object in its place; one that is there gives way. -/
def insert (os : Objects) (id : ObjId) (o : Obj) : Objects :=
  match os with
  | [] => [(id, o)]
  | (i, p) :: rest =>
      if i = id then (id, o) :: rest
      else if id.before i then (id, o) :: (i, p) :: rest
      else (i, p) :: insert rest id o

theorem get?_cons (os : Objects) (id other : ObjId) (o : Obj) :
    get? ((id, o) :: os) other = if other = id then some o else os.get? other := by
  by_cases h : id = other
  · simp [get?, h]
  · simp [get?, h, Ne.symm h]

/-- Objects in a tree; of two with one number the first counts. -/
def tree (os : Objects) : Std.TreeMap ObjId Obj ObjId.order :=
  os.foldr (fun (id, o) t => t.insert id o) ∅

theorem getElem?_tree (os : Objects) (id : ObjId) : os.tree[id]? = os.get? id := by
  induction os with
  | nil => simp [tree, get?]
  | cons e rest ih =>
      obtain ⟨i, o⟩ := e
      have step : tree ((i, o) :: rest) = (tree rest).insert i o := rfl
      rw [step, get?_cons, Std.TreeMap.getElem?_insert, ih]
      by_cases h : id = i
      · simp [h]
      · simp [h, Ne.symm h]

/-- Objects in ascending order; of two with one number the first counts. -/
def ordered (os : Objects) : Objects := os.tree.toList

theorem get?_ordered (os : Objects) (id : ObjId) : os.ordered.get? id = os.get? id := by
  rw [← getElem?_tree os]
  unfold get? ordered
  cases found : os.tree.toList.find? fun (i, _) => i = id with
  | none =>
      rw [List.find?_eq_none] at found
      rw [Option.map_none, eq_comm, Option.eq_none_iff_forall_ne_some]
      intro o ho
      exact found (id, o) (Std.TreeMap.mem_toList_iff_getElem?_eq_some.mpr ho) (decide_eq_true rfl)
  | some e =>
      have there := Std.TreeMap.mem_toList_iff_getElem?_eq_some.mp (List.mem_of_find?_eq_some found)
      have same := List.find?_some (p := fun e : ObjId × Obj => decide (e.1 = id)) found
      rw [Option.map_some, ← there, of_decide_eq_true same]

end Objects

/-- A document. -/
structure Document where
  version : String
  trailer : Dict
  objects : Objects
  deriving Inhabited

/-- How many references may follow each other. -/
def referenceLimit : Nat := 128

/-- Follows references; `steps` more may be taken. -/
def Objects.follow (os : Objects) (steps : Nat) (o : Obj) : Except Fault Obj :=
  match o with
  | .ref id =>
      match os.get? id with
      | none => .error .objectMissing
      | some target =>
          match steps with
          | 0 => .error .endlessReferences
          | left + 1 => follow os left target
  | o => .ok o

namespace Document

/-- The object that a value stands for: itself, or what a chain of references leads to. -/
def resolve (doc : Document) (o : Obj) : Except Fault Obj := doc.objects.follow referenceLimit o

/-- The object with the given number, references followed. -/
def object (doc : Document) (id : ObjId) : Except Fault Obj :=
  match doc.objects.get? id with
  | none => .error .objectMissing
  | some o => doc.resolve o

/-- The dictionary with the given number, references followed. -/
def dictionary (doc : Document) (id : ObjId) : Except Fault Dict := do
  match (← doc.object id).dict? with
  | some d => return d
  | none => throw .wrongType

/-- The catalog, which the trailer refers to. -/
def catalog (doc : Document) : Except Fault Dict :=
  match doc.trailer.get? "Root" with
  | none => .error .keyMissing
  | some (.ref id) => doc.dictionary id
  | some _ => .error .wrongType

end Document

end DocumentCard.Pdf
