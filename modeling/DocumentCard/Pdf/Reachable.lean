import DocumentCard.Pdf.Document
import Std.Data.TreeSet.Lemmas
set_option autoImplicit false

/-!
# What can be reached

An object belongs to a document when references lead to it from the trailer.  The others are dropped
before a document is written (`Document.pruned`).  When a document is taken into another one, its
objects get new numbers and the references are changed with them (`Document.renumbered`); a reference
that leads nowhere keeps its number.
-/

namespace DocumentCard.Pdf

mutual

/-- The references that an object holds. -/
def Obj.refs : Obj → List ObjId
  | .ref id => [id]
  | .arr items => refsOfItems items
  | .dict d => refsOfEntries d
  | .stream d _ => refsOfEntries d
  | _ => []

/-- The references that the items of an array hold. -/
def refsOfItems : List Obj → List ObjId
  | [] => []
  | o :: rest => o.refs ++ refsOfItems rest

/-- The references that the entries of a dictionary hold. -/
def refsOfEntries : List (String × Obj) → List ObjId
  | [] => []
  | (_, o) :: rest => o.refs ++ refsOfEntries rest

end

mutual

/-- An object with its references changed. -/
def Obj.renamed (f : ObjId → ObjId) : Obj → Obj
  | .ref id => .ref (f id)
  | .arr items => .arr (renamedItems f items)
  | .dict d => .dict (renamedEntries f d)
  | .stream d data => .stream (renamedEntries f d) data
  | o => o

/-- The items of an array with their references changed. -/
def renamedItems (f : ObjId → ObjId) : List Obj → List Obj
  | [] => []
  | o :: rest => o.renamed f :: renamedItems f rest

/-- The entries of a dictionary with their references changed. -/
def renamedEntries (f : ObjId → ObjId) : List (String × Obj) → List (String × Obj)
  | [] => []
  | (k, o) :: rest => (k, o.renamed f) :: renamedEntries f rest

end

/-- A set of objects by number. -/
abbrev ObjIds : Type := Std.TreeSet ObjId ObjId.order

theorem ObjIds.mem_insert {ids : ObjIds} {id other : ObjId} :
    other ∈ ids.insert id ↔ other = id ∨ other ∈ ids := by
  rw [Std.TreeSet.mem_insert, Std.LawfulEqCmp.compare_eq_iff_eq, eq_comm]

/-- Follows references from the pending ones on; `seen` holds those already followed. -/
def reachFrom (targets : ObjId → List ObjId) (seen : ObjIds) : Nat → List ObjId → ObjIds
  | 0, _ => seen
  | _ + 1, [] => seen
  | fuel + 1, id :: pending =>
      if id ∈ seen then reachFrom targets seen fuel pending
      else reachFrom targets (seen.insert id) fuel (targets id ++ pending)

/-- All that references lead to from the given ones, when `targets` gives the references of an
object. -/
def Objects.reach (os : Objects) (targets : Obj → List ObjId) (start : List ObjId) : ObjIds :=
  let tree := os.tree
  let targetsOf (id : ObjId) : List ObjId := (tree[id]?.map targets).getD []
  let total := os.foldl (fun n (_, o) => n + (targets o).length) start.length
  reachFrom targetsOf ∅ (total + 1) start

namespace Document

/-- The document without the objects to which nothing leads. -/
def pruned (doc : Document) : Document :=
  let kept := doc.objects.reach Obj.refs (refsOfEntries doc.trailer)
  { doc with objects := doc.objects.filter fun (id, _) => id ∈ kept }

/-- The new number of an object when the objects are numbered from `start` on, in their order; what
is no object keeps its number. -/
def newId (doc : Document) (start : Nat) (id : ObjId) : ObjId :=
  match doc.objects.findIdx? fun (i, _) => i = id with
  | some k => ⟨start + k, id.gen⟩
  | none => id

/-- The document with its objects numbered from `start` on.  The references of objects to which
nothing leads are left as they are. -/
def renumbered (doc : Document) (start : Nat) : Document :=
  let f := doc.newId start
  let moved : Objects := doc.objects.zipIdx.map fun ((id, o), k) => (⟨start + k, id.gen⟩, o)
  let reached := moved.reach (fun o => o.refs.map f) ((refsOfEntries doc.trailer).map f)
  { doc with
    trailer := renamedEntries f doc.trailer
    objects := moved.map fun (id, o) => (id, if id ∈ reached then o.renamed f else o) }

end Document

end DocumentCard.Pdf
