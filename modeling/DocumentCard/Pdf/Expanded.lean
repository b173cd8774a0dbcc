import DocumentCard.Pdf.Document
set_option autoImplicit false

/-!
# Objects with their references followed

For looking at a document, an object is shown with every reference replaced by what it leads to.  A
reference that leads nowhere, and one that leads back to an object that is being shown, are marked.

No card is made or read by this.  It is there for those who compare cards: two documents whose objects have
other numbers show the same when they say the same, so a card can be looked at without its numbers.
-/

namespace DocumentCard.Pdf

/-- An object without references. -/
inductive Expanded where
  | null
  | bool (b : Bool)
  | int (i : Int)
  | real (x : Single)
  | name (n : String)
  | str (bytes : Bytes)
  | arr (items : List Expanded)
  | dict (entries : List (String × Expanded))
  | stream (entries : List (String × Expanded)) (data : Bytes)
  /-- the reference leads nowhere -/
  | missing
  /-- the reference leads back -/
  | cycle
  deriving Inhabited

mutual

/-- An object with its references replaced. -/
def Obj.expandedBy (target : ObjId → Expanded) : Obj → Expanded
  | .null => .null
  | .bool b => .bool b
  | .int i => .int i
  | .real x => .real x
  | .name n => .name n
  | .str bytes _ => .str bytes
  | .arr items => .arr (expandedItems target items)
  | .dict d => .dict (expandedEntries target d)
  | .stream d data => .stream (expandedEntries target d) data
  | .ref id => target id

/-- The items of an array with their references replaced. -/
def expandedItems (target : ObjId → Expanded) : List Obj → List Expanded
  | [] => []
  | o :: rest => o.expandedBy target :: expandedItems target rest

/-- The entries of a dictionary with their references replaced. -/
def expandedEntries (target : ObjId → Expanded) : List (String × Obj) → List (String × Expanded)
  | [] => []
  | (k, o) :: rest => (k, o.expandedBy target) :: expandedEntries target rest

end

/-- What a reference leads to; `path` holds the references that are being followed, and `depth` more
may be. -/
def Objects.expandedRef (os : Objects) (path : List ObjId) : Nat → ObjId → Expanded
  | 0, _ => .cycle
  | depth + 1, id =>
      if id ∈ path then .cycle
      else
        match os.get? id with
        | none => .missing
        | some o => o.expandedBy (os.expandedRef (id :: path) depth)

/-- An object with its references followed. -/
def Document.expanded (doc : Document) (o : Obj) : Expanded :=
  o.expandedBy (doc.objects.expandedRef [] (doc.objects.length + 1))

end DocumentCard.Pdf
