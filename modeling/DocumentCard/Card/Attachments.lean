import DocumentCard.Card.Descriptor
import DocumentCard.Card.Fault
import DocumentCard.Pdf.Load
import DocumentCard.Pdf.TextString
set_option autoImplicit false

/-!
# The files attached to a card

The files attached to a document are listed in a tree of names: a node holds pairs of a key and a
file's description, and nodes below it.  Tree and pairs may be reached by references everywhere, and
nothing but its depth keeps a tree from being endless.  The files are taken in the order of their
keys; of two with one key the one found first comes first.
-/

namespace DocumentCard.Card.Attachments

open Pdf (Document Dict Obj)

/-- A key with the description of a file. -/
structure Entry where
  key : Bytes
  file : Dict

/-- The order of keys: byte by byte, a shorter one before its extensions. -/
def keyLE : Bytes → Bytes → Bool
  | [], _ => true
  | _ :: _, [] => false
  | a :: as, b :: bs => if a = b then keyLE as bs else a.toNat < b.toNat

/-- The tree may have so many levels. -/
def levelLimit : Nat := 33

/-- A tree with too many levels. -/
def tooDeep : Fault := .malformed "embedded files tree is too deep"

/-- A node whose last key has no file. -/
def oddPairs : Fault := .malformed "embedded files tree has an odd number of entries"

/-- A description without a file. -/
def noStream (name : String) : Fault :=
  .malformed ("attachment '" ++ name ++ "' has no file stream")

/-- An object of another kind than is needed. -/
def wrongType : Fault := .pdf .wrongType

/-- The object that a value stands for. -/
def resolve (doc : Document) (o : Obj) : Except Fault Obj := (doc.resolve o).mapError .pdf

/-- What a value stands for, seen as one kind of object. -/
def resolveAs {α : Type} (view : Obj → Option α) (doc : Document) (o : Obj) : Except Fault α :=
  match resolve doc o with
  | .error e => .error e
  | .ok target =>
      match view target with
      | some x => .ok x
      | none => .error wrongType

/-- The pairs of a node. -/
def pairs (doc : Document) : List Obj → Except Fault (List Entry)
  | [] => .ok []
  | [_] => .error oddPairs
  | key :: file :: rest => do
      let key ← resolveAs Obj.str? doc key
      let file ← resolveAs Obj.dict? doc file
      return ⟨key, file⟩ :: (← pairs doc rest)

/-- The items of an array that a node may have. -/
def itemsOf (doc : Document) (node : Dict) (key : String) : Except Fault (List Obj) :=
  match node.get? key with
  | none => .ok []
  | some o => resolveAs Obj.arr? doc o

/-- The entries of a node and of all nodes below it, a node's own before those below; there may be
so many levels, this one included. -/
def entries (doc : Document) : Nat → Dict → Except Fault (List Entry)
  | 0, _ => .error tooDeep
  | levels + 1, node => do
      let own ← pairs doc (← itemsOf doc node "Names")
      let below ← (← itemsOf doc node "Kids").mapM fun kid => do
        entries doc levels (← resolveAs Obj.dict? doc kid)
      return own ++ below.flatten

/-- The value of the first key that is there. -/
def firstOf (d : Dict) (keys : List String) : Option Obj := keys.findSome? d.get?

/-- The name of a file; one that cannot be read is empty. -/
def nameOf (doc : Document) (file : Dict) : String :=
  let bytes := (firstOf file ["UF", "F"]).bind fun o => (resolveAs Obj.str? doc o).toOption
  String.ofList ((bytes.map Pdf.TextString.decode).getD [])

/-- The file of a description. -/
def attachment (doc : Document) (file : Dict) : Except Fault Attachment := do
  let name := nameOf doc file
  let some streams := file.get? "EF" | throw (noStream name)
  let streams ← resolveAs Obj.dict? doc streams
  let some stream := firstOf streams ["UF", "F"] | throw (noStream name)
  let (d, data) ← resolveAs Obj.stream? doc stream
  let bytes ← if d.has "Filter" then (Pdf.Filter.decode d data).mapError .pdf else pure data
  return { name, bytes }

/-- The root of the tree, if the document has one. -/
def root? (doc : Document) : Except Fault (Option Dict) := do
  let catalog ← doc.catalog.mapError .pdf
  let some names := catalog.get? "Names" | return none
  let names ← resolveAs Obj.dict? doc names
  let some tree := names.get? "EmbeddedFiles" | return none
  return some (← resolveAs Obj.dict? doc tree)

/-- The files attached to a document, in the order of their keys. -/
def ofDocument (doc : Document) : Except Fault (List Attachment) := do
  let some root ← root? doc | return []
  let found ← entries doc levelLimit root
  (found.mergeSort fun a b => keyLE a.key b.key).mapM fun e => attachment doc e.file

/-- The files attached to a document that is given as a file. -/
def ofFile (file : Bytes) : Except Fault (List Attachment) := do
  ofDocument (← (Pdf.load file).mapError .pdf)

end DocumentCard.Card.Attachments
