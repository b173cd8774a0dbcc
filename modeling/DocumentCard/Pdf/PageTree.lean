import DocumentCard.Pdf.Document
import DocumentCard.Pdf.Filter
set_option autoImplicit false

/-!
# Pages

The pages of a document hang in a tree below its catalog.  A page finds what it lacks at the nodes
above it (`Document.inherited`), and its content may be spread over several streams.  Neither the
tree nor the chain of nodes above a page has to be sound: both are walked only so far.
-/

namespace DocumentCard.Pdf

namespace Document

/-- The nodes below a node. -/
def kids (doc : Document) (id : ObjId) : List Obj :=
  match doc.dictionary id with
  | .ok d => ((d.get? "Kids").bind Obj.arr?).getD []
  | .error _ => []

/-- How deep a page may hang. -/
def treeLimit : Nat := 256

/-- Walks a tree; `stack` holds the nodes still to be visited on each level, the innermost first, and
no more nodes are visited than the number given. -/
def pagesFrom (doc : Document) : Nat → List (List Obj) → List ObjId
  | 0, _ => []
  | visits + 1, stack =>
      match stack.dropWhile List.isEmpty with
      | (kid :: rest) :: outer =>
          let next := rest :: outer
          match kid with
          | .ref id =>
              match (doc.dictionary id).toOption.bind Dict.type? with
              | some "Page" => id :: pagesFrom doc visits next
              | some "Pages" =>
                  if outer.length < treeLimit then
                    let outer := if rest.isEmpty then outer else next
                    pagesFrom doc visits (doc.kids id :: outer)
                  else pagesFrom doc visits next
              | _ => pagesFrom doc visits next
          | _ => pagesFrom doc visits next
      | _ => []

/-- The pages in order. -/
def pages (doc : Document) : List ObjId :=
  match doc.catalog.toOption.bind (·.get? "Pages") with
  | some (.ref root) => doc.pagesFrom doc.objects.length [doc.kids root]
  | _ => []

/-- The streams that a page's content consists of; `steps` more references may be followed. -/
def contentIds (doc : Document) (steps : Nat) (o : Obj) : List ObjId :=
  match o with
  | .ref id =>
      match doc.objects.get? id with
      | none => [id]
      | some (.stream _ _) => [id]
      | some target =>
          match steps with
          | 0 => []
          | left + 1 => contentIds doc left target
  | .arr items => items.filterMap Obj.ref?
  | _ => []

/-- The data of one stream of a page's content. -/
def contentPart (doc : Document) (id : ObjId) : Bytes :=
  match doc.object id with
  | .ok (.stream d data) => (Filter.decode d data).toOption.getD data
  | _ => []

/-- The streams of a page's content. -/
def contentStreams (doc : Document) (id : ObjId) : List ObjId :=
  match (doc.dictionary id).toOption.bind (·.get? "Contents") with
  | some o => doc.contentIds (referenceLimit - 1) o
  | none => []

/-- The content of a page. -/
def pageContent (doc : Document) (id : ObjId) : Bytes :=
  (doc.contentStreams id).flatMap doc.contentPart

/-- Whether the content of a page cannot be read for a row that no memory holds. -/
def contentBreaksDown (doc : Document) (id : ObjId) : Bool :=
  (doc.contentStreams id).any fun id =>
    match doc.object id with
    | .ok (.stream d data) => Filter.breaksDown d data
    | _ => false

/-- How many nodes of a chain are asked for an attribute. -/
def chainLimit : Nat := 64

/-- The node above a node. -/
def parent? (doc : Document) (node : Dict) : Option Dict :=
  match node.get? "Parent" with
  | some (.ref id) => (doc.dictionary id).toOption
  | _ => none

/-- The value of an attribute at the first of `nodes` nodes of a chain that has it. -/
def inheritedFrom (doc : Document) (key : String) : Nat → Dict → Option Obj
  | 0, _ => none
  | nodes + 1, node =>
      match node.get? key with
      | some value => some value
      | none => (doc.parent? node).bind (inheritedFrom doc key nodes)

/-- The value of an attribute of a page. -/
def inherited (doc : Document) (page : ObjId) (key : String) : Option Obj :=
  (doc.dictionary page).toOption.bind (doc.inheritedFrom key chainLimit)

end Document

end DocumentCard.Pdf
