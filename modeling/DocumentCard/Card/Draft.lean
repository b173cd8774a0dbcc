import DocumentCard.Card.Sections
import DocumentCard.Pdf.Load
import DocumentCard.Pdf.PageTree
import DocumentCard.Pdf.Reachable
import DocumentCard.Pdf.TextString
set_option autoImplicit false

/-!
# Putting a card together

A draft is a document in the making: objects get numbers in the order in which they are added.  The
first numbers go to the page tree, the fonts, and the dictionary of fonts; then come the objects of
the document whose pages are shown, the pages, and the attachments.

Attachments are keyed by their position, with leading zeros to four digits, so that readers list
them in order.
-/

namespace DocumentCard.Card

open Page (Draw Font)
open Pdf (Obj ObjId Dict Objects Document)

/-- Objects that have been added, not yet in order, and the greatest number in use. -/
structure Draft where
  objects : Objects
  last : Nat

namespace Draft

/-- The number of the next object. -/
def next (d : Draft) : ObjId := ⟨d.last + 1, 0⟩

/-- Adds an object, with the next number. -/
def add (d : Draft) (o : Obj) : Draft := ⟨(d.next, o) :: d.objects, d.last + 1⟩

/-- The object that holds the page tree. -/
def pagesId : ObjId := ⟨1, 0⟩

/-- The object of a font. -/
def fontObj (f : Font) : Obj :=
  .dict [("Type", .name "Font"), ("Subtype", .name "Type1"), ("BaseFont", .name f.face),
    ("Encoding", .name "WinAnsiEncoding")]

/-- The objects of the fonts, numbered after the page tree. -/
def fontIds : List (Font × ObjId) := Font.all.zipIdx.map fun (f, k) => (f, ⟨k + 2, 0⟩)

/-- The object that holds the dictionary of fonts. -/
def fontsId : ObjId := ⟨5, 0⟩

/-- A card with fonts and nothing else; the page tree comes last and has its number already. -/
def empty : Draft :=
  let fonts := fontIds.map fun (f, id) => (id, fontObj f)
  let names := fontIds.map fun (f, id) => (f.resource, Obj.ref id)
  ⟨fonts ++ [(fontsId, .dict names)], 5⟩

/-! ## Pages of the document -/

/-- A page of the document, taken into the card as a form. -/
structure Form where
  id : ObjId
  box : Box

/-- A number of a box. -/
def number? : Obj → Option Single
  | .int i => some (Single.ofInt i)
  | .real x => some x
  | _ => none

/-- The box of an array of four numbers, whatever their order. -/
def box? (o : Obj) : Option Box := do
  match (← o.arr?) with
  | [a, b, c, d] =>
      let (a, b, c, d) := (← number? a, ← number? b, ← number? c, ← number? d)
      some ⟨Single.least a c, Single.least b d, Single.greatest a c, Single.greatest b d⟩
  | _ => none

/-- A box in whole points. -/
def boxObj (b : Box) : Obj :=
  .arr ([b.left, b.lower, b.right, b.upper].map fun x => .int x.rounded)

/-- The box of a page of a document. -/
def pageBox (doc : Document) (page : ObjId) : Box :=
  let found := (doc.inherited page "MediaBox").bind fun o => (doc.resolve o).toOption
  (found.bind box?).getD Box.page

/-- A page of a document as a form. -/
def formObj (doc : Document) (page : ObjId) : Obj :=
  Obj.ofData
    [("Type", .name "XObject"), ("Subtype", .name "Form"), ("BBox", boxObj (pageBox doc page)),
     ("Resources", (doc.inherited page "Resources").getD (.dict []))]
    (doc.pageContent page)

/-- Adds a form for each page. -/
def addForms (doc : Document) : Draft → List ObjId → Draft × List Form
  | d, [] => (d, [])
  | d, page :: rest =>
      let (after, forms) := addForms doc (d.add (formObj doc page)) rest
      (after, ⟨d.next, pageBox doc page⟩ :: forms)

/-- Takes the objects of a document into the card and makes a form of each of its pages. -/
def import? (d : Draft) (file : Bytes) : Except Fault (Draft × List Form) := do
  let doc := (← (Pdf.load file).mapError .pdf).renumbered (d.last + 1)
  let pages := doc.pages
  if pages.isEmpty then throw Flaw.noPages.fault
  if pages.any doc.contentBreaksDown then throw (.pdf .rowTooLong)
  let last := doc.objects.foldl (fun n (id, _) => max n id.num) d.last
  return addForms doc ⟨d.objects ++ doc.objects, last⟩ pages

/-! ## Pages of the card -/

/-- What a page of the card needs: the fonts, and the form that it shows. -/
def resources (form : Option ObjId) : Dict :=
  ("Font", .ref fontsId)
    :: (form.map fun id => ("XObject", Obj.dict [(formName, .ref id)])).toList

/-- The object of a page whose content has the given number. -/
def pageObj (content : ObjId) (form : Option ObjId) : Obj :=
  .dict
    [("Type", .name "Page"), ("Parent", .ref pagesId), ("MediaBox", boxObj Box.page),
     ("Contents", .ref content), ("Resources", .dict (resources form))]

/-- Adds pages, each after its content, and gives their numbers. -/
def addPages : Draft → List (List Draw × Option ObjId) → Draft × List ObjId
  | d, [] => (d, [])
  | d, (draws, form) :: rest =>
      let written := d.add (Obj.ofData [] (Bytes.latin1 (Page.content draws)))
      let (after, ids) := addPages (written.add (pageObj d.next form)) rest
      (after, written.next :: ids)

/-! ## Attachments -/

/-- The key of an attachment, counted from one. -/
def key (position : Nat) : Bytes := Bytes.latin1 (padZeros 4 (decimal position))

/-- The stream of an attachment. -/
def fileObj (bytes : Bytes) : Obj :=
  Obj.ofData
    [("Type", .name "EmbeddedFile"), ("Params", .dict [("Size", .int bytes.length)])] bytes

/-- The description of an attachment whose stream has the given number. -/
def descriptionObj (name title : List Char) (file : ObjId) : Obj :=
  .dict
    [("Type", .name "Filespec"), ("F", .str (Page.WinAnsi.encode name) .literal),
     ("UF", Pdf.TextString.toObj name), ("Desc", Pdf.TextString.toObj title),
     ("EF", .dict [("F", .ref file)])]

/-- Adds attachments, each with its title, and gives the pairs of keys and descriptions; `position`
is the position of the first. -/
def attach : Draft → Nat → List (Attachment × List Char) → Draft × List Obj
  | d, _, [] => (d, [])
  | d, position, (file, title) :: rest =>
      let stream := d.next
      let stored := d.add (fileObj file.bytes)
      let description := stored.next
      let described := stored.add (descriptionObj file.name.toList title stream)
      let (after, pairs) := attach described (position + 1) rest
      (after, .str (key position) .literal :: .ref description :: pairs)

/-! ## The finished document -/

/-- The object of the page tree. -/
def pagesObj (pages : List ObjId) : Obj :=
  .dict [("Type", .name "Pages"), ("Kids", .arr (pages.map .ref)), ("Count", .int pages.length)]

/-- The catalog, when the tree of attachments has the given number. -/
def catalogObj (files : ObjId) : Obj :=
  .dict
    [("Type", .name "Catalog"), ("Pages", .ref pagesId),
     ("Names", .dict [("EmbeddedFiles", .ref files)]), ("PageMode", .name "UseAttachments")]

/-- The name of the program that makes cards. -/
def producer : String := "ddc-server 0.1.0"

/-- What the card says about itself; `created` tells when it was made. -/
def infoObj (r : Request) (created : String) : Obj :=
  .dict
    [("Title", Pdf.TextString.toObj r.descriptor.title.toList),
     ("Creator", Pdf.TextString.toObj r.options.builderName.toList),
     ("Producer", .str (Bytes.ascii producer) .literal),
     ("CreationDate", .str (Bytes.ascii created) .literal)]

/-- The document of the given pages and attachments. -/
def finish (d : Draft) (r : Request) (created : String) (pages : List ObjId) (pairs : List Obj) :
    Document :=
  let listed := (⟨(pagesId, pagesObj pages) :: d.objects, d.last⟩ : Draft)
  let tree := listed.add (.dict [("Names", .arr pairs)])
  let withCatalog := tree.add (catalogObj listed.next)
  let complete := withCatalog.add (infoObj r created)
  let doc : Document :=
    { version := "1.7"
      trailer := [("Root", .ref tree.next), ("Info", .ref withCatalog.next)]
      objects := complete.objects.ordered }
  doc.pruned

end Draft

end DocumentCard.Card
