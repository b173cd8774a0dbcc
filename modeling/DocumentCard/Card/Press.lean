import DocumentCard.Card.Draft
import DocumentCard.Pdf.Write
set_option autoImplicit false

/-!
# Making a card

A card is made from a request in one go.  The info block is laid out twice: the first time with page
numbers that do not matter, which tells how many pages it takes and so where the other sections
start.
-/

namespace DocumentCard.Card

open Page (Draw)
open Pdf (ObjId Document)

/-- The pages of a card by section, before they get head and foot. -/
structure Layout where
  info : List (List Draw)
  document : List (List Draw)
  signatures : List (List Draw)

namespace Layout

/-- The number of pages. -/
def total (l : Layout) : Nat := l.info.length + l.document.length + l.signatures.length

/-- All pages in order. -/
def all (l : Layout) : List (List Draw) := l.info ++ l.document ++ l.signatures

/-- All pages with their head and foot. -/
def framed (l : Layout) (language : Language) (title : List Char) : List (List Draw) :=
  l.all.zipIdx.map fun (page, k) => page ++ frame language title (k + 1) l.total

end Layout

namespace Request

/-- The language of a request. -/
def language (r : Request) : Language := .ofCode r.descriptor.language

/-- The info block when the document starts at the given page; `shown` is the number of its pages
that are shown. -/
def infoFrom (r : Request) (documentStart shown : Nat) : List (List Draw) :=
  infoPages r.language r (contents r.language r.options documentStart (documentStart + shown))

/-- How many pages the info block takes. -/
def infoLength (r : Request) : Nat :=
  (infoPages r.language r (contents r.language r.options 0 0)).length

/-- The layout of a card that shows pages of the given boxes. -/
def layout (r : Request) (boxes : List Box) : Except Fault Layout := do
  let signatures ←
    if r.options.showSignatures then signaturePages r.language r.descriptor.signatures
    else pure []
  return {
    info := r.infoFrom (r.infoLength + 1) boxes.length
    document := boxes.map (documentPage r.language)
    signatures }

/-- The attachments in order, each with what it is: the document and the signatures. -/
def attachments (r : Request) : List (Attachment × List Char) :=
  (⟨r.fileName, r.document⟩, r.language.text .documentAttachment)
    :: r.descriptor.signatures.map fun s => (⟨s.fileName, s.body⟩, signatureTitle r.language s)

/-- The document that a card consists of; `created` tells when it is made. -/
def card (r : Request) (created : String) : Except Fault Document := do
  if let some flaw := r.flaw? then throw flaw.fault
  let (draft, forms) ←
    if r.options.showDocument then Draft.empty.import? r.document else pure (.empty, [])
  let layout ← r.layout (forms.map (·.box))
  let shown : List (Option ObjId) :=
    layout.info.map (fun _ => none) ++ forms.map (fun f => some f.id)
      ++ layout.signatures.map (fun _ => none)
  let pages := (layout.framed r.language r.descriptor.title.toList).zip shown
  let (draft, pageIds) := draft.addPages pages
  let (draft, pairs) := draft.attach 1 r.attachments
  return draft.finish r created pageIds pairs

/-- Makes a card. -/
def press (r : Request) (created : String) : Except Fault Bytes :=
  (r.card created).map Pdf.write

end Request

end DocumentCard.Card
