import DocumentCard.Card.Phrase
import DocumentCard.Card.Validation
import DocumentCard.Page.Flow
set_option autoImplicit false

/-!
# The sections of a card

A card begins with its info block: title, circumstances of its making, a table of contents, the list
of attachments and a notice.  The pages of the document follow, then the pages of each signature.
This module says what stands in the two sections of text; what a page of the document looks like; and
what every page has at its head and foot.
-/

namespace DocumentCard.Card

open Page (Item Draw Font paragraph entry)
open Page.Sheet (margin column)

/-- What a signer is called on the card. -/
def signerLabel (language : Language) (s : Signature) : List Char :=
  match s.identity? with
  | some (.name name) => name.toList
  | some (.subjectId id) => language.format .iin [("id".toList, id.toList)]
  | none => []

/-- What the attachment of a signature is. -/
def signatureTitle (language : Language) (s : Signature) : List Char :=
  language.format .signatureAttachment [("signer".toList, signerLabel language s)]

/-- A gap between lines. -/
def gap (height : Nat) : Item := .gap (Single.ofInt height)

/-- A paragraph that is left out when its text is empty. -/
def optionalParagraph (font : Font) (size indent : Nat) (text : List Char) : List Item :=
  if text.isEmpty then [] else paragraph font size indent text

/-! ## The info block -/

/-- A section in the table of contents: its title and the number of its first page. -/
abbrev Contents : Type := List (List Char × Nat)

/-- The table of contents, given where the document and the signatures start. -/
def contents (language : Language) (options : Options) (documentStart signaturesStart : Nat) :
    Contents :=
  (language.text .infoBlock, 1)
    :: (if options.showDocument then [(language.text .documentVisualization, documentStart)] else [])
    ++ (if options.showSignatures then
          [(language.text .signaturesVisualization, signaturesStart)]
        else [])

/-- A label with a value behind a colon. -/
def labelled (label value : List Char) : List Char := label ++ ": ".toList ++ value

/-- A line of the list of attachments. -/
def listed (number : Nat) (name : String) (title : List Char) : List Char :=
  decimal number ++ ". ".toList ++ name.toList ++ " - ".toList ++ title

/-- The list of attachments: the document and the signatures. -/
def attachmentLines (language : Language) (r : Request) : List (List Char) :=
  listed 1 r.fileName (language.text .documentAttachment)
    :: r.descriptor.signatures.zipIdx.map fun (s, i) =>
        listed (i + 2) s.fileName (signatureTitle language s)

/-- The info block. -/
def infoItems (language : Language) (r : Request) (contents : Contents) : List Item :=
  let d := r.descriptor
  let o := r.options
  paragraph .bold 14 0 (language.text .cardTitle)
    ++ [gap 8]
    ++ paragraph .bold 12 0 d.title.toList
    ++ optionalParagraph .regular 10 0 d.description.toList
    ++ (if d.id.isEmpty then [] else paragraph .regular 10 0 ("ID: ".toList ++ d.id.toList))
    ++ [gap 6]
    ++ paragraph .regular 10 0 (labelled (language.text .creationDate) o.creationDate.toList)
    ++ paragraph .regular 10 0 (labelled (language.text .builderSystem) o.builderName.toList)
    ++ optionalParagraph .italic 9 0 d.logoText.toList
    ++ [gap 10]
    ++ paragraph .bold 11 0 (language.text .contents)
    ++ contents.flatMap (fun (title, page) => entry title page)
    ++ [gap 10]
    ++ paragraph .bold 11 0 (language.text .attachmentsList)
    ++ (attachmentLines language r).flatMap (paragraph .regular 10 10)
    ++ [gap 10]
    ++ paragraph .italic 9 0
        (language.format .notice [("how_to_verify".toList, o.howToVerify.toList)])

/-- The pages of the info block. -/
def infoPages (language : Language) (r : Request) (contents : Contents) : List (List Draw) :=
  Page.placed (infoItems language r contents)

/-! ## Signatures -/

/-- A label with a value below it; without a value there is no label. -/
def labelledField (language : Language) (label : Phrase) (value : List Char) : List Item :=
  if value.isEmpty then []
  else paragraph .bold 10 0 (language.text label) ++ paragraph .regular 10 10 value

/-- Texts with a comma between each two. -/
def listing (texts : List String) : List Char :=
  List.intercalate ", ".toList (texts.map String.toList)

/-- The signer with the personal id, unless the name already holds it. -/
def fullSigner (language : Language) (s : Signature) (d : SignerDetails) : List Char :=
  let signer := signerLabel language s
  if d.subjectId.isEmpty ∨ Text.occursIn d.subjectId.toList signer then signer
  else signer ++ ", ".toList ++ language.format .iin [("id".toList, d.subjectId.toList)]

/-- The lines of a certificate. -/
def certificateText (language : Language) (d : SignerDetails) : List Char :=
  language.format .certificateDetails
    [("subject".toList, d.subject.toList), ("alt_name".toList, d.alternativeName.toList),
     ("serial".toList, d.serialNumber.toList), ("from".toList, d.validFrom.toList),
     ("until".toList, d.validUntil.toList), ("issuer".toList, d.issuer.toList)]

/-- The lines of a time stamp. -/
def timeStampText (language : Language) (t : TimeStamp) : List Char :=
  language.format .tspDetails
    [("generated_at".toList, t.generatedAt.toList), ("subject".toList, t.subject.toList),
     ("serial".toList, t.serialNumber.toList), ("issuer".toList, t.issuer.toList)]

/-- The lines of a revocation answer. -/
def revocationText (language : Language) (a : Revocation) : List Char :=
  language.format .ocspDetails
    [("status".toList, a.status.toList), ("generated_at".toList, a.generatedAt.toList),
     ("subject".toList, a.subject.toList), ("serial".toList, a.serialNumber.toList),
     ("issuer".toList, a.issuer.toList)]

/-- What is shown of one signature; `number` counts from one. -/
def signatureItems (language : Language) (number : Nat) (s : Signature) (d : SignerDetails) :
    List Item :=
  let number := language.format .signatureNumber [("number".toList, decimal number)]
  let organization := language.format .organization
    [("name".toList, d.organizationName.toList), ("id".toList, d.organizationId.toList)]
  paragraph .bold 12 0 (language.text .signatureVisualization)
    ++ paragraph .bold 11 0 number
    ++ [gap 6]
    ++ labelledField language .signatureDate d.timeStamp.generatedAt.toList
    ++ labelledField language .signedBy (fullSigner language s d)
    ++ (if d.organizationName.isEmpty then []
        else labelledField language .representsOrganization organization)
    ++ labelledField language .template (listing d.policies)
    ++ labelledField language .allowedUsage (listing (d.keyUsage ++ d.extendedKeyUsage))
    ++ [gap 6]
    ++ paragraph .regular 8 0 (certificateText language d)
    ++ optionalParagraph .regular 8 0 d.algorithm.toList
    ++ (if d.timeStamp.generatedAt.isEmpty then []
        else gap 6 :: paragraph .regular 8 0 (timeStampText language d.timeStamp))
    ++ (if d.revocation.generatedAt.isEmpty then []
        else gap 6 :: paragraph .regular 8 0 (revocationText language d.revocation))

/-- What is shown of signatures, each on pages of its own; `number` is the number of the first. -/
def signaturesFrom (language : Language) (number : Nat) :
    List Signature → Except Fault (List (List Item))
  | [] => .ok []
  | s :: rest =>
      match s.details with
      | none => .error (Flaw.signature number .noDetails).fault
      | some d => do
          return signatureItems language number s d
            :: (← signaturesFrom language (number + 1) rest)

/-- The items of several parts with a page end between each two. -/
def separated : List (List Item) → List Item
  | [] => []
  | [part] => part
  | part :: rest => part ++ .pageBreak :: separated rest

/-- The pages of the signatures. -/
def signaturePages (language : Language) (signatures : List Signature) :
    Except Fault (List (List Draw)) := do
  return Page.placed (separated (← signaturesFrom language 1 signatures))

/-! ## Pages of the document -/

/-- The corners of a rectangle: lower left and upper right. -/
structure Box where
  left : Single
  lower : Single
  right : Single
  upper : Single

/-- The box of a whole page. -/
def Box.page : Box := ⟨Single.ofInt 0, Single.ofInt 0, Page.Sheet.width, Page.Sheet.height⟩

/-- The name by which a page calls the document's page that it shows. -/
def formName : String := "Pg"

/-- A page that shows a page of the document: scaled to fit, framed, and marked as a copy. -/
def documentPage (language : Language) (box : Box) : List Draw :=
  let width := Single.greatest (box.right - box.left) (Single.ofInt 1)
  let height := Single.greatest (box.upper - box.lower) (Single.ofInt 1)
  let room := Page.Sheet.top - Single.ofInt 15 - Page.Sheet.bottom
  let scale := Single.least (column / width) (room / height)
  let shownWidth := width * scale
  let shownHeight := height * scale
  let x := margin + (column - shownWidth) / Single.ofInt 2
  let y := Page.Sheet.bottom + (room - shownHeight) / Single.ofInt 2
  [.text margin Page.Sheet.top .bold (Single.ofInt 11)
      (language.text .documentVisualization),
   .form formName.toList scale (x - box.left * scale) (y - box.lower * scale),
   .rect x y shownWidth shownHeight,
   .watermark (x + shownWidth * Single.ratio 15 100) (y + shownHeight * Single.ratio 25 100)
      (Single.ofInt 28) (Single.ofInt 45)
      ((language.text .documentCopy).map Page.WinAnsi.capital)]

/-! ## Head and foot -/

/-- The page number at the foot of a page. -/
def pageNumber (language : Language) (number total : Nat) : List Char :=
  language.format .pageNumber
    [("page".toList, decimal number), ("total".toList, decimal total)]

/-- What every page has at its head and foot: the title, a line, and the page number. -/
def frame (language : Language) (title : List Char) (number total : Nat) : List Draw :=
  let size := Single.ofInt 8
  ((Page.wrap title .italic size column).head?.map fun line =>
      Draw.text margin Page.Sheet.headText .italic size line).toList
    ++ [.line margin Page.Sheet.footRule (Page.Sheet.width - margin) Page.Sheet.footRule,
        .text margin Page.Sheet.footText .italic size (language.text .cardFooter),
        .text (Page.Sheet.width - margin - Single.ofInt 110) Page.Sheet.footText .regular size
          (pageNumber language number total)]

end DocumentCard.Card
