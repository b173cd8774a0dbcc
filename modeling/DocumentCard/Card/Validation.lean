import DocumentCard.Card.Descriptor
import DocumentCard.Card.Fault
import DocumentCard.Text.Blank
set_option autoImplicit false

/-!
# Requests that lack something

A request needs a name for the document and at least one signature; each signature needs a name and
a signer, and details if it is to get pages.  Only the pages of a PDF file can be shown.  The first
thing that is missing is told, signature by signature.
-/

namespace DocumentCard.Card

/-- What a signature can lack. -/
inductive SignatureFlaw where
  | noFileName
  | noSigner
  | noDetails
  deriving DecidableEq, Repr, Inhabited

/-- What a request can lack. -/
inductive Flaw where
  | noFileName
  | noSignatures
  /-- the signature with this number, counted from one, lacks something -/
  | signature (number : Nat) (flaw : SignatureFlaw)
  /-- the pages of something other than a PDF file are to be shown -/
  | notPdf
  /-- the document has no pages to show -/
  | noPages
  deriving DecidableEq, Repr, Inhabited

/-- What a signature lacks, in words. -/
def SignatureFlaw.message : SignatureFlaw → String
  | .noFileName => "signature file name not provided"
  | .noSigner => "subject ID not provided"
  | .noDetails => "no signature visualization information provided"

/-- What a request lacks, in words. -/
def Flaw.message : Flaw → String
  | .noFileName => "document file name not provided"
  | .noSignatures => "no signatures provided"
  | .signature number flaw => "signature #" ++ decimalText number ++ ": " ++ flaw.message
  | .notPdf => "visualization of non-PDF files is not available"
  | .noPages => "document is empty"

/-- The fault of a request that lacks something. -/
def Flaw.fault (flaw : Flaw) : Fault := .validation flaw.message

/-- Whether a name is nothing but blanks. -/
def isBlankName (name : String) : Bool := Text.isAllBlank name.toList

/-- Whether bytes start like a PDF file. -/
def isPdf (bytes : Bytes) : Bool := (Bytes.dropLead? (Bytes.ascii "%PDF-") bytes).isSome

/-- What a signature lacks, if anything; details are needed if it is to get pages. -/
def Signature.flaw? (shown : Bool) (s : Signature) : Option SignatureFlaw :=
  if isBlankName s.fileName then some .noFileName
  else if s.identity?.isNone then some .noSigner
  else if shown && s.details.isNone then some .noDetails
  else none

/-- What the first flawed signature lacks; `number` is the number of the first one. -/
def firstFlaw? (shown : Bool) (number : Nat) : List Signature → Option Flaw
  | [] => none
  | s :: rest =>
      match s.flaw? shown with
      | some flaw => some (.signature number flaw)
      | none => firstFlaw? shown (number + 1) rest

/-- The first thing that a request lacks. -/
def Request.flaw? (r : Request) : Option Flaw :=
  if isBlankName r.fileName then some .noFileName
  else if r.descriptor.signatures.isEmpty then some .noSignatures
  else
    match firstFlaw? r.options.showSignatures 1 r.descriptor.signatures with
    | some flaw => some flaw
    | none => if r.options.showDocument && !isPdf r.document then some .notPdf else none

end DocumentCard.Card
