import DocumentCard.Bytes
set_option autoImplicit false

/-!
# Describing a document

A descriptor says what a card is about: the document's title and ids, and its signatures in the
order in which they are attached.  A signature is a file; what is known about its signer is optional
and is shown on pages of its own.

A signer goes by one name on the card (`Signature.identity?`): the name in the details comes before
the plain name, and the personal id is the last resort.
-/

namespace DocumentCard.Card

/-- A card always carries the document and at least one signature. -/
def leastAttachments : Nat := 2

/-- A time stamp. -/
structure TimeStamp where
  generatedAt : String := ""
  serialNumber : String := ""
  subject : String := ""
  issuer : String := ""
  deriving DecidableEq, Repr, Inhabited

/-- What a revocation service said about a certificate. -/
structure Revocation where
  generatedAt : String := ""
  /-- "good", "revoked" or "unknown" -/
  status : String := ""
  serialNumber : String := ""
  subject : String := ""
  issuer : String := ""
  deriving DecidableEq, Repr, Inhabited

/-- What a signature's certificate says. -/
structure SignerDetails where
  subjectName : String := ""
  /-- personal number or number of a passport -/
  subjectId : String := ""
  organizationName : String := ""
  organizationId : String := ""
  /-- the subject's full distinguished name -/
  subject : String := ""
  alternativeName : String := ""
  serialNumber : String := ""
  validFrom : String := ""
  validUntil : String := ""
  policies : List String := []
  keyUsage : List String := []
  extendedKeyUsage : List String := []
  issuer : String := ""
  algorithm : String := ""
  timeStamp : TimeStamp := {}
  revocation : Revocation := {}
  /-- the signature as images of QR codes -/
  qrCodes : List Bytes := []
  deriving DecidableEq, Repr, Inhabited

/-- A signature to attach. -/
structure Signature where
  body : Bytes := []
  fileName : String := ""
  /-- needed when there are no details -/
  signerName : String := ""
  details : Option SignerDetails := none
  deriving DecidableEq, Repr, Inhabited

/-- What a card is about. -/
structure Descriptor where
  title : String := ""
  description : String := ""
  id : String := ""
  idQrCode : Bytes := []
  linkQrCode : Bytes := []
  logo : Bytes := []
  /-- printed under the logo -/
  logoText : String := ""
  signatures : List Signature := []
  language : String := ""
  deriving DecidableEq, Repr, Inhabited

/-- A file attached to a card. -/
structure Attachment where
  name : String := ""
  bytes : Bytes := []
  deriving DecidableEq, Repr, Inhabited

/-- What one making of a card is to look like. -/
structure Options where
  /-- such as "2021.01.31 13:45:00 UTC+6" -/
  creationDate : String := ""
  builderName : String := ""
  howToVerify : String := ""
  /-- whether the document's pages are shown -/
  showDocument : Bool := false
  /-- whether each signature gets pages -/
  showSignatures : Bool := false
  deriving DecidableEq, Repr, Inhabited

/-- All that goes into a card. -/
structure Request where
  descriptor : Descriptor := {}
  document : Bytes := []
  fileName : String := ""
  options : Options := {}
  deriving DecidableEq, Repr, Inhabited

/-- How a signer is called. -/
inductive Identity where
  | name (name : String)
  | subjectId (id : String)
  deriving DecidableEq, Repr

/-- What a signer is called, if anything is known. -/
def Signature.identity? (s : Signature) : Option Identity :=
  let plain : Option Identity := if s.signerName ≠ "" then some (.name s.signerName) else none
  match s.details with
  | none => plain
  | some d =>
      if d.subjectName ≠ "" then some (.name d.subjectName)
      else plain <|> if d.subjectId ≠ "" then some (.subjectId d.subjectId) else none

end DocumentCard.Card
