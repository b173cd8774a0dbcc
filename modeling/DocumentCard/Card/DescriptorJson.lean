import DocumentCard.Card.Descriptor
import DocumentCard.Json.Decode
set_option autoImplicit false

/-!
# Descriptors as JSON

Each record has a table of its fields in the order of declaration, read by `Json.Decode.record`, and a
writer that names them all.  Byte fields travel in base64.
-/

namespace DocumentCard.Card

open Json (Value Decoder)
open Json.Decode (Member field text bytes bytesList list optional record)

namespace TimeStamp

/-- The fields of a time stamp. -/
def fields : List (Member TimeStamp) :=
  [field "generatedAt" text fun r v => { r with generatedAt := v },
   field "serialNumber" text fun r v => { r with serialNumber := v },
   field "subject" text fun r v => { r with subject := v },
   field "issuer" text fun r v => { r with issuer := v }]

/-- Reads a time stamp. -/
def ofJson : Decoder TimeStamp := record "TspInfo" fields {}

/-- Writes a time stamp. -/
def toJson (r : TimeStamp) : Value :=
  .ofFields [("generatedAt", .string r.generatedAt), ("serialNumber", .string r.serialNumber),
    ("subject", .string r.subject), ("issuer", .string r.issuer)]

end TimeStamp

namespace Revocation

/-- The fields of a revocation answer. -/
def fields : List (Member Revocation) :=
  [field "generatedAt" text fun r v => { r with generatedAt := v },
   field "certStatus" text fun r v => { r with status := v },
   field "serialNumber" text fun r v => { r with serialNumber := v },
   field "subject" text fun r v => { r with subject := v },
   field "issuer" text fun r v => { r with issuer := v }]

/-- Reads a revocation answer. -/
def ofJson : Decoder Revocation := record "OcspInfo" fields {}

/-- Writes a revocation answer. -/
def toJson (r : Revocation) : Value :=
  .ofFields [("generatedAt", .string r.generatedAt), ("certStatus", .string r.status),
    ("serialNumber", .string r.serialNumber), ("subject", .string r.subject),
    ("issuer", .string r.issuer)]

end Revocation

/-- A list of texts. -/
def textsToJson (texts : List String) : Value := .array (texts.map .string)

namespace SignerDetails

/-- The fields of a signer's details. -/
def fields : List (Member SignerDetails) :=
  [field "subjectName" text fun r v => { r with subjectName := v },
   field "subjectID" text fun r v => { r with subjectId := v },
   field "subjectOrgName" text fun r v => { r with organizationName := v },
   field "subjectOrgID" text fun r v => { r with organizationId := v },
   field "subject" text fun r v => { r with subject := v },
   field "subjectAltName" text fun r v => { r with alternativeName := v },
   field "serialNumber" text fun r v => { r with serialNumber := v },
   field "from" text fun r v => { r with validFrom := v },
   field "until" text fun r v => { r with validUntil := v },
   field "policies" (list text) fun r v => { r with policies := v },
   field "keyUsage" (list text) fun r v => { r with keyUsage := v },
   field "extKeyUsage" (list text) fun r v => { r with extendedKeyUsage := v },
   field "issuer" text fun r v => { r with issuer := v },
   field "signatureAlgorithm" text fun r v => { r with algorithm := v },
   field "tsp" TimeStamp.ofJson fun r v => { r with timeStamp := v },
   field "ocsp" Revocation.ofJson fun r v => { r with revocation := v },
   field "qrCodes" bytesList fun r v => { r with qrCodes := v }]

/-- Reads a signer's details. -/
def ofJson : Decoder SignerDetails := record "SignatureVisualization" fields {}

/-- Writes a signer's details. -/
def toJson (r : SignerDetails) : Value :=
  .ofFields [("subjectName", .string r.subjectName), ("subjectID", .string r.subjectId),
    ("subjectOrgName", .string r.organizationName), ("subjectOrgID", .string r.organizationId),
    ("subject", .string r.subject), ("subjectAltName", .string r.alternativeName),
    ("serialNumber", .string r.serialNumber), ("from", .string r.validFrom),
    ("until", .string r.validUntil), ("policies", textsToJson r.policies),
    ("keyUsage", textsToJson r.keyUsage), ("extKeyUsage", textsToJson r.extendedKeyUsage),
    ("issuer", .string r.issuer), ("signatureAlgorithm", .string r.algorithm),
    ("tsp", r.timeStamp.toJson), ("ocsp", r.revocation.toJson),
    ("qrCodes", .array (r.qrCodes.map .ofBytes))]

end SignerDetails

namespace Signature

/-- The fields of a signature. -/
def fields : List (Member Signature) :=
  [field "body" bytes fun r v => { r with body := v },
   field "fileName" text fun r v => { r with fileName := v },
   field "signerName" text fun r v => { r with signerName := v },
   field "signatureVisualization" (optional SignerDetails.ofJson) fun r v =>
     { r with details := v }]

/-- Reads a signature. -/
def ofJson : Decoder Signature := record "SignatureInfo" fields {}

/-- Writes a signature. -/
def toJson (r : Signature) : Value :=
  .ofFields [("body", .ofBytes r.body), ("fileName", .string r.fileName),
    ("signerName", .string r.signerName),
    ("signatureVisualization", (r.details.map SignerDetails.toJson).getD .null)]

end Signature

namespace Descriptor

/-- The fields of a descriptor. -/
def fields : List (Member Descriptor) :=
  [field "title" text fun r v => { r with title := v },
   field "description" text fun r v => { r with description := v },
   field "id" text fun r v => { r with id := v },
   field "idQRCode" bytes fun r v => { r with idQrCode := v },
   field "linkQRCode" bytes fun r v => { r with linkQrCode := v },
   field "builderLogo" bytes fun r v => { r with logo := v },
   field "subBuilderLogoString" text fun r v => { r with logoText := v },
   field "signatures" (list Signature.ofJson) fun r v => { r with signatures := v },
   field "language" text fun r v => { r with language := v }]

/-- Reads a descriptor. -/
def ofJson : Decoder Descriptor := record "DocumentInfo" fields {}

/-- Writes a descriptor. -/
def toJson (r : Descriptor) : Value :=
  .ofFields [("title", .string r.title), ("description", .string r.description),
    ("id", .string r.id), ("idQRCode", .ofBytes r.idQrCode),
    ("linkQRCode", .ofBytes r.linkQrCode), ("builderLogo", .ofBytes r.logo),
    ("subBuilderLogoString", .string r.logoText),
    ("signatures", .array (r.signatures.map Signature.toJson)), ("language", .string r.language)]

end Descriptor

namespace Attachment

/-- An attachment of which parts may still be missing. -/
structure Partial where
  name : Option String := none
  bytes : Option Bytes := none

/-- The fields of an attachment, none of which may be missing. -/
def fields : List (Member Partial) :=
  [field "Name" text fun r v => { r with name := some v },
   field "Bytes" Json.Decode.bytes fun r v => { r with bytes := some v }]

/-- Reads an attachment. -/
def ofJson : Decoder Attachment := fun v => do
  let parts : Partial ← record "AttachedFile" fields {} v
  let missing (key : String) (index : Nat) : Json.Mismatch :=
    match v with
    | .array _ => .length index "struct AttachedFile with 2 elements"
    | _ => .missing key
  match parts.name, parts.bytes with
  | none, _ => .error (missing "Name" 0)
  | _, none => .error (missing "Bytes" 1)
  | some name, some bytes => .ok { name, bytes }

/-- Writes an attachment. -/
def toJson (r : Attachment) : Value :=
  .ofFields [("Name", .string r.name), ("Bytes", .ofBytes r.bytes)]

end Attachment

end DocumentCard.Card
