import DocumentCard.Card.DescriptorJson
import DocumentCard.Proofs.Json.Base64
import DocumentCard.Proofs.Json.Records
set_option autoImplicit false

/-!
# Descriptors are read back

Each record of a descriptor has a table of its members, by which it is read, and a writer, which names them
all.  The members of a table are apart and have different keys, so it is enough to know that the values which
the writer gives, taken in the order of the table, make up the record; the records inside have been read back
before.

Main statement: what is written for a descriptor, a signature or an attachment is read as what it was, and so
it is with whatever a text was read as that left some of it out or said more (`descriptors_are_read_back`).
-/

namespace DocumentCard

namespace Json.Decode

/-! ## Values of fields -/

theorem list_map {α : Type} {item : Decoder α} {write : α → Value} {xs : List α}
    (back : ∀ x ∈ xs, item (write x) = .ok x) : list item (.array (xs.map write)) = .ok xs :=
  mapM_map_eq_ok back

theorem base64_encodeText (b : Bytes) : base64 (Base64.encodeText b) = .ok b := by
  rw [base64, Base64.decode_encodeText]
  rfl

theorem bytes_ofBytes (b : Bytes) : bytes (.ofBytes b) = .ok b := base64_encodeText b

theorem list_textsToJson (texts : List String) : list text (Card.textsToJson texts) = .ok texts :=
  list_map fun _ _ => rfl

theorem bytesList_map (images : List Bytes) : bytesList (.array (images.map .ofBytes)) = .ok images := by
  have htexts : (images.map Value.ofBytes).mapM text = .ok (images.map Base64.encodeText) := by
    rw [List.mapM_map]
    exact mapM_eq_ok_map fun _ _ => rfl
  have hbytes : (images.map Base64.encodeText).mapM base64 = .ok images :=
    mapM_map_eq_ok fun b _ => base64_encodeText b
  rw [bytesList, optional, list, htexts]
  · exact hbytes
  · nofun

/-- What is missing is `null`, and nothing that is there is. -/
theorem optional_getD {α : Type} {decode : Decoder α} {write : α → Value}
    (back : ∀ a, decode (write a) = .ok a) (there : ∀ a, write a ≠ .null) (x : Option α) :
    optional decode ((x.map write).getD .null) = .ok x := by
  cases x with
  | none => rfl
  | some a =>
      rw [Option.map_some, Option.getD_some, optional, back]
      · rfl
      · exact there a

end Json.Decode

namespace Card

open Json (Value)
open Json.Decode

/-! ## Records -/

namespace TimeStamp

/-- The values of the members, in the order of the table. -/
def values (t : TimeStamp) : List Value :=
  [.string t.generatedAt, .string t.serialNumber, .string t.subject, .string t.issuer]

theorem apart : fields.Pairwise AreApart := by simp [fields, areApart_field]

theorem ofJson_values (t : TimeStamp) : ofJson (.array t.values) = .ok t := rfl

theorem ofJson_toJson (t : TimeStamp) : ofJson t.toJson = .ok t :=
  record_ofFields (congrArg Value.ofFields rfl) apart (by decide) rfl t.ofJson_values

end TimeStamp

namespace Revocation

/-- The values of the members, in the order of the table. -/
def values (r : Revocation) : List Value :=
  [.string r.generatedAt, .string r.status, .string r.serialNumber, .string r.subject, .string r.issuer]

theorem apart : fields.Pairwise AreApart := by simp [fields, areApart_field]

theorem ofJson_values (r : Revocation) : ofJson (.array r.values) = .ok r := rfl

theorem ofJson_toJson (r : Revocation) : ofJson r.toJson = .ok r :=
  record_ofFields (congrArg Value.ofFields rfl) apart (by decide) rfl r.ofJson_values

end Revocation

namespace SignerDetails

/-- The values of the members, in the order of the table. -/
def values (d : SignerDetails) : List Value :=
  [.string d.subjectName, .string d.subjectId, .string d.organizationName, .string d.organizationId,
    .string d.subject, .string d.alternativeName, .string d.serialNumber, .string d.validFrom,
    .string d.validUntil, textsToJson d.policies, textsToJson d.keyUsage, textsToJson d.extendedKeyUsage,
    .string d.issuer, .string d.algorithm, d.timeStamp.toJson, d.revocation.toJson,
    .array (d.qrCodes.map .ofBytes)]

theorem apart : fields.Pairwise AreApart := by simp [fields, areApart_field]

theorem ofJson_values (d : SignerDetails) : ofJson (.array d.values) = .ok d := by
  simp only [ofJson, record, fields, values, enterItems, field, text, list_textsToJson,
    TimeStamp.ofJson_toJson, Revocation.ofJson_toJson, bytesList_map, Except.map]

theorem ofJson_toJson (d : SignerDetails) : ofJson d.toJson = .ok d :=
  record_ofFields (congrArg Value.ofFields rfl) apart (by decide) rfl d.ofJson_values

end SignerDetails

namespace Signature

/-- The values of the members, in the order of the table. -/
def values (s : Signature) : List Value :=
  [.ofBytes s.body, .string s.fileName, .string s.signerName,
    (s.details.map SignerDetails.toJson).getD .null]

theorem apart : fields.Pairwise AreApart := by simp [fields, areApart_field]

theorem ofJson_values (s : Signature) : ofJson (.array s.values) = .ok s := by
  have details := optional_getD SignerDetails.ofJson_toJson (fun _ => nofun) s.details
  simp only [ofJson, record, fields, values, enterItems, field, text, bytes_ofBytes, details, Except.map]

theorem ofJson_toJson (s : Signature) : ofJson s.toJson = .ok s :=
  record_ofFields (congrArg Value.ofFields rfl) apart (by decide) rfl s.ofJson_values

end Signature

namespace Descriptor

/-- The values of the members, in the order of the table. -/
def values (d : Descriptor) : List Value :=
  [.string d.title, .string d.description, .string d.id, .ofBytes d.idQrCode, .ofBytes d.linkQrCode,
    .ofBytes d.logo, .string d.logoText, .array (d.signatures.map Signature.toJson), .string d.language]

theorem apart : fields.Pairwise AreApart := by simp [fields, areApart_field]

theorem ofJson_values (d : Descriptor) : ofJson (.array d.values) = .ok d := by
  have signatures := list_map fun s (_ : s ∈ d.signatures) => s.ofJson_toJson
  simp only [ofJson, record, fields, values, enterItems, field, text, bytes_ofBytes, signatures, Except.map]

theorem ofJson_toJson (d : Descriptor) : ofJson d.toJson = .ok d :=
  record_ofFields (congrArg Value.ofFields rfl) apart (by decide) rfl d.ofJson_values

end Descriptor

namespace Attachment

/-- The values of the members, in the order of the table. -/
def values (a : Attachment) : List Value := [.string a.name, .ofBytes a.bytes]

theorem apart : fields.Pairwise AreApart := by simp [fields, areApart_field]

theorem record_values (a : Attachment) :
    record "AttachedFile" fields {} (.array a.values) = .ok ⟨some a.name, some a.bytes⟩ := by
  simp only [record, fields, values, enterItems, field, text, bytes_ofBytes, Except.map]

/-- Nothing may be missing from an attachment, and nothing is. -/
theorem ofJson_toJson (a : Attachment) : ofJson a.toJson = .ok a := by
  have hparts : record "AttachedFile" fields {} a.toJson = .ok ⟨some a.name, some a.bytes⟩ :=
    record_ofFields (congrArg Value.ofFields rfl) apart (by decide) rfl a.record_values
  rw [ofJson, hparts]
  rfl

end Attachment

/-- A descriptor, a signature and an attachment are read back as what they were, with everything in them.
Whatever one was read from, which may have left out fields or had others, it is written in full and read back
too. -/
theorem descriptors_are_read_back :
    (∀ d : Descriptor, Descriptor.ofJson d.toJson = .ok d) ∧
      (∀ s : Signature, Signature.ofJson s.toJson = .ok s) ∧
      (∀ a : Attachment, Attachment.ofJson a.toJson = .ok a) ∧
      (∀ v d, Descriptor.ofJson v = .ok d → Descriptor.ofJson d.toJson = .ok d) ∧
      (∀ v s, Signature.ofJson v = .ok s → Signature.ofJson s.toJson = .ok s) ∧
      ∀ v a, Attachment.ofJson v = .ok a → Attachment.ofJson a.toJson = .ok a :=
  ⟨Descriptor.ofJson_toJson, Signature.ofJson_toJson, Attachment.ofJson_toJson,
    fun _ d _ => d.ofJson_toJson, fun _ s _ => s.ofJson_toJson, fun _ a _ => a.ofJson_toJson⟩

/-- A signature of which little is known, with a field that has no meaning. -/
def sparseSignature : Value :=
  .ofFields [("body", .string "AQI="), ("color", .string "red"), ("signatureVisualization",
    .ofFields [("qrCodes", .array [.string "/wA="]), ("tsp", .ofFields [("serialNumber", .string "7")])])]

/-- A descriptor with an image that is `null` and one signature. -/
def sparseDescriptor : Value :=
  .ofFields [("title", .string "Contract"), ("idQRCode", .null), ("signatures", .array [sparseSignature])]

/-- What `sparseDescriptor` says. -/
def sparse : Descriptor where
  title := "Contract"
  signatures :=
    [{ body := [1, 2], details := some { timeStamp := { serialNumber := "7" }, qrCodes := [[255, 0]] } }]

theorem descriptors_are_read_back_sparse :
    Descriptor.ofJson sparseDescriptor = .ok sparse ∧ Descriptor.ofJson sparse.toJson = .ok sparse :=
  have hread : Descriptor.ofJson sparseDescriptor = .ok sparse := of_toOption_eq_some (by decide +kernel)
  ⟨hread, descriptors_are_read_back.2.2.2.1 sparseDescriptor sparse hread⟩

end Card

end DocumentCard
