import DocumentCard.Card.DescriptorJson
import DocumentCard.Session.Fault
import DocumentCard.Session.PartReader
set_option autoImplicit false

/-!
# Replies

A call that can be made is answered with a record that has a field for the fault beside those for
the result.  When the call succeeds the fault's text is empty; when it fails the other fields hold
nothing: no id, no bytes, no name, and no part is final.
-/

namespace DocumentCard.Rpc

open Json (Value)

/-- What a call gives. -/
inductive Yield where
  | nothing
  /-- the id of a new session -/
  | newId (id : String)
  /-- a part of a file -/
  | part (part : Session.Part)
  /-- the name of a document -/
  | name (name : String)
  /-- a signature, and whether it is the last one -/
  | signature (file : Card.Attachment) (final : Bool)
  deriving DecidableEq, Repr

/-- The kinds of things that calls give. -/
inductive YieldKind where
  | nothing
  | newId
  | part
  | name
  | signature
  deriving DecidableEq, Repr

/-- What stands for a result of this kind when there is none. -/
def YieldKind.blank : YieldKind → Yield
  | .nothing => .nothing
  | .newId => .newId ""
  | .part => .part {}
  | .name => .name ""
  | .signature => .signature {} false

/-- The kind of what a call gives. -/
def Yield.kind : Yield → YieldKind
  | .nothing => .nothing
  | .newId _ => .newId
  | .part _ => .part
  | .name _ => .name
  | .signature _ _ => .signature

/-- The fields of a result. -/
def Yield.fields : Yield → List (String × Value)
  | .nothing => []
  | .newId s => [("ID", .string s)]
  | .part p => [("Part", .ofBytes p.bytes), ("IsFinal", .bool p.final)]
  | .name s => [("DocumentFileName", .string s)]
  | .signature file final => [("Signature", file.toJson), ("IsFinal", .bool final)]

/-- The answer to a call that can be made. -/
structure Reply where
  shown : Yield
  fault : Option Session.Fault := none
  deriving DecidableEq, Repr

namespace Reply

/-- The reply that tells how a call went. -/
def ofResult (kind : YieldKind) : Except Session.Fault Yield → Reply
  | .ok result => ⟨result, none⟩
  | .error fault => ⟨kind.blank, some fault⟩

/-- The text of the fault; empty if there is none. -/
def faultText (r : Reply) : String := (r.fault.map (·.message)).getD ""

/-- The reply as a value. -/
def toJson (r : Reply) : Value := .ofFields (r.shown.fields ++ [("Error", .string r.faultText)])

end Reply

end DocumentCard.Rpc
