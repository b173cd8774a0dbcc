import DocumentCard.Json.Decode
import DocumentCard.Json.Reader
set_option autoImplicit false

/-!
# Envelopes

A call comes in an envelope: a JSON object with the method's name, the parameters and an id for the
answer, each of which may be missing; or an array of these in that order.  The envelope is read
straight from the text.  Other fields of an object are passed over without a look inside, and a field
that comes twice is refused, before its second value is read.
-/

namespace DocumentCard.Rpc

open Json (Value SyntaxFault Mismatch Found)

/-- Why a text is not an envelope. -/
inductive EnvelopeFault where
  | text (fault : SyntaxFault)
  | content (fault : Mismatch)

/-- The fault in words. -/
def EnvelopeFault.message : EnvelopeFault → String
  | .text fault => fault.message
  | .content fault => fault.message

/-- A call as it comes. -/
structure Envelope where
  method : String := ""
  params : Value := .null
  id : Value := .null
  deriving Inhabited

namespace Envelope

/-- What has been read of an envelope that is an object. -/
structure Draft where
  method : Option String := none
  params : Option Value := none
  id : Option Value := none

/-- The envelope with what has been read. -/
def Draft.finish (d : Draft) : Envelope := ⟨d.method.getD "", d.params.getD .null, d.id.getD .null⟩

/-- A reader of texts seen as a reader of envelopes. -/
def ofText {α : Type} (r : Except SyntaxFault α) : Except EnvelopeFault α := r.mapError .text

/-- What kind of value starts here, where it is of no use. -/
def foundAt (limit : Nat) (bytes : Bytes) : Except SyntaxFault Found :=
  match Json.skipSpace bytes with
  | 0x5B :: _ => .ok .sequence
  | 0x7B :: _ => .ok .map
  | _ => (Json.value limit 0 bytes).map fun (v, _) => v.found

/-- Refuses the value that starts here. -/
def refuse {α : Type} (limit : Nat) (expected : String) (bytes : Bytes) : Except EnvelopeFault α :=
  match foundAt limit bytes with
  | .ok found => .error (.content (.type found expected))
  | .error fault => .error (.text fault)

/-- Reads the name of a method. -/
def readName (limit : Nat) (bytes : Bytes) : Except EnvelopeFault (String × Bytes) :=
  match Json.skipSpace bytes with
  | 0x22 :: rest => ofText (Json.stringFrom [] limit rest)
  | _ => refuse limit "a string" bytes

/-- Reads a value inside an envelope, whose own bracket counts. -/
def readValue (limit : Nat) (bytes : Bytes) : Except EnvelopeFault (Value × Bytes) :=
  ofText (Json.value limit (Json.depthLimit - 1) bytes)

/-- Reads what stands behind the key of a field. -/
def readField (limit : Nat) (d : Draft) (key : String) (bytes : Bytes) :
    Except EnvelopeFault (Draft × Bytes) := do
  let twice : EnvelopeFault := .content (.duplicate key)
  if key = "method" then
    if d.method.isSome then throw twice
    let (method, rest) ← readName limit (← ofText (Json.colon bytes))
    return ({ d with method := some method }, rest)
  else if key = "params" then
    if d.params.isSome then throw twice
    let (params, rest) ← readValue limit (← ofText (Json.colon bytes))
    return ({ d with params := some params }, rest)
  else if key = "id" then
    if d.id.isSome then throw twice
    let (id, rest) ← readValue limit (← ofText (Json.colon bytes))
    return ({ d with id := some id }, rest)
  else
    let rest ← ofText (Json.skipValue limit (← ofText (Json.colon bytes)))
    return (d, rest)

/-- Reads the fields of an object after its bracket, or after a field. -/
def readFields (limit : Nat) (first : Bool) (d : Draft) :
    Nat → Bytes → Except EnvelopeFault (Envelope × Bytes)
  | 0, _ => .error (.text .endInObject)
  | fuel + 1, bytes =>
      match Json.nextKey first bytes with
      | .error fault => .error (.text fault)
      | .ok (.closed rest) => .ok (d.finish, rest)
      | .ok (.more rest) =>
          match Json.stringFrom [] limit rest with
          | .error fault => .error (.text fault)
          | .ok (key, rest) =>
              match readField limit d key rest with
              | .error fault => .error fault
              | .ok (d, rest) => readFields limit false d fuel rest

/-- The end of an array that has all its items. -/
def closeArray (bytes : Bytes) : Except SyntaxFault Bytes :=
  match Json.skipSpace bytes with
  | [] => .error .endInList
  | 0x5D :: rest => .ok rest
  | 0x2C :: rest =>
      match Json.skipSpace rest with
      | 0x5D :: _ => .error .trailingComma
      | _ => .error .trailingText
  | _ => .error .trailingText

/-- Reads the items of an array after its bracket. -/
def readItems (limit : Nat) (bytes : Bytes) : Except EnvelopeFault (Envelope × Bytes) := do
  match ← ofText (Json.nextItem true bytes) with
  | .closed rest => return ({}, rest)
  | .more rest =>
      let (method, rest) ← readName limit rest
      match ← ofText (Json.nextItem false rest) with
      | .closed rest => return ({ method }, rest)
      | .more rest =>
          let (params, rest) ← readValue limit rest
          match ← ofText (Json.nextItem false rest) with
          | .closed rest => return ({ method, params }, rest)
          | .more rest =>
              let (id, rest) ← readValue limit rest
              return ({ method, params, id }, ← ofText (closeArray rest))

/-- Reads an envelope that starts here. -/
def readFrom (limit : Nat) (bytes : Bytes) : Except EnvelopeFault (Envelope × Bytes) :=
  match Json.skipSpace bytes with
  | 0x7B :: rest => readFields limit true {} limit rest
  | 0x5B :: rest => readItems limit rest
  | _ => refuse limit "struct RpcRequest" bytes

/-- Reads a text that is an envelope and nothing else. -/
def read (bytes : Bytes) : Except EnvelopeFault Envelope := do
  let (envelope, rest) ← readFrom (bytes.length + 1) bytes
  ofText (Json.finish rest)
  return envelope

end Envelope

end DocumentCard.Rpc
