import DocumentCard.Json.Reader
import DocumentCard.Base64
import DocumentCard.Text.Quoted
set_option autoImplicit false

/-!
# Values as records

A record is read from an object, field by field in the order of the keys, or from an array that holds
the fields in the order of their declaration.  Unknown keys are passed over; what is missing keeps
the value it had before.  A value of another kind than a field wants is refused, and the refusal
names what was found and what was expected.
-/

namespace DocumentCard.Json

/-- What was found where something else was expected. -/
inductive Found where
  | int (i : Int)
  | double (bits : Nat)
  | bool (b : Bool)
  | string (s : String)
  | null
  | sequence
  | map

/-- The kind of a value. -/
def Value.found : Value → Found
  | .null => .null
  | .bool b => .bool b
  | .int i => .int i
  | .double bits => .double bits
  | .string s => .string s
  | .array _ => .sequence
  | .object _ => .map

/-- A finding in words. -/
def Found.text : Found → String
  | .int i => "integer `" ++ integerText i ++ "`"
  | .double bits =>
      "floating point `" ++ String.ofList (Decimal.scientific (Decimal.double.decode bits)) ++ "`"
  | .bool b => "boolean `" ++ (if b then "true" else "false") ++ "`"
  | .string s => "string " ++ Text.quoted s
  | .null => "null"
  | .sequence => "sequence"
  | .map => "map"

/-- Why a value does not stand for what it should. -/
inductive Mismatch where
  /-- another kind of value -/
  | type (found : Found) (expected : String)
  /-- a whole number out of range -/
  | range (number : Int) (expected : String)
  /-- an array with too many items or too few -/
  | length (count : Nat) (expected : String)
  | missing (field : String)
  | duplicate (field : String)
  | base64 (fault : Base64.Fault)

/-- The mismatch in words. -/
def Mismatch.message : Mismatch → String
  | .type found expected => "invalid type: " ++ found.text ++ ", expected " ++ expected
  | .range n expected =>
      "invalid value: integer `" ++ integerText n ++ "`, expected " ++ expected
  | .length n expected => "invalid length " ++ decimalText n ++ ", expected " ++ expected
  | .missing field => "missing field `" ++ field ++ "`"
  | .duplicate field => "duplicate field `" ++ field ++ "`"
  | .base64 fault => fault.message

/-- Reads a value as something else. -/
abbrev Decoder (α : Type) : Type := Value → Except Mismatch α

namespace Decode

/-- A text. -/
def text : Decoder String
  | .string s => .ok s
  | v => .error (.type v.found "a string")

/-- A truth value. -/
def bool : Decoder Bool
  | .bool b => .ok b
  | v => .error (.type v.found "a boolean")

/-- A whole number of 64 bits with a sign. -/
def int : Decoder Int
  | .int i => if i < 0x8000000000000000 then .ok i else .error (.range i "i64")
  | v => .error (.type v.found "i64")

/-- A list. -/
def list {α : Type} (item : Decoder α) : Decoder (List α)
  | .array items => items.mapM item
  | v => .error (.type v.found "a sequence")

/-- A value, or nothing for `null`. -/
def optional {α : Type} (decode : Decoder α) : Decoder (Option α)
  | .null => .ok none
  | v => (decode v).map some

/-- Bytes of a base64 text. -/
def base64 (s : String) : Except Mismatch Bytes :=
  (Base64.decode (Text.Utf8.encode s)).mapError .base64

/-- Bytes, in base64; `null` stands for none. -/
def bytes : Decoder Bytes := fun v => do
  match ← optional text v with
  | some s => base64 s
  | none => return []

/-- A list of byte sequences, each in base64; `null` stands for none. -/
def bytesList : Decoder (List Bytes) := fun v => do
  ((← optional (list text) v).getD []).mapM base64

/-- A field of a record: its key, and how its value enters the record. -/
abbrev Member (σ : Type) : Type := String × (σ → Value → Except Mismatch σ)

/-- A field that a decoder reads and `put` enters. -/
def field {σ α : Type} (key : String) (decode : Decoder α) (put : σ → α → σ) : Member σ :=
  (key, fun record v => (decode v).map (put record))

/-- Enters the fields of an object into a record. -/
def enterFields {σ : Type} (fields : List (Member σ)) (record : σ) :
    List (String × Value) → Except Mismatch σ
  | [] => .ok record
  | (key, v) :: rest =>
      match fields.find? fun (k, _) => k = key with
      | none => enterFields fields record rest
      | some (_, enter) =>
          match enter record v with
          | .error e => .error e
          | .ok record => enterFields fields record rest

/-- Enters the items of an array into a record; `count` is the length of the whole array. -/
def enterItems {σ : Type} (count : Nat) (record : σ) :
    List (Member σ) → List Value → Except Mismatch σ
  | _, [] => .ok record
  | [], _ :: _ => .error (.length count "fewer elements in array")
  | (_, enter) :: fields, v :: rest =>
      match enter record v with
      | .error e => .error e
      | .ok record => enterItems count record fields rest

/-- A record with the given fields in the order of declaration; `start` holds the values of fields
that are missing. -/
def record {σ : Type} (name : String) (fields : List (Member σ)) (start : σ) : Decoder σ
  | .object found => enterFields fields start found
  | .array items => enterItems items.length start fields items
  | v => .error (.type v.found ("struct " ++ name))

end Decode

/-- Bytes in base64, as a value. -/
def Value.ofBytes (bytes : Bytes) : Value := .string (Base64.encodeText bytes)

end DocumentCard.Json
