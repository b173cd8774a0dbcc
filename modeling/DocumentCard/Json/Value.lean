import DocumentCard.Decimal.Shortest
import DocumentCard.Text.Utf8
set_option autoImplicit false

/-!
# JSON values

A JSON value with what the program needs to keep apart: whole numbers within 64 bits are exact, all
other numbers are doubles, and an object's fields are in ascending order of their keys with each key
once.
-/

namespace DocumentCard.Json

/-- A JSON value. -/
inductive Value where
  | null
  | bool (b : Bool)
  /-- a whole number from `-2 ^ 63` up to `2 ^ 64 - 1` -/
  | int (i : Int)
  /-- any other number, as the bits of a double -/
  | double (bits : Nat)
  | string (s : String)
  | array (items : List Value)
  | object (fields : List (String × Value))
  deriving Inhabited

namespace Value

/-- Puts a field into its place among fields in ascending order; a field of the same key gives
way. -/
def insertField (key : String) (value : Value) : List (String × Value) → List (String × Value)
  | [] => [(key, value)]
  | (k, v) :: rest =>
      if key < k then (key, value) :: (k, v) :: rest
      else if key = k then (key, value) :: rest
      else (k, v) :: insertField key value rest

/-- An object of the given fields; of two with one key the later one counts. -/
def ofFields (fields : List (String × Value)) : Value :=
  .object (fields.foldl (fun done (key, value) => insertField key value done) [])

/-- The value of an object's field. -/
def field? (key : String) : Value → Option Value
  | .object fields => (fields.find? fun (k, _) => k = key).map Prod.snd
  | _ => none

/-- A natural number as a value. -/
def ofNat (n : Nat) : Value := .int n

/-! Of the fields that are put into an object, each is found under its key, and nothing else is. -/

theorem find_insertField (key k : String) (v : Value) (fields : List (String × Value)) :
    (insertField k v fields).find? (fun (name, _) => name = key) =
      if k = key then some (k, v) else fields.find? fun (name, _) => name = key := by
  fun_induction insertField k v fields with
  | case1 => by_cases h : k = key <;> simp [h]
  | case2 name w rest hlt => by_cases h : k = key <;> simp [h]
  | case3 w rest hlt => by_cases h : k = key <;> simp [h]
  | case4 name w rest hlt hne ih =>
      by_cases h : name = key
      · subst h
        simp [hne]
      · simp [h, ih]

theorem field?_insertField (key k : String) (v : Value) (fields : List (String × Value)) :
    (object (insertField k v fields)).field? key =
      if k = key then some v else (object fields).field? key := by
  simp only [field?, find_insertField]
  split <;> rfl

theorem field?_ofFields_concat (key k : String) (v : Value) (fields : List (String × Value)) :
    (ofFields (fields ++ [(k, v)])).field? key =
      if k = key then some v else (ofFields fields).field? key := by
  simp only [ofFields, List.foldl_append, List.foldl_cons, List.foldl_nil, field?_insertField]

theorem mem_of_field?_foldl {key : String} {v : Value} {fields start : List (String × Value)}
    (h : (object (fields.foldl (fun done (k, w) => insertField k w done) start)).field? key = some v) :
    (key, v) ∈ fields ∨ (object start).field? key = some v := by
  induction fields generalizing start with
  | nil => exact .inr h
  | cons field rest ih =>
      rcases ih h with hrest | hstart
      · exact .inl (List.mem_cons_of_mem _ hrest)
      · rw [field?_insertField] at hstart
        split at hstart
        · rename_i hkey
          obtain rfl := Option.some.inj hstart
          exact .inl (hkey ▸ List.mem_cons_self)
        · exact .inr hstart

theorem mem_of_field?_ofFields {key : String} {v : Value} {fields : List (String × Value)}
    (h : (ofFields fields).field? key = some v) : (key, v) ∈ fields := by
  rcases mem_of_field?_foldl h with hmem | hnone
  · exact hmem
  · cases hnone

end Value

/-! ## Writing -/

/-- One character between quotation marks. -/
def escapeChar (c : Char) : List Char :=
  if c = '"' ∨ c = '\\' then ['\\', c]
  else if c = '\n' then ['\\', 'n']
  else if c.toNat < 0x20 then
    ['\\', 'u'] ++ padZeros 4 ((digits 16 c.toNat).map digitChar)
  else [c]

/-- Appends a string in quotation marks. -/
def writeString (out : String) (s : String) : String :=
  (s.toList.foldl
    (fun out c => (escapeChar c).foldl String.push out) (out.push '"')).push '"'

mutual

/-- Appends the text of a value. -/
def write (out : String) : Value → String
  | .null => out ++ "null"
  | .bool b => out ++ if b then "true" else "false"
  | .int i => out ++ integerText i
  | .double bits => out ++ String.ofList (Decimal.scientific (Decimal.double.decode bits))
  | .string s => writeString out s
  | .array items => (writeItems (out.push '[') true items).push ']'
  | .object fields => (writeFields (out.push '\x7b') true fields).push '\x7d'

/-- Appends the items of an array, with a comma before each but the first. -/
def writeItems (out : String) (first : Bool) : List Value → String
  | [] => out
  | v :: rest => writeItems (write (if first then out else out.push ',') v) false rest

/-- Appends the fields of an object, with a comma before each but the first. -/
def writeFields (out : String) (first : Bool) : List (String × Value) → String
  | [] => out
  | (k, v) :: rest =>
      writeFields
        (write ((writeString (if first then out else out.push ',') k).push ':') v) false rest

end

/-- The text of a value. -/
def Value.render (v : Value) : String := write "" v

end DocumentCard.Json
