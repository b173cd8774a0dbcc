import DocumentCard.Single
import Std.Data.TreeMap.Basic
set_option autoImplicit false

/-!
# PDF objects

An object is one of the ten kinds that the file format knows.  Names, and so the keys of
dictionaries, are byte sequences, shown as texts with one character per byte.  A dictionary keeps
its entries in the order in which they were set.
-/

namespace DocumentCard.Pdf

/-- What a reference points to: an object's number and generation. -/
structure ObjId where
  num : Nat
  gen : Nat
  deriving DecidableEq, Repr, Inhabited

namespace ObjId

/-- The order of objects in a file: by number, then by generation. -/
def before (a b : ObjId) : Bool := a.num < b.num || (a.num = b.num && a.gen < b.gen)

/-- The same order, for trees. -/
def order : ObjId → ObjId → Ordering := compareLex (compareOn num) (compareOn gen)

instance : Std.TransCmp order := inferInstanceAs (Std.TransCmp (compareLex _ _))

instance : Std.LawfulEqCmp order where
  eq_of_compare {a b} h := by
    obtain ⟨hnum, hgen⟩ := compareLex_eq_eq.mp h
    obtain ⟨num, gen⟩ := a
    obtain ⟨num', gen'⟩ := b
    simp only [compareOn, Nat.compare_eq_eq] at hnum hgen
    rw [hnum, hgen]

end ObjId

/-- The two ways to write a string. -/
inductive StringForm where
  | literal
  | hexadecimal
  deriving DecidableEq, Repr, Inhabited

/-- A PDF object. -/
inductive Obj where
  | null
  | bool (b : Bool)
  | int (i : Int)
  | real (x : Single)
  | name (n : String)
  | str (bytes : Bytes) (form : StringForm)
  | arr (items : List Obj)
  | dict (entries : List (String × Obj))
  | stream (entries : List (String × Obj)) (data : Bytes)
  | ref (id : ObjId)
  deriving Inhabited

/-- A dictionary. -/
abbrev Dict : Type := List (String × Obj)

namespace Dict

/-- The value of a key. -/
def get? (d : Dict) (key : String) : Option Obj := (d.find? fun (k, _) => k = key).map Prod.snd

/-- Whether a key is there. -/
def has (d : Dict) (key : String) : Bool := d.any fun (k, _) => k = key

/-- Sets the value of a key, in its place if the key is there and at the end if it is not. -/
def set (d : Dict) (key : String) (value : Obj) : Dict :=
  match d with
  | [] => [(key, value)]
  | (k, v) :: rest => if k = key then (key, value) :: rest else (k, v) :: set rest key value

/-- Takes a key out. -/
def erase (d : Dict) (key : String) : Dict := d.filter fun (k, _) => k ≠ key

theorem get?_set (d : Dict) (key other : String) (value : Obj) :
    (d.set key value).get? other = if other = key then some value else d.get? other := by
  induction d with
  | nil =>
      by_cases h : key = other
      · simp [set, get?, h]
      · simp [set, get?, h, Ne.symm h]
  | cons e rest ih =>
      obtain ⟨k, v⟩ := e
      simp only [get?] at ih
      by_cases hk : k = key
      · by_cases ho : key = other
        · simp [set, get?, hk, ho]
        · simp [set, get?, hk, ho, Ne.symm ho]
      · by_cases ho : k = other
        · have : ¬ other = key := fun e => hk (ho.trans e)
          simp [set, get?, ho, this]
        · simp [set, get?, hk, ho, ih]

end Dict

namespace Obj

/-- The target of a reference. -/
def ref? : Obj → Option ObjId
  | .ref id => some id
  | _ => none

/-- The value of an integer. -/
def int? : Obj → Option Int
  | .int i => some i
  | _ => none

/-- The text of a name. -/
def name? : Obj → Option String
  | .name n => some n
  | _ => none

/-- The bytes of a string. -/
def str? : Obj → Option Bytes
  | .str bytes _ => some bytes
  | _ => none

/-- The items of an array. -/
def arr? : Obj → Option (List Obj)
  | .arr items => some items
  | _ => none

/-- The entries of a dictionary; a stream is none. -/
def dict? : Obj → Option Dict
  | .dict entries => some entries
  | _ => none

/-- The dictionary and the data of a stream. -/
def stream? : Obj → Option (Dict × Bytes)
  | .stream entries data => some (entries, data)
  | _ => none

end Obj

/-- The integer that a key holds. -/
def Dict.int? (d : Dict) (key : String) : Option Int := (d.get? key).bind Obj.int?

/-- The name that a key holds. -/
def Dict.name? (d : Dict) (key : String) : Option String := (d.get? key).bind Obj.name?

/-- The type that a dictionary gives itself. -/
def Dict.type? (d : Dict) : Option String :=
  d.name? "Type" <|> if d.has "Linearized" then some "Linearized" else none

/-- A stream of the given data; its dictionary tells their length. -/
def Obj.ofData (d : Dict) (data : Bytes) : Obj :=
  .stream (d.set "Length" (.int data.length)) data

end DocumentCard.Pdf
