import DocumentCard.Pdf.Xref
import DocumentCard.Pdf.Document
import DocumentCard.Pdf.Places
import DocumentCard.Text.Blank
import DocumentCard.Text.Utf8
set_option autoImplicit false

/-!
# Loading a file

A file is read from its end: the last line tells where the last cross-reference section stands, the
sections tell where the objects stand.  What stands at such a place and is no object is left out
without a word.  An object goes by the number that stands before it in the file.

Objects may be packed into streams; they are unpacked and added where their numbers are still free.
A stream whose length is given by an object of that kind gets its data last.
-/

namespace DocumentCard.Pdf

open Syntax (Loaded)

namespace Load

/-! ## The first and the last line -/

/-- The version that the first line tells. -/
def header (file : Bytes) : Except Fault String :=
  match Syntax.keyword "%PDF-" file with
  | none => .error .header
  | some rest =>
      let (version, rest) := rest.span Syntax.isInLine
      match Syntax.lineEnd? rest, Text.Utf8.decode? version with
      | some _, some version => .ok version
      | _, _ => .error .header

/-- The last place at which a pattern starts; `place` is where `bytes` stands. -/
def lastPlace (pattern : Bytes) (place : Nat) (found : Option Nat) : Bytes → Option Nat
  | [] => found
  | b :: rest =>
      let found := if (Bytes.dropLead? pattern (b :: rest)).isSome then some place else found
      lastPlace pattern (place + 1) found rest

/-- The last place not before `start` at which a pattern starts. -/
def lastFrom (pattern : String) (start : Nat) (file : Bytes) : Option Nat :=
  lastPlace (Bytes.ascii pattern) start none (file.drop start)

/-- How far from the end the end mark may stand. -/
def tailSize : Nat := 512

/-- How far before the end mark the last place is told at most. -/
def markSize : Nat := 25

/-- The place of the last cross-reference section. -/
def startOf (file : Bytes) : Option Int := do
  let mark ← lastFrom "%%EOF" (file.length - tailSize) file
  if mark ≤ markSize then none
  else
    let place ← lastFrom "startxref" (mark - markSize) file
    let rest ← Syntax.lineEnd? (← Syntax.keyword "startxref" (file.drop place))
    let (offset, rest) ← Syntax.integer rest
    let _ ← Syntax.keyword "%%EOF" (← Syntax.lineEnd? rest)
    some offset

/-! ## Objects -/

/-- The object at a place.  A length given by reference is looked up in the same way; `seen` holds
the numbers of the objects that are being read. -/
def objectAt (file : Places) (limit : Nat) (table : Xref.Table) (seen : List ObjId)
    (expected : Option ObjId) (offset : Nat) : Nat → Option (ObjId × Loaded)
  | 0 => none
  | fuel + 1 =>
      let lengthAt (id : ObjId) : Option Int :=
        if id ∈ seen then none
        else
          match table[id.num]? with
          | some (.direct place gen) =>
              if gen ≠ id.gen then none
              else
                match objectAt file limit table (id :: seen) (some id) place fuel with
                | some (_, .whole (.int i)) => some i
                | _ => none
          | _ => none
      if limit < offset then none
      else Syntax.indirect limit lengthAt expected (file.behind offset)

/-- An object found in a stream of objects. -/
abbrev Packed : Type := List (ObjId × Obj)

/-- A number in the index of a stream of objects. -/
def indexNumber (cs : List Char) : Option Nat :=
  let digits := match cs with
    | '+' :: rest => rest
    | _ => cs
  (ofDecimal? digits).filter (· < 0x100000000)

/-- The objects that an index of numbers and offsets tells of. -/
def packedObjects (data : Bytes) (first limit : Nat) : List (List Char) → Packed
  | num :: offset :: rest =>
      let found : Option (ObjId × Obj) := do
        let num ← indexNumber num
        let offset ← indexNumber offset
        let (o, _) ← Syntax.direct limit limit (data.drop (first + offset))
        some (⟨num, 0⟩, o)
      found.toList ++ packedObjects data first limit rest
  | _ => []

/-- The objects of a stream of objects; `none` if it is not built as it should be. -/
def packed? (d : Dict) (data : Bytes) : Option Packed :=
  if data.isEmpty then some []
  else do
    let first ← d.int? "First"
    let limit := data.length + 1
    if first < 0 ∨ limit ≤ first.toNat then none
    else
      let index ← Text.Utf8.decode? (data.take first.toNat)
      let _ ← d.int? "N"
      some (packedObjects data first.toNat limit (Text.words index.toList))

/-- What was read at the places of a table. -/
structure Found where
  /-- objects by number; of two with one number the later one counts -/
  objects : Std.TreeMap ObjId Loaded ObjId.order := ∅
  /-- the objects of streams of objects, in ascending order within each stream -/
  packed : Packed := []

/-- Enters an object that was read. -/
def Found.add (f : Found) (protected_ : Bool) (id : ObjId) (o : Loaded) : Except Fault Found :=
  let enter (o : Loaded) (more : Packed) : Found := ⟨f.objects.insert id o, f.packed ++ more⟩
  let opened (d : Dict) (data : Bytes) : Except Fault Found := do
    let (d, data) ← Filter.opened d data
    match packed? d data with
    | some more =>
        let sorted := more.foldl (fun (os : Objects) (i, p) => os.insert i p) []
        return enter (.whole (.stream d data)) sorted
    | none => return f
  let isPack (d : Dict) : Bool := d.type? = some "ObjStm" && !protected_
  match o with
  | .whole (.stream d data) => if isPack d then opened d data else .ok (enter o [])
  | .endless d _ => if isPack d then opened d [] else .ok (enter o [])
  | .whole _ => .ok (enter o [])

/-- Reads the objects at the places of a table. -/
def readAll (file : Places) (limit : Nat) (table : Xref.Table) (protected_ : Bool) :
    Except Fault Found :=
  table.toList.foldlM
    (fun f (_, e) => match e with
      | .packed => .ok f
      | .direct offset _ =>
          match objectAt file limit table [] none offset (table.size + 1) with
          | some (id, o) => f.add protected_ id o
          | none => .ok f)
    {}

/-- A stream without data yet. -/
def provisional : Loaded → Obj
  | .whole o => o
  | .endless d _ => .stream d []

/-- The length that a stream tells by reference. -/
def lateLength (doc : Document) (d : Dict) : Option Nat :=
  match d.get? "Length" with
  | some (.ref id) =>
      match doc.object id with
      | .ok (.int (.ofNat n)) => some n
      | _ => none
  | _ => none

/-- Gives the streams that were left open their data. -/
def finish (doc : Document) (found : List (ObjId × Loaded)) : Document :=
  let complete (os : Objects) (id : ObjId) (o : Loaded) : Objects :=
    match o with
    | .whole _ => os
    | .endless d rest =>
        match lateLength doc d with
        | some n =>
            let data := rest.take n
            if data.length < n then os else os.insert id (.ofData d data)
        | none => os
  { doc with objects := found.foldl (fun os (id, o) => complete os id o) doc.objects }

end Load

/-- Loads a file. -/
def load (file : Bytes) : Except Fault Document := do
  let version ← Load.header file
  let limit := file.length
  let some start := Load.startOf file | throw (.xref .start)
  let (table, trailer) ← Xref.all file limit start
  let found ← Load.readAll (.ofFile file) limit table (trailer.has "Encrypt")
  let objects : Objects := found.objects.toList.map fun (id, o) => (id, Load.provisional o)
  let objects := found.packed.foldl
    (fun os (id, o) => if (os.get? id).isSome then os else os.insert id o) objects
  return Load.finish { version, trailer, objects } found.objects.toList

end DocumentCard.Pdf
