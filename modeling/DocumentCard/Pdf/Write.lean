import DocumentCard.Pdf.Document
import DocumentCard.Pdf.Literal
set_option autoImplicit false

/-!
# Writing a file

A file holds the objects in ascending order, each with its number and generation in front, then a
cross-reference table, the trailer, and the place of the table.  Numbers with a point are written in
full, never with an exponent; a whole one among them is written without a point and so becomes an
integer for the next reader.

Objects that only make sense in a file's own structure are left out.
-/

namespace DocumentCard.Pdf

namespace Write

/-- A character that a name cannot hold as it is. -/
def isSpecial (b : UInt8) : Bool :=
  b.toNat < 33 || 126 < b.toNat || (Bytes.ascii "()<>[]\x7b\x7d/%#").contains b

/-- A name behind its slash. -/
def nameBody (n : String) : Bytes :=
  (Bytes.latin1 n.toList).flatMap fun b =>
    if isSpecial b then 0x23 :: Bytes.latin1 (Bytes.hexPair b) else [b]

/-- A name. -/
def name (n : String) : Bytes := 0x2F :: nameBody n

/-- A string in its form. -/
def string (bytes : Bytes) : StringForm → Bytes
  | .literal => 0x28 :: Literal.body bytes ++ [0x29]
  | .hexadecimal =>
      0x3C :: (bytes.flatMap fun b => Bytes.latin1 (Bytes.hexPair b)) ++ [0x3E]

/-- A number and generation. -/
def objId (id : ObjId) : Bytes := Bytes.ascii (decimalText id.num ++ " " ++ decimalText id.gen)

mutual

/-- An object. -/
def obj : Obj → Bytes
  | .null => Bytes.ascii "null"
  | .bool b => Bytes.ascii (if b then "true" else "false")
  | .int i => Bytes.ascii (integerText i)
  | .real x => Bytes.latin1 x.plain
  | .name n => name n
  | .str bytes form => string bytes form
  | .arr items => 0x5B :: objs items ++ [0x5D]
  | .dict d => Bytes.ascii "<<" ++ entries d ++ Bytes.ascii ">>"
  | .stream d data =>
      Bytes.ascii "<<" ++ entries d ++ Bytes.ascii ">>stream\n" ++ data ++ Bytes.ascii "\nendstream"
  | .ref id => objId id ++ Bytes.ascii " R"

/-- The items of an array, each followed by a space. -/
def objs : List Obj → Bytes
  | [] => []
  | o :: rest => obj o ++ 0x20 :: objs rest

/-- The entries of a dictionary. -/
def entries : List (String × Obj) → Bytes
  | [] => []
  | (k, o) :: rest => name k ++ 0x20 :: obj o ++ 0x20 :: entries rest

end

/-- An object that only makes sense in a file's own structure. -/
def isStructural (o : Obj) : Bool :=
  let type := match o with
    | .dict d => Dict.type? d
    | .stream d _ => Dict.type? d
    | _ => none
  type = some "ObjStm" || type = some "XRef" || type = some "Linearized"

/-- The first line. -/
def header (version : String) : Bytes := Bytes.ascii ("%PDF-" ++ version ++ "\n")

/-- An object with its number and generation in front. -/
def indirect (id : ObjId) (o : Obj) : Bytes :=
  objId id ++ Bytes.ascii " obj\n" ++ obj o ++ Bytes.ascii "\nendobj\n"

/-- The place of each object, the first of which stands at `offset`, and the place behind the
last. -/
def places (offset : Nat) : List (ObjId × Bytes) → List (ObjId × Nat) × Nat
  | [] => ([], offset)
  | (id, bytes) :: rest =>
      let (more, behind) := places (offset + bytes.length) rest
      ((id, offset) :: more, behind)

/-- The lines of the cross-reference table for an object. -/
def xrefLines (id : ObjId) (offset : Nat) : Bytes :=
  Bytes.ascii (decimalText id.num ++ " 1\n")
    ++ Bytes.latin1 (padZeros 10 (decimal offset) ++ ' ' :: padZeros 5 (decimal id.gen))
    ++ Bytes.ascii " n \n"

end Write

/-- A document as a file. -/
def write (doc : Document) : Bytes :=
  let head := Write.header doc.version
  let objects := doc.objects.filterMap fun (id, o) =>
    if Write.isStructural o then none else some (id, Write.indirect id o)
  let (places, xref) := Write.places head.length objects
  let size := doc.objects.foldl (fun n (id, _) => max n (id.num + 1)) 1
  head ++ (objects.map Prod.snd).flatten
    ++ Bytes.ascii "xref\n0 1\n0000000000 65535 f \n"
    ++ places.flatMap (fun (id, offset) => Write.xrefLines id offset)
    ++ Bytes.ascii "trailer\n"
    ++ Write.obj (.dict (doc.trailer.set "Size" (.int size)))
    ++ Bytes.ascii ("\nstartxref\n" ++ decimalText xref ++ "\n%%EOF")

end DocumentCard.Pdf
