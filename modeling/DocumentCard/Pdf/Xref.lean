import DocumentCard.Pdf.Syntax
import DocumentCard.Pdf.Filter
import Std.Data.TreeMap.Basic
set_option autoImplicit false

/-!
# Cross-reference sections

A cross-reference section tells at which place of the file each object stands.  It is a table of
lines with a trailer dictionary behind it, or a stream of fixed-width rows whose dictionary is the
trailer.  Sections of earlier states of a file add the objects that later ones do not mention.
-/

namespace DocumentCard.Pdf.Xref

/-- Where an object stands. -/
inductive Entry where
  /-- at a place of the file -/
  | direct (offset gen : Nat)
  /-- in a stream of objects -/
  | packed
  deriving DecidableEq, Repr, Inhabited

/-- Entries by object number. -/
abbrev Table : Type := Std.TreeMap Nat Entry

/-- The entries of `t`, and those of an earlier table for numbers that `t` lacks. -/
def Table.withEarlier (t earlier : Table) : Table :=
  earlier.foldl (fun t num e => t.insertIfNew num e) t

/-- Object numbers have 32 bits. -/
def wordSize : Nat := 0x100000000

/-! ## Tables -/

/-- A line of a table: the place, the generation and whether the object is in use. -/
structure Line where
  offset : Nat
  gen : Nat
  used : Bool

/-- Reads a line: two numbers, a letter and two characters that end the line. -/
def line (bytes : Bytes) : Option (Line × Bytes) := do
  let (offset, rest) ← Syntax.unsigned wordSize bytes
  let (gen, rest) ← Syntax.unsigned wordSize (← Syntax.keyword " " rest)
  let (used, rest) ← match (← Syntax.keyword " " rest) with
    | 0x6E :: rest => some (true, rest)
    | 0x66 :: rest => some (false, rest)
    | _ => none
  let rest ← Syntax.keyword " \r" rest <|> Syntax.keyword " \n" rest <|> Syntax.keyword "\r\n" rest
  some (⟨offset, gen, used⟩, rest)

/-- Enters the lines from a place on, as long as there are any; `num` is the number of the first. -/
def lines (t : Table) (num : Nat) : Nat → Bytes → Table × Bytes
  | 0, bytes => (t, bytes)
  | fuel + 1, bytes =>
      match line bytes with
      | none => (t, bytes)
      | some (l, rest) =>
          let t := if l.used ∧ l.gen < 0x10000 then t.insert (num % wordSize) (.direct l.offset l.gen)
            else t
          lines t (num + 1) fuel rest

/-- The head of a run of lines: the number of the first object; how many lines there are said to be
does not matter. -/
def runHead (bytes : Bytes) : Option (Nat × Bytes) := do
  let (start, rest) ← Syntax.unsigned 0x10000000000000000 bytes
  let (_, rest) ← Syntax.unsigned wordSize (← Syntax.keyword " " rest)
  let rest ← Syntax.lineEnd? ((Syntax.keyword " " rest).getD rest)
  some (start, rest)

/-- Enters runs of lines, as long as there are any. -/
def runs (t : Table) (limit : Nat) : Nat → Bytes → Table × Bytes
  | 0, bytes => (t, bytes)
  | fuel + 1, bytes =>
      match runHead bytes with
      | none => (t, bytes)
      | some (start, rest) =>
          let (t, rest) := lines t start limit rest
          runs t limit fuel rest

/-- A table with its trailer. -/
def table (limit : Nat) (bytes : Bytes) : Option (Table × Dict) := do
  let rest ← Syntax.lineEnd? (← Syntax.keyword "xref" bytes)
  let _ ← runHead rest
  let (t, rest) := runs ∅ limit limit rest
  let rest ← Syntax.keyword "trailer" (Syntax.space rest)
  let (d, _) ← Syntax.dictOf (Syntax.direct limit limit) limit (Syntax.space rest)
  some (t, d)

/-! ## Streams -/

/-- An array of integers. -/
def integers? (d : Dict) (key : String) : Option (List Int) := do
  (← (← d.get? key).arr?).mapM Obj.int?

/-- The first `width` bytes as a number of 32 bits. -/
def number (width : Nat) (data : Bytes) : Except Fault (Nat × Bytes) :=
  let taken := data.take width
  if taken.length < width then .error .cutShort
  else .ok (Bytes.toNumber taken % wordSize, data.drop width)

/-- Enters rows, the first of which is the row of object `num`. -/
def rows (w1 w2 w3 : Nat) (t : Table) (num : Int) : Nat → Bytes → Except Fault (Table × Bytes)
  | 0, data => .ok (t, data)
  | count + 1, data => do
      let (kind, data) ← if w1 = 0 then .ok (1, data) else number w1 data
      if kind = 0 ∨ kind = 1 ∨ kind = 2 then
        let (second, data) ← number w2 data
        let (third, data) ← number w3 data
        let place := (num % wordSize).toNat
        let t := if kind = 1 then t.insert place (.direct second (third % 0x10000))
          else if kind = 2 then t.insert place .packed
          else t
        rows w1 w2 w3 t (num + 1) count data
      else rows w1 w2 w3 t (num + 1) count data

/-- Enters the rows of several ranges of object numbers, each given by its start and length. -/
def ranges (w1 w2 w3 : Nat) (t : Table) : List Int → Bytes → Except Fault Table
  | start :: count :: more, data => do
      let (t, data) ← rows w1 w2 w3 t start count.toNat data
      ranges w1 w2 w3 t more data
  | _, _ => .ok t

/-- A stream's section. -/
def ofStream (d : Dict) (data : Bytes) : Except Fault (Table × Dict) := do
  let (d, data) ← Filter.opened d data
  match d.int? "Size", integers? d "W" with
  | some size, some (w1 :: w2 :: w3 :: _) =>
      if w1 < 0 ∨ w2 < 0 ∨ w3 < 0 then throw (.xref .unreadable)
      else
        let index := (integers? d "Index").getD [0, size]
        let t ← ranges w1.toNat w2.toNat w3.toNat ∅ index data
        return (t, ((d.erase "Length").erase "W").erase "Index")
  | _, _ => throw (.xref .unreadable)

/-! ## Sections -/

/-- The section that starts here, with its trailer. -/
def sectionAt (limit : Nat) (bytes : Bytes) : Except Fault (Table × Dict) :=
  match table limit bytes with
  | some (t, d) => if (d.int? "Size").isSome then .ok (t, d) else .error .trailer
  | none =>
      match Syntax.indirect limit (fun _ => none) none bytes with
      | none => .error .trailer
      | some (_, .whole (.stream d data)) => ofStream d data
      | some (_, .endless d _) => ofStream d []
      | some _ => .error (.xref .unreadable)

/-- The section at an offset, which must lie within the file. -/
def sectionAtOffset (file : Bytes) (limit : Nat) (offset : Int) (outside : XrefFault) :
    Except Fault (Table × Dict) :=
  if offset < 0 ∨ limit < offset.toNat then .error (.xref outside)
  else sectionAt limit (file.drop offset.toNat)

/-- Adds the sections of earlier states.  `extra` is the place of a stream section beside the first
of them, and `seen` holds the places already visited. -/
def earlier (file : Bytes) (limit : Nat) (t : Table) (extra : Option Int) (seen : List Int)
    (place : Option Int) : Nat → Except Fault Table
  | 0 => .ok t
  | fuel + 1 =>
      match place with
      | none => .ok t
      | some offset =>
          if offset ∈ seen then .ok t
          else do
            let (older, trailer) ← sectionAtOffset file limit offset .earlier
            let t := t.withEarlier older
            let t ← match extra with
              | none => pure t
              | some offset => do
                  let (beside, _) ← sectionAtOffset file limit offset .stream
                  pure (t.withEarlier beside)
            earlier file limit t none (offset :: seen) (trailer.int? "Prev") fuel

/-- All entries and the trailer of a file whose last section stands at `offset`. -/
def all (file : Bytes) (limit : Nat) (offset : Int) : Except Fault (Table × Dict) := do
  let (t, trailer) ← sectionAtOffset file limit offset .start
  let previous := trailer.int? "Prev"
  let t ← earlier file limit t (trailer.int? "XRefStm") [] previous (limit + 2)
  if t.contains (wordSize - 1) then throw (.xref .unreadable)
  let trailer := trailer.erase "Prev"
  return (t, if previous.isSome then trailer.erase "XRefStm" else trailer)

end DocumentCard.Pdf.Xref
