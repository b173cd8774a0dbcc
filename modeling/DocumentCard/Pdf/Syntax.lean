import DocumentCard.Pdf.Object
import DocumentCard.Pdf.Literal
set_option autoImplicit false

/-!
# Reading objects

How an object stands in a file.  Every reader takes the bytes from a place on and returns what it
has read and the bytes behind it; it reads the longest object that starts there, in a fixed order of
kinds, and does not care what follows.

A stream tells its length before its data, perhaps by a reference to another object, so the reader of
whole objects is given a way to look such a length up.  A stream whose length cannot be told yet is
left open together with the bytes that follow it.
-/

namespace DocumentCard.Pdf.Syntax

/-! ## Characters -/

/-- White space. -/
def isWhite (b : UInt8) : Bool :=
  b = 0x20 || b = 0x09 || b = 0x0A || b = 0x0D || b = 0x00 || b = 0x0C

/-- A character that ends a word. -/
def isDelimiter (b : UInt8) : Bool :=
  b = 0x28 || b = 0x29 || b = 0x3C || b = 0x3E || b = 0x5B || b = 0x5D || b = 0x7B || b = 0x7D
    || b = 0x2F || b = 0x25

/-- A character of a word. -/
def isRegular (b : UInt8) : Bool := !isWhite b && !isDelimiter b

/-- A character that does not end a line. -/
def isInLine (b : UInt8) : Bool := b ≠ 0x0A && b ≠ 0x0D

/-- The bytes behind a line end. -/
def lineEnd? : Bytes → Option Bytes
  | 0x0D :: 0x0A :: rest => some rest
  | 0x0A :: rest => some rest
  | 0x0D :: rest => some rest
  | _ => none

theorem length_of_lineEnd? {bytes rest : Bytes} (h : lineEnd? bytes = some rest) :
    rest.length < bytes.length := by
  unfold lineEnd? at h
  split at h
  · rw [← Option.some.inj h, List.length_cons, List.length_cons]
    omega
  · rw [← Option.some.inj h, List.length_cons]
    omega
  · rw [← Option.some.inj h, List.length_cons]
    omega
  · exact absurd h (Option.some_ne_none rest).symm

theorem length_dropWhile_le (p : UInt8 → Bool) (bytes : Bytes) :
    (bytes.dropWhile p).length ≤ bytes.length :=
  (List.dropWhile_suffix p).sublist.length_le

/-- The bytes behind white space and comments; a comment goes to the end of its line, and one
without a line end is none. -/
def space : Bytes → Bytes
  | [] => []
  | b :: rest =>
      if isWhite b then space rest
      else if b = 0x25 then
        match _h : lineEnd? (rest.dropWhile isInLine) with
        | some after => space after
        | none => b :: rest
      else b :: rest
termination_by bytes => bytes.length
decreasing_by
  · simp
  · have h1 := length_of_lineEnd? _h
    have h2 := length_dropWhile_le isInLine rest
    simp only [List.length_cons]
    omega

/-- The bytes behind an optional line end. -/
def optionalLineEnd (bytes : Bytes) : Bytes := (lineEnd? bytes).getD bytes

/-- The bytes behind a word. -/
def keyword (word : String) (bytes : Bytes) : Option Bytes :=
  Bytes.dropLead? (Bytes.ascii word) bytes

/-! ## Numbers -/

/-- A non-empty run of digits. -/
def digits (bytes : Bytes) : Option (Bytes × Bytes) :=
  let (ds, rest) := bytes.span Bytes.isDigit
  if ds.isEmpty then none else some (ds, rest)

/-- A number without a sign, below a bound. -/
def unsigned (bound : Nat) (bytes : Bytes) : Option (Nat × Bytes) := do
  let (ds, rest) ← digits bytes
  let n := Bytes.decimalValue ds
  if n < bound then some (n, rest) else none

/-- A sign, if there is one: whether it is a minus. -/
def sign : Bytes → Bool × Bytes
  | 0x2D :: rest => (true, rest)
  | 0x2B :: rest => (false, rest)
  | bytes => (false, bytes)

/-- A whole number of 64 bits. -/
def integer (bytes : Bytes) : Option (Int × Bytes) := do
  let (negative, rest) := sign bytes
  let (ds, rest) ← digits rest
  let n : Int := Bytes.decimalValue ds
  let i := if negative then -n else n
  if -0x8000000000000000 ≤ i ∧ i < 0x8000000000000000 then some (i, rest) else none

/-- A number with a point. -/
def real (bytes : Bytes) : Option (Single × Bytes) := do
  let (negative, rest) := sign bytes
  let (whole, rest) := rest.span Bytes.isDigit
  let rest ← keyword "." rest
  let (places, rest) := rest.span Bytes.isDigit
  if whole.isEmpty && places.isEmpty then none
  else
    some (Single.ofQuotient negative (Bytes.decimalValue (whole ++ places)) (Nat.pow 10 places.length),
      rest)

/-- An object's number and generation. -/
def objId (bytes : Bytes) : Option (ObjId × Bytes) := do
  let (num, rest) ← unsigned 0x100000000 bytes
  let (gen, rest) ← unsigned 0x10000 (space rest)
  some (⟨num, gen⟩, space rest)

/-- A reference to an object. -/
def reference (bytes : Bytes) : Option (Obj × Bytes) := do
  let (id, rest) ← objId bytes
  let rest ← keyword "R" rest
  some (.ref id, rest)

/-- A reference or a number. -/
def numeric (bytes : Bytes) : Option (Obj × Bytes) :=
  reference bytes
    <|> (real bytes).map (fun (x, rest) => (.real x, rest))
    <|> (integer bytes).map (fun (i, rest) => (.int i, rest))

/-! ## Names and strings -/

/-- The characters of a name behind its slash; `seen` holds those already read, last first. -/
def nameFrom (seen : Bytes) : Bytes → Bytes × Bytes
  | [] => (seen.reverse, [])
  | 0x23 :: a :: b :: rest =>
      match Bytes.hexValue? a, Bytes.hexValue? b with
      | some high, some low => nameFrom (UInt8.ofNat (high * 16 + low) :: seen) rest
      | _, _ => (seen.reverse, 0x23 :: a :: b :: rest)
  | b :: rest =>
      if b ≠ 0x23 ∧ isRegular b then nameFrom (b :: seen) rest else (seen.reverse, b :: rest)

/-- A name. -/
def name (bytes : Bytes) : Option (String × Bytes) := do
  let rest ← keyword "/" bytes
  let (n, rest) := nameFrom [] rest
  some (String.ofList (Bytes.toLatin1 n), rest)

/-- The digits of a hexadecimal string up to its end; `high` is the first digit of an unfinished
pair, and a last single digit counts as the first of a pair. -/
def hexFrom (seen : Bytes) (high : Option Nat) : Bytes → Option (Bytes × Bytes)
  | [] => none
  | b :: rest =>
      if isWhite b then hexFrom seen high rest
      else if b = 0x3E then
        let seen := match high with
          | some h => UInt8.ofNat (h * 16) :: seen
          | none => seen
        some (seen.reverse, rest)
      else
        match Bytes.hexValue? b, high with
        | some low, some h => hexFrom (UInt8.ofNat (h * 16 + low) :: seen) none rest
        | some h, none => hexFrom seen (some h) rest
        | none, _ => none

/-! ## Objects -/

/-- Objects one after another, each followed by white space, as long as there are any. -/
def items (item : Bytes → Option (Obj × Bytes)) (seen : List Obj) : Nat → Bytes → List Obj × Bytes
  | 0, bytes => (seen.reverse, bytes)
  | fuel + 1, bytes =>
      match item bytes with
      | some (o, rest) => items item (o :: seen) fuel (space rest)
      | none => (seen.reverse, bytes)

/-- Keys and values one after another, as long as there are any. -/
def entries (item : Bytes → Option (Obj × Bytes)) (seen : Dict) : Nat → Bytes → Dict × Bytes
  | 0, bytes => (seen, bytes)
  | fuel + 1, bytes =>
      let entry : Option ((String × Obj) × Bytes) := do
        let (key, rest) ← name bytes
        let (o, rest) ← item (space rest)
        some ((key, o), rest)
      match entry with
      | some ((key, o), rest) => entries item (seen.set key o) fuel (space rest)
      | none => (seen, bytes)

/-- A dictionary whose values `item` reads. -/
def dictOf (item : Bytes → Option (Obj × Bytes)) (limit : Nat) (bytes : Bytes) : Option (Dict × Bytes) := do
  let rest ← keyword "<<" bytes
  let (d, rest) := entries item [] limit (space rest)
  let rest ← keyword ">>" rest
  some (d, rest)

/-- An object that is no stream; `limit` bounds how many may stand in a row, and `depth` how many
inside each other. -/
def direct (limit depth : Nat) (bytes : Bytes) : Option (Obj × Bytes) :=
  match depth with
  | 0 => none
  | d + 1 =>
      match bytes with
      | [] => none
      | b :: rest =>
          if b = 0x6E then (keyword "null" bytes).map (Obj.null, ·)
          else if b = 0x74 then (keyword "true" bytes).map (Obj.bool true, ·)
          else if b = 0x66 then (keyword "false" bytes).map (Obj.bool false, ·)
          else if b = 0x2F then (name bytes).map fun (n, rest) => (.name n, rest)
          else if b = 0x28 then (Literal.read rest).map fun (s, rest) => (.str s .literal, rest)
          else if b = 0x5B then
            let (os, rest) := items (direct limit d) [] limit (space rest)
            (keyword "]" rest).map (Obj.arr os, ·)
          else if b = 0x3C then
            match hexFrom [] none rest with
            | some (s, rest) => some (.str s .hexadecimal, rest)
            | none => (dictOf (direct limit d) limit bytes).map fun (d, rest) => (.dict d, rest)
          else numeric bytes

/-- An object that was read, or a stream whose data are still to be cut off from what follows. -/
inductive Loaded where
  | whole (o : Obj)
  | endless (d : Dict) (rest : Bytes)
  deriving Inhabited

/-- What became of an attempt to read a stream. -/
inductive StreamReading where
  /-- no stream stands here -/
  | none
  /-- a stream stands here, and it is broken -/
  | broken
  | found (o : Loaded)

/-- The data of a stream of known length: they must be followed by their end mark. -/
def streamData (d : Dict) (length : Nat) (bytes : Bytes) : StreamReading :=
  let data := bytes.take length
  if data.length < length then .none
  else
    match keyword "endstream" (optionalLineEnd (bytes.drop length)) with
    | Option.none => .none
    | some _ => .found (.whole (.ofData d data))

/-- A stream behind its dictionary; `lengthAt` looks up a length that is given by reference. -/
def streamBehind (lengthAt : ObjId → Option Int) (d : Dict) (bytes : Bytes) : StreamReading :=
  match (keyword "stream" (space bytes)).bind lineEnd? with
  | Option.none => .none
  | some rest =>
      let length : Option Int := match d.get? "Length" with
        | some (.ref id) => lengthAt id
        | some (.int i) => some i
        | _ => Option.none
      match length with
      | Option.none => .found (.endless d rest)
      | some (.ofNat n) => streamData d n rest
      | some (.negSucc _) => .broken

/-- An object with its number and generation in front. -/
def indirect (limit : Nat) (lengthAt : ObjId → Option Int) (expected : Option ObjId)
    (bytes : Bytes) : Option (ObjId × Loaded) := do
  let (id, rest) ← objId (space bytes)
  let rest ← keyword "obj" rest
  if expected.any (· ≠ id) then none
  else
    let rest := space rest
    let asStream := match dictOf (direct limit limit) limit rest with
      | some (d, behind) => streamBehind lengthAt d behind
      | none => .none
    match asStream with
    | .found o => some (id, o)
    | .broken => none
    | .none => (direct limit limit rest).map fun (o, _) => (id, .whole o)

end DocumentCard.Pdf.Syntax
