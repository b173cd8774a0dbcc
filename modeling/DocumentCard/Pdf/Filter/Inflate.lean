import DocumentCard.Bytes
set_option autoImplicit false

/-!
# Inflating

Compressed data are bits, taken from each byte lowest first: a header of two bytes, blocks, and a
checksum of four bytes.  A block is stored as it is, or coded by a prefix code that is fixed or stands
at the head of the block.

Data that end too early are good as far as they go.  Data that are damaged are good as far as they
were handed on before the damage: that happens a whole window at a time, a window being as far as a
copy may reach back, and only when there is a byte to be written behind it.
-/

namespace DocumentCard.Pdf.Inflate

/-- Why inflating stops before the end. -/
inductive Stop where
  /-- the data end -/
  | cut
  /-- the data make no sense -/
  | damaged
  deriving DecidableEq, Repr

/-- The bits of the current byte that are still to come, the bytes behind it, and what has been
inflated. -/
structure State where
  ahead : Nat := 0
  left : Nat := 0
  rest : Bytes
  out : Array UInt8 := #[]

/-- A step of inflating: what it leaves stays even if it stops. -/
abbrev Step (α : Type) : Type := ExceptT Stop (StateM State) α

/-- The next bit. -/
def bit : Step Nat := do
  let s ← get
  match s.left, s.rest with
  | left + 1, _ =>
      set { s with ahead := s.ahead / 2, left := left }
      return s.ahead % 2
  | 0, b :: rest =>
      set { s with ahead := b.toNat / 2, left := 7, rest := rest }
      return b.toNat % 2
  | 0, [] => throw .cut

/-- A number of `n` bits, lowest first. -/
def bits (n : Nat) : Step Nat :=
  match n with
  | 0 => return 0
  | k + 1 => do
      let low ← bit
      let high ← bits k
      return low + 2 * high

/-- A byte at a byte's border; what is left of the current byte is dropped. -/
def byte : Step Nat := do
  modify fun s => { s with left := 0 }
  bits 8

/-- Writes one byte. -/
def put (b : UInt8) : Step Unit := modify fun s => { s with out := s.out.push b }

/-! ## Prefix codes -/

/-- A prefix code: how many symbols have a word of each length from one bit up, and the symbols in
the order of their words. -/
structure Code where
  counts : List Nat
  symbols : Array Nat

/-- The greatest length of a word. -/
def longest : Nat := 15

/-- The code in which each symbol has a word of the given length, none where the length is zero.
The words must fill the code unless there is at most one. -/
def Code.ofLengths? (lengths : List Nat) : Option Code :=
  let numbered := lengths.zipIdx
  let ofLength (n : Nat) : List Nat :=
    numbered.filterMap fun (l, symbol) => if l = n then some symbol else none
  let byLength := (List.range longest).map fun k => ofLength (k + 1)
  let counts := byLength.map List.length
  let room : Int := counts.foldl (fun (room : Int) (count : Nat) => 2 * room - count) 1
  let used : Nat := counts.foldl (· + ·) 0
  if room ≠ 0 ∧ 1 < used then none else some ⟨counts, byLength.flatten.toArray⟩

/-- Reads a word and finds its symbol.  `word` is what has been read, `first` the first word of that
length and `before` the number of symbols with shorter words. -/
def symbolFrom (symbols : Array Nat) (word first before : Nat) : List Nat → Step Nat
  | [] => throw .damaged
  | count :: counts => do
      let word := word + (← bit)
      if word < first + count then
        match symbols[before + (word - first)]? with
        | some s => return s
        | none => throw .damaged
      else symbolFrom symbols (2 * word) (2 * (first + count)) (before + count) counts

/-- The symbol of the next word. -/
def Code.symbol (c : Code) : Step Nat := symbolFrom c.symbols 0 0 0 c.counts

/-! ## Blocks -/

/-- The least length that a length symbol stands for, and how many bits are added to it. -/
def lengthBases : Array (Nat × Nat) :=
  #[(3, 0), (4, 0), (5, 0), (6, 0), (7, 0), (8, 0), (9, 0), (10, 0), (11, 1), (13, 1), (15, 1),
    (17, 1), (19, 2), (23, 2), (27, 2), (31, 2), (35, 3), (43, 3), (51, 3), (59, 3), (67, 4),
    (83, 4), (99, 4), (115, 4), (131, 5), (163, 5), (195, 5), (227, 5), (258, 0)]

/-- The least distance that a distance symbol stands for, and how many bits are added to it. -/
def distanceBases : Array (Nat × Nat) :=
  #[(1, 0), (2, 0), (3, 0), (4, 0), (5, 1), (7, 1), (9, 2), (13, 2), (17, 3), (25, 3), (33, 4),
    (49, 4), (65, 5), (97, 5), (129, 6), (193, 6), (257, 7), (385, 7), (513, 8), (769, 8),
    (1025, 9), (1537, 9), (2049, 10), (3073, 10), (4097, 11), (6145, 11), (8193, 12),
    (12289, 12), (16385, 13), (24577, 13)]

/-- A number given by a symbol of a table and further bits. -/
def extended (table : Array (Nat × Nat)) (symbol : Nat) : Step Nat :=
  match table[symbol]? with
  | some (base, extra) => return base + (← bits extra)
  | none => throw .damaged

/-- Copies bytes from `distance` back; what lies before the beginning counts as zero. -/
def copy (distance : Nat) : Nat → Step Unit
  | 0 => return
  | length + 1 => do
      let out := (← get).out
      let b := if distance ≤ out.size then out.getD (out.size - distance) 0 else 0
      put b
      copy distance length

/-- The symbols of a block up to its end mark. -/
def symbols (literals distances : Code) : Nat → Step Unit
  | 0 => throw .damaged
  | fuel + 1 => do
      let s ← literals.symbol
      if s < 256 then
        put (UInt8.ofNat s)
        symbols literals distances fuel
      else if s = 256 then return
      else
        let length ← extended lengthBases (s - 257)
        let distance ← extended distanceBases (← distances.symbol)
        copy distance length
        symbols literals distances fuel

/-- The lengths of the fixed code's words. -/
def fixedLengths : List Nat :=
  List.replicate 144 8 ++ List.replicate 112 9 ++ List.replicate 24 7 ++ List.replicate 8 8

/-- A code that must make sense. -/
def code (lengths : List Nat) : Step Code :=
  match Code.ofLengths? lengths with
  | some c => return c
  | none => throw .damaged

/-- The order in which the lengths of the code for lengths are given. -/
def lengthOrder : List Nat := [16, 17, 18, 0, 8, 7, 9, 6, 10, 5, 11, 4, 12, 3, 13, 2, 14, 1, 15]

/-- Reads word lengths until there are `wanted`; `seen` holds them last first. -/
def wordLengths (c : Code) (wanted : Nat) (seen : List Nat) : Nat → Step (List Nat)
  | 0 => throw .damaged
  | fuel + 1 => do
      if seen.length = wanted then return seen.reverse
      let s ← c.symbol
      if s < 16 then wordLengths c wanted (s :: seen) fuel
      else
        let (length, times) ←
          if s = 16 then
            match seen with
            | [] => throw .damaged
            | l :: _ => pure (l, 3 + (← bits 2))
          else if s = 17 then pure (0, 3 + (← bits 3))
          else pure (0, 11 + (← bits 7))
        if wanted < seen.length + times then throw .damaged
        wordLengths c wanted (List.replicate times length ++ seen) fuel

/-- The two codes at the head of a block. -/
def blockCodes : Step (Code × Code) := do
  let literalCount := 257 + (← bits 5)
  let distanceCount := 1 + (← bits 5)
  let lengthCount := 4 + (← bits 4)
  let given ← (lengthOrder.take lengthCount).mapM fun place => do
    return (place, ← bits 3)
  let lengths := (List.range 19).map fun place =>
    ((given.find? (·.1 = place)).map Prod.snd).getD 0
  let lengthCode ← code lengths
  let all ← wordLengths lengthCode (literalCount + distanceCount) []
    (literalCount + distanceCount + 1)
  return (← code (all.take literalCount), ← code (all.drop literalCount))

/-- Bytes that are stored as they are. -/
def stored : Nat → Step Unit
  | 0 => return
  | n + 1 => do
      put (UInt8.ofNat (← byte))
      stored n

/-- One block; tells whether it was the last one. -/
def block (limit : Nat) : Step Bool := do
  let last ← bit
  let kind ← bits 2
  match kind with
  | 0 =>
      let low ← byte
      let length := low + 256 * (← byte)
      let low ← byte
      let check := low + 256 * (← byte)
      if length + check ≠ 0xFFFF then throw .damaged
      stored length
  | 1 => symbols (← code fixedLengths) (← code (List.replicate 32 5)) limit
  | 2 =>
      let (literals, distances) ← blockCodes
      symbols literals distances limit
  | _ => throw .damaged
  return last = 1

/-- Blocks up to the last one. -/
def blocks (limit : Nat) : Nat → Step Unit
  | 0 => throw .damaged
  | fuel + 1 => do
      if ← block limit then return
      blocks limit fuel

/-- The checksum of data: two sums, the second one of the first. -/
def checksum (data : Array UInt8) : Nat :=
  let (a, b) := data.foldl
    (fun (a, b) byte => let a := (a + byte.toNat) % 65521; (a, (b + a) % 65521)) (1, 0)
  b * 65536 + a

/-- A whole compressed text: header, blocks and checksum. -/
def whole (limit : Nat) : Step Unit := do
  let first ← byte
  let second ← byte
  if (first * 256 + second) % 31 ≠ 0 ∨ second / 32 % 2 = 1 ∨ first % 16 ≠ 8 ∨ 7 < first / 16 then
    throw .damaged
  blocks limit limit
  let a ← byte
  let b ← byte
  let c ← byte
  let d ← byte
  if ((a * 256 + b) * 256 + c) * 256 + d ≠ checksum (← get).out then throw .damaged

/-- How far a copy may reach back. -/
def window : Nat := 32768

/-- How many of the bytes inflated so far have been handed on: whole windows behind which at least
one byte has been written. -/
def handedOn (inflated : Nat) : Nat := (inflated - 1) / window * window

/-- Inflates data, as far as they are good. -/
def inflate (bytes : Bytes) : Bytes :=
  let (outcome, s) := (whole (8 * bytes.length + 1)).run.run { rest := bytes }
  match outcome with
  | .error .damaged => s.out.toList.take (handedOn s.out.size)
  | _ => s.out.toList

end DocumentCard.Pdf.Inflate
