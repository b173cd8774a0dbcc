import DocumentCard.Bytes
set_option autoImplicit false

/-!
# LZW

Data are words of nine to twelve bits, highest bit first.  A word below 256 is a byte; 256 clears the
table and 257 ends the data; any other word is an entry of the table, which grows by one entry for
each word: the previous word's bytes and the first byte of this one.  Words get longer when the
table's next entry needs it, or one entry earlier.

Data that end without their end mark are good as far as they go; data with an impossible word are
good for nothing.
-/

namespace DocumentCard.Pdf.Lzw

/-- The word that clears the table. -/
def clear : Nat := 256

/-- The word that ends the data. -/
def finish : Nat := 257

/-- The greatest length of a word in bits. -/
def longest : Nat := 12

/-- The bits of a byte, highest first. -/
def bitsOf (b : UInt8) : List Bool := (List.range 8).map fun k => b.toNat.testBit (7 - k)

/-- A number of `n` bits, highest first. -/
def takeWord (value : Nat) : Nat → List Bool → Option (Nat × List Bool)
  | 0, bits => some (value, bits)
  | _ + 1, [] => none
  | n + 1, b :: bits => takeWord (2 * value + b.toNat) n bits

/-- The table's own entries, from 258 on, each with its bytes last first. -/
abbrev Table : Type := Array Bytes

/-- The next entry's number. -/
def Table.next (t : Table) : Nat := 258 + t.size

/-- The bytes of a word, last first. -/
def Table.entry? (t : Table) (word : Nat) : Option Bytes :=
  if word < 256 then some [UInt8.ofNat word] else if word < 258 then none else t[word - 258]?

/-- How long the next word is; `early` is one if words get longer one entry earlier. -/
def Table.width (t : Table) (early : Nat) : Nat :=
  let n := t.next + early
  if n < 512 then 9 else if n < 1024 then 10 else if n < 2048 then 11 else longest

/-- Decodes words; `previous` holds the bytes of the word before and `out` all bytes so far, both
last first. -/
def decodeFrom (early : Nat) (t : Table) (previous : Option Bytes) (out : Bytes) :
    Nat → List Bool → Bytes
  | 0, _ => []
  | fuel + 1, bits =>
      match takeWord 0 (t.width early) bits with
      | none => out.reverse
      | some (word, bits) =>
          if word = clear then decodeFrom early #[] none out fuel bits
          else if word = finish then out.reverse
          else
            match previous with
            | none =>
                match t.entry? word with
                | some bytes => decodeFrom early t (some bytes) (bytes ++ out) fuel bits
                | none => []
            | some before =>
                let full := Nat.pow 2 longest ≤ t.next
                let bytes? := match t.entry? word with
                  | some bytes => some bytes
                  | none => if word = t.next ∧ !full then some (before.getLast?.toList ++ before)
                      else none
                match bytes? with
                | none => []
                | some bytes =>
                    let t := if full then t else t.push (bytes.getLast?.toList ++ before)
                    decodeFrom early t (some bytes) (bytes ++ out) fuel bits

/-- Decodes data. -/
def decode (early : Bool) (bytes : Bytes) : Bytes :=
  decodeFrom early.toNat #[] none [] (bytes.length + 1) (bytes.flatMap bitsOf)

end DocumentCard.Pdf.Lzw
