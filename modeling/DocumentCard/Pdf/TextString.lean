import DocumentCard.Pdf.Object
import DocumentCard.Text.Utf16
set_option autoImplicit false

/-!
# Text strings

A text that people read is written in ASCII if it is nothing else, and otherwise in UTF-16 behind
the mark U+FEFF, highest byte first.  Reading goes by the mark; without it, each byte is a
character.

Main statement: every text is read back (`decode_encode`).
-/

namespace DocumentCard.Pdf.TextString

/-- The mark of UTF-16 text. -/
def mark : Bytes := [0xFE, 0xFF]

/-- A text of nothing but ASCII. -/
def isAscii (text : List Char) : Bool := text.all fun c => c.toNat < 128

/-- The bytes of a text. -/
def encode (text : List Char) : Bytes :=
  if isAscii text then Bytes.latin1 text
  else mark ++ Text.Utf16.toBytes (Text.Utf16.encode text)

/-- A text as an object: a literal string in ASCII, a hexadecimal one in UTF-16. -/
def toObj (text : List Char) : Obj :=
  .str (encode text) (if isAscii text then .literal else .hexadecimal)

/-- The text of bytes. -/
def decode (bytes : Bytes) : List Char :=
  match bytes with
  | 0xFE :: 0xFF :: rest => Text.Utf16.decode (Text.Utf16.ofBytes rest)
  | _ => Bytes.toLatin1 bytes

theorem decode_latin1 (text : List Char) (h : isAscii text = true) :
    decode (Bytes.latin1 text) = text := by
  have small : ∀ c ∈ text, c.toNat < 128 := by simpa [isAscii] using h
  have back : Bytes.toLatin1 (Bytes.latin1 text) = text :=
    Bytes.toLatin1_latin1 text fun c hc => by have := small c hc; omega
  unfold decode
  split
  · rename_i rest e
    cases text with
    | nil => simp [Bytes.latin1] at e
    | cons c cs =>
        have hc : c.toNat < 128 := small c (by simp)
        simp only [Bytes.latin1, List.map_cons, List.cons.injEq] at e
        have : (UInt8.ofNat c.toNat).toNat = 254 := by rw [e.1]; decide
        rw [UInt8.toNat_ofNat', Nat.mod_eq_of_lt (by omega)] at this
        omega
  · exact back

/-- Every text is read back. -/
theorem decode_encode (text : List Char) : decode (encode text) = text := by
  unfold encode
  split
  · rename_i h
    exact decode_latin1 text h
  · simp [mark, decode, Text.Utf16.decode_ofBytes_toBytes]

end DocumentCard.Pdf.TextString
