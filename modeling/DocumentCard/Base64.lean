import DocumentCard.Bytes
set_option autoImplicit false

/-!
# Base64

Three bytes are written as four characters of an alphabet of sixty-four, with `=` in the places that
a last incomplete group leaves empty.  Reading is strict: the padding has to be complete, the unused
bits of the last character have to be zero, and the first thing that is wrong is named with its
place.
-/

namespace DocumentCard.Base64

/-- The character of a six-bit number. -/
def symbol (n : Nat) : UInt8 :=
  if n < 26 then UInt8.ofNat (65 + n)
  else if n < 52 then UInt8.ofNat (71 + n)
  else if n < 62 then UInt8.ofNat (n - 4)
  else if n = 62 then 0x2B
  else 0x2F

/-- The six-bit number of a character. -/
def symbolValue? (b : UInt8) : Option Nat :=
  let n := b.toNat
  if 65 ≤ n ∧ n ≤ 90 then some (n - 65)
  else if 97 ≤ n ∧ n ≤ 122 then some (n - 71)
  else if 48 ≤ n ∧ n ≤ 57 then some (n + 4)
  else if n = 43 then some 62
  else if n = 47 then some 63
  else none

/-- The padding character. -/
def pad : UInt8 := 0x3D

/-! ## Writing -/

/-- Writes bytes; `seen` holds the characters written so far, last first. -/
def encodeFrom (seen : Bytes) : Bytes → Bytes
  | a :: b :: c :: rest =>
      let n := (a.toNat * 256 + b.toNat) * 256 + c.toNat
      encodeFrom
        (symbol (n % 64) :: symbol (n / 64 % 64) :: symbol (n / 4096 % 64)
          :: symbol (n / 262144) :: seen) rest
  | [a, b] =>
      let n := (a.toNat * 256 + b.toNat) * 4
      (pad :: symbol (n % 64) :: symbol (n / 64 % 64) :: symbol (n / 4096) :: seen).reverse
  | [a] =>
      let n := a.toNat * 16
      (pad :: pad :: symbol (n % 64) :: symbol (n / 64) :: seen).reverse
  | [] => seen.reverse

/-- Bytes in base64. -/
def encode (bytes : Bytes) : Bytes := encodeFrom [] bytes

/-- Bytes in base64, as text. -/
def encodeText (bytes : Bytes) : String := String.ofList (Bytes.toLatin1 (encode bytes))

/-! ## Reading -/

/-- Why a text is not base64. -/
inductive Fault where
  /-- a byte that does not belong where it stands -/
  | invalidByte (byte : UInt8) (offset : Nat)
  /-- a last character with bits that stand for nothing -/
  | invalidLastSymbol (byte : UInt8) (offset : Nat)
  /-- one character more than whole bytes take -/
  | invalidLength
  /-- too little padding -/
  | invalidPadding
  deriving DecidableEq, Repr

/-- The fault in words. -/
def Fault.message : Fault → String
  | .invalidByte b offset =>
      "Invalid byte " ++ decimalText b.toNat ++ ", offset " ++ decimalText offset ++ "."
  | .invalidLastSymbol b offset =>
      "Invalid last symbol " ++ decimalText b.toNat ++ ", offset " ++ decimalText offset ++ "."
  | .invalidLength => "Encoded text cannot have a 6-bit remainder."
  | .invalidPadding => "Invalid padding"

/-- Whether padding that starts at `offset` may be followed by `rest`. -/
def endsWell (offset : Nat) (rest : Bytes) : Bool :=
  match rest with
  | [] => 2 ≤ offset % 4
  | [b] => b = pad && offset % 4 = 2
  | _ => false

/-- The six-bit numbers of a text up to its padding, and how long the text is.  `seen` holds the
numbers before `offset`, last first, and `last` the byte before it. -/
def numbersFrom (seen : List Nat) (offset : Nat) (last : UInt8) :
    Bytes → Except Fault (List Nat × UInt8)
  | [] => .ok (seen, last)
  | b :: rest =>
      if b = pad then
        if endsWell offset rest then .ok (seen, last) else .error (.invalidByte pad offset)
      else
        match symbolValue? b with
        | some n => numbersFrom (n :: seen) (offset + 1) b rest
        | none => .error (.invalidByte b offset)

/-- The bytes of six-bit numbers; unused bits at the end are left out. -/
def bytesFrom (seen : Bytes) : List Nat → Bytes
  | a :: b :: c :: d :: rest =>
      let n := ((a * 64 + b) * 64 + c) * 64 + d
      bytesFrom (UInt8.ofNat n :: UInt8.ofNat (n / 256) :: UInt8.ofNat (n / 65536) :: seen) rest
  | [a, b, c] =>
      let n := ((a * 64 + b) * 64 + c) / 4
      (UInt8.ofNat n :: UInt8.ofNat (n / 256) :: seen).reverse
  | [a, b] => (UInt8.ofNat ((a * 64 + b) / 16) :: seen).reverse
  | _ => seen.reverse

/-- Whether the last of so many six-bit numbers has bits that belong to no byte. -/
def spareBits (count last : Nat) : Bool :=
  (count % 4 = 2 && last % 16 ≠ 0) || (count % 4 = 3 && last % 4 ≠ 0)

/-- The bytes that a text stands for. -/
def decode (text : Bytes) : Except Fault Bytes :=
  let length := text.length
  if length % 4 = 1 then
    match text.getLast? with
    | some b =>
        if b ≠ pad ∧ (symbolValue? b).isNone then .error (.invalidByte b (length - 1))
        else .error .invalidLength
    | none => .error .invalidLength
  else
    match numbersFrom [] 0 pad text with
    | .error e => .error e
    | .ok (numbers, last) =>
        if length % 4 ≠ 0 then .error .invalidPadding
        else if spareBits numbers.length (numbers.headD 0) then
          .error (.invalidLastSymbol last (numbers.length - 1))
        else .ok (bytesFrom [] numbers.reverse)

example : (decode (encode [1, 2, 255, 0, 7])).toOption = some [1, 2, 255, 0, 7] := by decide +kernel

end DocumentCard.Base64
