import DocumentCard.Json.Value
import DocumentCard.Json.Fault
set_option autoImplicit false

/-!
# Numbers in a JSON text

A whole number that fits 64 bits is exact.  Any other number is a double, found in two roundings:
the leading digits that fit 64 bits are rounded to a double, and that is multiplied or divided by
the double nearest to the power of ten.  A result beyond the greatest double is refused; one below
the least is zero.
-/

namespace DocumentCard.Json.Number

/-- What stands after a number's first part: its value, and the rest of the text. -/
abbrev Reading : Type := Except SyntaxFault (Value × Bytes)

/-! ## Doubles -/

/-- A double's absolute value as a fraction. -/
def magnitude (bits : Nat) : Nat × Nat :=
  match Decimal.double.decode bits with
  | .finite _ m q _ => Decimal.quotient m q
  | _ => (0, 1)

/-- The double nearest to a fraction. -/
def nearest (num den : Nat) : Nat := Decimal.double.nearest false num den

/-- The bits of positive infinity. -/
def infinity : Nat := 0x7FF0000000000000

/-- The product of two positive doubles. -/
def times (a b : Nat) : Nat :=
  let (an, ad) := magnitude a
  let (bn, bd) := magnitude b
  nearest (an * bn) (ad * bd)

/-- The quotient of two positive doubles. -/
def quotient (a b : Nat) : Nat :=
  let (an, ad) := magnitude a
  let (bn, bd) := magnitude b
  nearest (an * bd) (ad * bn)

/-- The greatest power of ten that has a double. -/
def greatestPower : Nat := 308

/-- The double nearest to a power of ten. -/
def power (e : Nat) : Nat := nearest (Nat.pow 10 e) 1

/-- `significand · 10 ^ exponent`; what is too small is divided in steps, and a few steps make any
double zero. -/
def scaled (significand : Nat) (exponent : Int) : Nat → Except SyntaxFault Nat
  | 0 => .ok 0
  | steps + 1 =>
      if exponent.natAbs ≤ greatestPower then
        if 0 ≤ exponent then
          let product := times significand (power exponent.natAbs)
          if product = infinity then .error .numberOutOfRange else .ok product
        else .ok (quotient significand (power exponent.natAbs))
      else if significand = 0 then .ok 0
      else if 0 ≤ exponent then .error .numberOutOfRange
      else scaled (quotient significand (power greatestPower)) (exponent + greatestPower) steps

/-- A double with its sign. -/
def signed (negative : Bool) (bits : Nat) : Value :=
  .double (if negative then 0x8000000000000000 + bits else bits)

/-- The number made of its parts. -/
def ofParts (negative : Bool) (significand : Nat) (exponent : Int) (rest : Bytes) : Reading := do
  return (signed negative (← scaled (nearest significand 1) exponent 5), rest)

/-! ## Reading -/

/-- Takes digits into a number as long as it stays below `2 ^ 64`; also counts them. -/
def takeDigits (number count : Nat) : Bytes → Nat × Nat × Bytes
  | [] => (number, count, [])
  | b :: rest =>
      if Bytes.isDigit b ∧ number * 10 + (b.toNat - 48) < 0x10000000000000000 then
        takeDigits (number * 10 + (b.toNat - 48)) (count + 1) rest
      else (number, count, b :: rest)

/-- Whether a text starts with the mark of an exponent. -/
def atExponent : Bytes → Bool
  | b :: _ => b = 0x65 || b = 0x45
  | [] => false

/-- Whether a text starts with a digit. -/
def atDigit : Bytes → Bool
  | b :: _ => Bytes.isDigit b
  | [] => false

/-- The greatest exponent that is read as a number. -/
def greatestExponent : Nat := 0x7FFFFFFF

/-- Reads an exponent behind its mark. -/
def exponent (negative : Bool) (significand : Nat) (start : Int) (bytes : Bytes) : Reading :=
  let (below, bytes) := match bytes with
    | b :: rest => if b = 0x2D then (true, rest) else if b = 0x2B then (false, rest)
        else (false, b :: rest)
    | [] => (false, [])
  if bytes.isEmpty then .error .endInValue
  else if !atDigit bytes then .error .invalidNumber
  else
    let (ds, rest) := bytes.span Bytes.isDigit
    let e := Bytes.decimalValue ds
    if greatestExponent < e then
      if significand ≠ 0 ∧ !below then .error .numberOutOfRange
      else .ok (signed negative 0, rest)
    else ofParts negative significand (if below then start - e else start + e) rest

/-- What follows a number's digits: an exponent or nothing. -/
def afterDigits (negative : Bool) (significand : Nat) (start : Int) (bytes : Bytes) : Reading :=
  if atExponent bytes then exponent negative significand start bytes.tail
  else ofParts negative significand start bytes

/-- Reads the digits behind a point. -/
def fraction (negative : Bool) (significand : Nat) (start : Int) (bytes : Bytes) : Reading :=
  if bytes.isEmpty then .error .endInValue
  else if !atDigit bytes then .error .invalidNumber
  else
    let (significand, count, rest) := takeDigits significand 0 bytes
    afterDigits negative significand (start - count) (rest.dropWhile Bytes.isDigit)

/-- A number all of whose whole digits fit 64 bits. -/
def afterWhole (negative : Bool) (n : Nat) (bytes : Bytes) : Reading :=
  match bytes with
  | 0x2E :: rest => fraction negative n 0 rest
  | _ =>
      if atExponent bytes then exponent negative n 0 bytes.tail
      else if !negative then .ok (.int n, bytes)
      else if n = 0 ∨ 0x8000000000000000 < n then .ok (signed true (nearest n 1), bytes)
      else .ok (.int (-(n : Int)), bytes)

/-- Reads a number behind its sign. -/
def read (negative : Bool) (bytes : Bytes) : Reading :=
  match bytes with
  | [] => .error .endInValue
  | b :: rest =>
      if b = 0x30 then
        if atDigit rest then .error .invalidNumber else afterWhole negative 0 rest
      else if Bytes.isDigit b then
        let (n, _, rest) := takeDigits 0 0 (b :: rest)
        if !atDigit rest then afterWhole negative n rest
        else
          let (more, rest) := rest.span Bytes.isDigit
          match rest with
          | 0x2E :: behind => fraction negative n more.length behind
          | _ => afterDigits negative n more.length rest
      else .error .invalidNumber

/-! ## Passing over -/

/-- Passes over an exponent behind its mark. -/
def skipExponent (bytes : Bytes) : Except SyntaxFault Bytes :=
  let bytes := match bytes with
    | b :: rest => if b = 0x2D ∨ b = 0x2B then rest else b :: rest
    | [] => []
  if atDigit bytes then .ok (bytes.dropWhile Bytes.isDigit) else .error .invalidNumber

/-- Passes over a number behind its sign, whatever its size. -/
def skip (bytes : Bytes) : Except SyntaxFault Bytes :=
  let afterWhole (bytes : Bytes) : Except SyntaxFault Bytes :=
    match bytes with
    | 0x2E :: rest =>
        if !atDigit rest then .error .invalidNumber
        else
          let rest := rest.dropWhile Bytes.isDigit
          if atExponent rest then skipExponent rest.tail else .ok rest
    | _ => if atExponent bytes then skipExponent bytes.tail else .ok bytes
  match bytes with
  | [] => .error .invalidNumber
  | b :: rest =>
      if b = 0x30 then if atDigit rest then .error .invalidNumber else afterWhole rest
      else if Bytes.isDigit b then afterWhole (rest.dropWhile Bytes.isDigit)
      else .error .invalidNumber

end DocumentCard.Json.Number
