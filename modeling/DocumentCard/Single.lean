import DocumentCard.Decimal.Shortest
set_option autoImplicit false

/-!
# Single-precision numbers

All geometry of a page is computed in single precision.  The arithmetic is the machine's; what a
number is rounded to, and how it is written, is computed from its bits in exact arithmetic.
-/

namespace DocumentCard

/-- A number in single precision. -/
abbrev Single : Type := Float32

namespace Single

/-- The number taken apart. -/
def binary (x : Single) : Decimal.Binary := Decimal.single.decode x.toBits.toNat

/-- The number nearest to plus or minus `num / den`. -/
def ofQuotient (negative : Bool) (num den : Nat) : Single :=
  Float32.ofBits (UInt32.ofNat (Decimal.single.nearest negative num den))

/-- The number nearest to a positive fraction. -/
def ratio (num den : Nat) : Single := ofQuotient false num den

/-- The number nearest to a whole number. -/
def ofInt (i : Int) : Single := ofQuotient (i < 0) i.natAbs 1

/-- The text with a fixed count of decimal places. -/
def fixed (places : Nat) (x : Single) : List Char := Decimal.fixed places x.binary

/-- The shortest text that reads back, without an exponent. -/
def plain (x : Single) : List Char := Decimal.plain x.binary

/-- The greatest count that a word of the machine holds. -/
def greatestCount : Nat := 0xFFFFFFFFFFFFFFFF

/-- The count that is left when a number's fraction is cut off; nothing below zero and no number at
all count as zero, and what is too great as the greatest count. -/
def count (x : Single) : Nat :=
  match x.binary with
  | .notANumber => 0
  | .infinite negative => if negative then 0 else greatestCount
  | .finite negative m q _ =>
      let (num, den) := Decimal.quotient m q
      if negative then 0 else min greatestCount (num / den)

/-- The nearest whole number, a half going away from zero, kept within 64 bits; no number at all
counts as zero. -/
def rounded (x : Single) : Int :=
  match x.binary with
  | .notANumber => 0
  | .infinite negative => if negative then -0x8000000000000000 else 0x7FFFFFFFFFFFFFFF
  | .finite negative m q _ =>
      let (num, den) := Decimal.quotient m q
      let nearest : Nat := (2 * num + den) / (2 * den)
      if negative then max (-0x8000000000000000) (-(nearest : Int))
      else min 0x7FFFFFFFFFFFFFFF (nearest : Int)

/-- The smaller of two numbers; what is no number is passed over. -/
def least (a b : Single) : Single :=
  if a.isNaN then b else if b.isNaN then a else if b < a then b else a

/-- The greater of two numbers; what is no number is passed over. -/
def greatest (a b : Single) : Single :=
  if a.isNaN then b else if b.isNaN then a else if a < b then b else a

/-- An angle in degrees as one in radians. -/
def radians (degrees : Single) : Single := degrees * Float32.ofBits 0x3c8efa35

end Single

end DocumentCard
