set_option autoImplicit false

/-!
# Binary floating point, exactly

A number in a binary format of fixed width is an integer times a power of two, and everything the
program has to know about it (its decimal text, the integer nearest to it, the number nearest to a
decimal text) can be computed from that integer in exact arithmetic.  This module takes the bits of
a number apart (`Format.decode`) and finds the bits nearest to a quotient (`Format.nearest`).
-/

namespace DocumentCard.Decimal

/-- A binary format: the bits of its fraction and of its exponent; the sign takes one more. -/
structure Format where
  fraction : Nat
  exponent : Nat

/-- Single precision: 32 bits. -/
def single : Format := ⟨23, 8⟩

/-- Double precision: 64 bits. -/
def double : Format := ⟨52, 11⟩

/-- The number that a bit pattern stands for. -/
inductive Binary where
  | notANumber
  | infinite (negative : Bool)
  /-- plus or minus `m · 2 ^ q`; `lowest` when `m` is the least with its exponent, so that the
  neighbour below is only half as far as the one above -/
  | finite (negative : Bool) (m : Nat) (q : Int) (lowest : Bool)

namespace Format

/-- The exponent of two that belongs to the least numbers of the format. -/
def leastExponent (f : Format) : Int := 2 - Nat.pow 2 (f.exponent - 1) - f.fraction

/-- Takes a bit pattern apart. -/
def decode (f : Format) (bits : Nat) : Binary :=
  let fraction := bits % Nat.pow 2 f.fraction
  let biased := bits / Nat.pow 2 f.fraction % Nat.pow 2 f.exponent
  let negative := bits / Nat.pow 2 (f.fraction + f.exponent) % 2 = 1
  if biased = Nat.pow 2 f.exponent - 1 then
    if fraction = 0 then .infinite negative else .notANumber
  else if biased = 0 then .finite negative fraction f.leastExponent false
  else
    .finite negative (Nat.pow 2 f.fraction + fraction) (f.leastExponent + (biased - 1))
      (fraction = 0 && biased ≠ 1)

end Format

/-- `num / den` rounded to the nearest integer, a half to the even one. -/
def roundDiv (num den : Nat) : Nat :=
  let q := num / den
  let twice := 2 * (num % den)
  if twice < den then q
  else if den < twice then q + 1
  else if q % 2 = 0 then q else q + 1

/-- The rounded quotient is within half a unit of the exact one. -/
theorem roundDiv_close (num den : Nat) (h : 0 < den) :
    2 * (roundDiv num den * den) ≤ 2 * num + den ∧ 2 * num ≤ 2 * (roundDiv num den * den) + den := by
  have e : den * (num / den) + num % den = num := Nat.div_add_mod num den
  have hm : num % den < den := Nat.mod_lt _ h
  have c : num / den * den = den * (num / den) := Nat.mul_comm _ _
  have c1 : (num / den + 1) * den = den * (num / den) + den := by rw [Nat.add_mul, c]; omega
  unfold roundDiv
  simp only
  split
  · omega
  · split
    · omega
    · split <;> omega

namespace Format

/-- The bits of the number nearest to `num / den` (a tie goes to the even pattern); beyond the
greatest number lies infinity. -/
def nearest (f : Format) (negative : Bool) (num den : Nat) : Nat :=
  let sign := if negative then Nat.pow 2 (f.fraction + f.exponent) else 0
  if num = 0 then sign
  else
    let guess : Int := (Nat.log2 num : Int) - Nat.log2 den
    let below : Bool :=
      if guess ≥ 0 then num < den * Nat.pow 2 guess.toNat
      else num * Nat.pow 2 (-guess).toNat < den
    let log := if below then guess - 1 else guess
    let q := max f.leastExponent (log - f.fraction)
    let m :=
      if q ≥ 0 then roundDiv num (den * Nat.pow 2 q.toNat)
      else roundDiv (num * Nat.pow 2 (-q).toNat) den
    let bits :=
      if m < Nat.pow 2 f.fraction then m
      else (q - f.leastExponent + 1).toNat * Nat.pow 2 f.fraction + (m - Nat.pow 2 f.fraction)
    let infinity := (Nat.pow 2 f.exponent - 1) * Nat.pow 2 f.fraction
    sign + min bits infinity

example : single.nearest false 1 10 = 0x3dcccccd := by decide
example : double.nearest true 3 2 = 0xbff8000000000000 := by decide

end Format

/-- An integer's quotient text: `m · 2 ^ q` as a fraction of naturals. -/
def quotient (m : Nat) (q : Int) : Nat × Nat :=
  if q ≥ 0 then (m * Nat.pow 2 q.toNat, 1) else (m, Nat.pow 2 (-q).toNat)

end DocumentCard.Decimal
